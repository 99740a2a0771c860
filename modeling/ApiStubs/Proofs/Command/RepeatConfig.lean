import ApiStubs.Proofs.Command.SetConfig
import ApiStubs.Proofs.Configuration.Accepted
import ApiStubs.Proofs.Store.Repeat

/- Setting a value of the configuration again, and setting it in another configuration. What went well once goes well
   again and changes nothing, and it goes well or not whatever the value was before. The seed is the exception: a text
   with places is taken for a seed where there is none, and not where there is one. -/

set_option autoImplicit false

namespace ApiStubs.Command

open ApiStubs.Decimal ApiStubs.Text
open ApiStubs.Configuration (Made filePlace fileIn load ran_load ran_save save)
open ConfigKey (ReadAlike Repeats)
open Store (Beside FileName)

section

variable (host : Host) (t : Terminal) (key text : String)

-- Whatever a change fails with ends the command with another code than 0.
theorem change_counts (desk : Desk) :
    Ends (do
        let config ← load host
        match ConfigKey.set key text config with
        | .ok changed => saveChange host t key changed
        | .error (.invalid found) =>
            Job.write (t.error ("Validation error: " ++ (Error.invalid found).message))
            return Category.usage.exitCode
        | .error e => throw e) desk (fun _ _ => True) (fun e _ => e.exitCode ≠ 0) := by
  refine ends_bind (ends_imp (Configuration.load_ends host desk) (fun _ _ loaded => loaded)
    fun _ _ unread => Configuration.unread_counts unread) ?_
  rintro config loaded ⟨-, read⟩
  have changes := ConfigKey.set_returns key text config (Configuration.loaded_sound read)
  split
  · next changed _ =>
    refine ends_bind (ends_imp (Configuration.save_ends host changed.1 loaded) (fun _ _ holds => holds) ?_) ?_
    · rintro e after ⟨⟨fault, rfl⟩, -⟩
      exact Configuration.fault_counts fault
    · exact fun _ _ _ => ends_modify_bind (ends_pure trivial)
  · exact ends_modify_bind (ends_pure trivial)
  · next e other refused =>
    rcases returns_known changes refused with ⟨-, code⟩ | ⟨found, rfl⟩
    · exact ends_throw (by rw [code]; decide)
    · exact (other found rfl).elim

theorem ran_save_change (changed : Config × Value) (code : Int) (before after : Desk) :
    Ran (saveChange host t key changed) before code after ↔
      code = 0 ∧ ∃ saved, Ran (save host changed.1) before () saved ∧
        after = { saved with journal := saved.journal ++ t.success ("Set " ++ key ++ " = " ++ changed.2.display) } := by
  simp only [saveChange, ran_bind, Job.write, ran_modify, ran_pure]
  constructor
  · rintro ⟨_, saved, done, _, _, rfl, rfl, rfl⟩
    exact ⟨rfl, saved, done, rfl⟩
  · rintro ⟨rfl, saved, done, rfl⟩
    exact ⟨(), saved, done, (), _, rfl, rfl, rfl⟩

-- A value is set by loading, changing and saving, each of which goes well.
theorem ran_set_config (before after : Desk) :
    Ran (setConfig host t key text) before 0 after ↔
      ∃ config loaded changed saved, Ran (load host) before config loaded ∧
        ConfigKey.set key text config = .ok changed ∧ Ran (save host changed.1) loaded () saved ∧
        after = { saved with journal := saved.journal ++ t.success ("Set " ++ key ++ " = " ++ changed.2.display) } := by
  rw [setConfig, orReport, ran_catch]
  constructor
  · rintro (done | ⟨e, between, failed, handled⟩)
    · obtain ⟨config, loaded, load, rest⟩ := (ran_bind ..).mp done
      split at rest
      · next changed success =>
        obtain ⟨-, saved, stored, rfl⟩ := (ran_save_change ..).mp rest
        exact ⟨config, loaded, changed, saved, load, success, stored, rfl⟩
      · obtain ⟨_, _, -, code⟩ := (ran_bind ..).mp rest
        obtain ⟨usage, -⟩ := (ran_pure ..).mp code
        exact absurd usage (by decide)
      · exact absurd rest (ran_throw _ _ _ _)
    · have counts := bad_of_failed (change_counts host t key text before) failed
      split at handled
      · obtain ⟨_, _, -, code⟩ := (ran_bind ..).mp handled
        exact absurd ((ran_pure ..).mp code).1 counts
      · exact absurd handled (ran_throw _ _ _ _)
  · rintro ⟨config, loaded, changed, saved, load, success, stored, rfl⟩
    refine .inl ((ran_bind ..).mpr ⟨config, loaded, load, ?_⟩)
    rw [success]
    exact (ran_save_change ..).mpr ⟨rfl, saved, stored, rfl⟩

end

-- A desk with a configuration that is loaded as it is.
def Stored (host : Host) (c : Config) (desk : Desk) : Prop :=
  Ran (load host) desk c desk

def Replaces (host : Host) (content : ByteArray) (before after : Store) : Prop :=
  Ran (Store.replace Store.undisturbed host.place (fileIn host.configDirectory) content) before () after

section

variable {host : Host} {t : Terminal} {key text : String} {c d : Config} {a b after : Desk}

theorem load_stored (loads : Ran (load host) a c after) : Stored host c after := by
  obtain ⟨ready, made, loaded, rfl⟩ := (ran_load ..).mp loads
  exact (ran_load ..).mpr ⟨ready, Store.make_directories_kept (Configuration.made_directory made), loaded, rfl⟩

theorem stored_made (stored : Stored host c a) : Made host a.store a.store := by
  obtain ⟨ready, made, -, same⟩ := (ran_load ..).mp stored
  have store : a.store = ready := congrArg Desk.store same
  rwa [← store] at made

theorem stored_sound (stored : Stored host c a) : Config.Sound c := by
  obtain ⟨ready, -, loaded, -⟩ := (ran_load ..).mp stored
  exact Configuration.loaded_sound loaded

theorem stored_other (stored : Stored host c a) (journal : List Journal.Entry) :
    Stored host c { a with journal := journal } := by
  obtain ⟨ready, made, loaded, same⟩ := (ran_load ..).mp stored
  refine (ran_load ..).mpr ⟨ready, made, loaded, ?_⟩
  rw [show a.store = ready from congrArg Desk.store same]

-- With a configuration stored, setting a value is replacing the file.
theorem set_stored (stored : Stored host c a) :
    Ran (setConfig host t key text) a 0 after ↔
      ∃ changed s, ConfigKey.set key text c = .ok changed ∧
        Replaces host (Configuration.text changed.1).toUTF8 a.store s ∧
        after = { a with
          store := s
          journal := a.journal ++ t.success ("Set " ++ key ++ " = " ++ changed.2.display) } := by
  have own := stored_made stored
  rw [ran_set_config]
  constructor
  · rintro ⟨config, loaded, changed, saved, load, success, stores, rfl⟩
    cases load.symm.trans stored
    obtain ⟨ready, s, made, replaced, rfl⟩ := (ran_save ..).mp stores
    cases Configuration.made_again own made
    exact ⟨changed, s, success, replaced, rfl⟩
  · rintro ⟨changed, s, success, replaced, rfl⟩
    exact ⟨c, a, changed, _, stored, success, (ran_save ..).mpr ⟨a.store, s, own, replaced, rfl⟩, rfl⟩

theorem config_file : FileName "config.json" := by
  decide

theorem replaced_stored (stored : Stored host c a) {changed : Config} (sound : Config.Sound changed) {s : Store}
    (replaced : Replaces host (Configuration.text changed).toUTF8 a.store s) :
    Beside (filePlace host) a.store s ∧
      s.node (filePlace host) = some (.file (Configuration.text changed).toUTF8) ∧
      ∀ journal, Stored host changed ⟨s, a.issued, journal⟩ := by
  have there := Configuration.made_directory (stored_made stored)
  have beside := Store.replace_beside config_file there replaced
  have saved : Ran (save host changed) a () { a with store := s } :=
    (ran_save ..).mpr ⟨a.store, s, stored_made stored, replaced, rfl⟩
  have holds := good_of_ran (Configuration.save_ends host changed a) saved
  refine ⟨beside, ?_, fun journal => stored_other (Configuration.holds_loaded sound holds) journal⟩
  obtain ⟨place, located, held⟩ := (Store.stat_iff ..).mp holds.file
  rw [filePlace, ← Store.locate_place _ _ _ _ located]
  exact held

-- Whether the file can be replaced does not depend on what it holds.
theorem set_possible (first : Stored host c a) (second : Stored host d b)
    (beside : Beside (filePlace host) a.store b.store) {content : ByteArray} {s : Store}
    (replaced : Replaces host content a.store s) (success : ∃ changed, ConfigKey.set key text d = .ok changed) :
    ∃ after, Ran (setConfig host t key text) b 0 after := by
  obtain ⟨changed, success⟩ := success
  have there := Configuration.made_directory (stored_made first)
  obtain ⟨u, again⟩ := Store.replace_repeats config_file there beside (Configuration.text changed.1).toUTF8 replaced
  exact ⟨_, (set_stored second).mpr ⟨changed, u, success, again, rfl⟩⟩

theorem set_repeats {u : Terminal} (stored : Stored host c a) (done : Ran (setConfig host t key text) a 0 after) :
    ∃ changed, Stored host changed after ∧ Beside (filePlace host) a.store after.store ∧
      ((∃ again, Ran (setConfig host u key text) after 0 again) ↔ Repeats key text) ∧
      ∀ again, Ran (setConfig host u key text) after 0 again →
        Stored host changed again ∧ ∀ place, again.store.node place = after.store.node place := by
  obtain ⟨⟨changed, v⟩, s, success, replaced, rfl⟩ := (set_stored stored).mp done
  obtain ⟨repeats, same⟩ := ConfigKey.set_again (stored_sound stored) success
  have sound := (ConfigKey.set_takes (stored_sound stored) success).1
  obtain ⟨beside, held, own⟩ := replaced_stored stored sound replaced
  refine ⟨changed, own _, beside, ⟨?_, fun accepted => ?_⟩, ?_⟩
  · rintro ⟨again, repeated⟩
    obtain ⟨more, -, also, -⟩ := (set_stored (own _)).mp repeated
    exact repeats.mp ⟨more, also⟩
  · exact set_possible stored (own _) beside replaced (repeats.mpr accepted)
  · intro again repeated
    obtain ⟨⟨more, w⟩, r, also, once, rfl⟩ := (set_stored (own _)).mp repeated
    obtain rfl : more = changed := same _ also
    obtain ⟨near, kept, also⟩ := replaced_stored (own []) sound once
    refine ⟨also _, fun place => ?_⟩
    by_cases here : place = filePlace host
    · rw [here]
      exact kept.trans held.symm
    · exact near.others place here

end

-- A repeated command goes well unless only the check of the seed can read the text. Two configurations that are stored
-- in the same place are told apart only by whether they have a seed, and then only by such a text.
theorem set_config_repeats (host : Host) (key text : String) :
    (∀ t before after, Ran (setConfig host t key text) before 0 after →
      ∃ c, Stored host c after ∧ ∀ u,
        ((∃ again, Ran (setConfig host u key text) after 0 again) ↔ Repeats key text) ∧
        ∀ again, Ran (setConfig host u key text) after 0 again →
          Stored host c again ∧ ∀ place, again.store.node place = after.store.node place) ∧
    ∀ t u c d a b, Stored host c a → Stored host d b → Beside (filePlace host) a.store b.store →
      (ReadAlike key text c d → ((∃ after, Ran (setConfig host t key text) a 0 after) ↔
        ∃ after, Ran (setConfig host u key text) b 0 after)) ∧
      ∀ after other, Ran (setConfig host t key text) a 0 after → Ran (setConfig host u key text) b 0 other →
        ∃ (field : Config.Field) (changed more : Config), ConfigKey.names key = [field.part, field.name] ∧
          Stored host changed after ∧ Stored host more other ∧ field.valueIn changed = field.valueIn more := by
  have across {t u : Terminal} {c d : Config} {a b : Desk} (first : Stored host c a) (second : Stored host d b)
      (beside : Beside (filePlace host) a.store b.store) (alike : ReadAlike key text c d)
      (succeeds : ∃ after, Ran (setConfig host t key text) a 0 after) :
      ∃ after, Ran (setConfig host u key text) b 0 after := by
    obtain ⟨after, done⟩ := succeeds
    obtain ⟨changed, s, success, replaced, -⟩ := (set_stored first).mp done
    refine set_possible first second beside replaced ?_
    exact ConfigKey.set_alike (stored_sound first) (stored_sound second) alike ⟨changed, success⟩
  refine ⟨?_, ?_⟩
  · intro t before after done
    obtain ⟨config, loaded, changed, saved, loads, success, stores, same⟩ := (ran_set_config ..).mp done
    have stored := load_stored loads
    have again : Ran (setConfig host t key text) loaded 0 after :=
      (ran_set_config ..).mpr ⟨config, loaded, changed, saved, stored, success, stores, same⟩
    obtain ⟨c, own, -⟩ := set_repeats (u := t) stored again
    refine ⟨c, own, fun u => ?_⟩
    obtain ⟨d, also, -, repeats, kept⟩ := set_repeats (u := u) stored again
    cases own.symm.trans also
    exact ⟨repeats, kept⟩
  · intro t u c d a b first second beside
    refine ⟨fun alike => ⟨across first second beside alike, ?_⟩, ?_⟩
    · exact across second first (Store.beside_symm beside) (ConfigKey.read_alike_symm alike)
    · intro after other done also
      obtain ⟨⟨changed, v⟩, s, success, replaced, rfl⟩ := (set_stored first).mp done
      obtain ⟨⟨more, w⟩, r, accepted, once, rfl⟩ := (set_stored second).mp also
      obtain ⟨field, named, same⟩ := ConfigKey.set_agree (stored_sound first) (stored_sound second) success accepted
      have sound := (ConfigKey.set_takes (stored_sound first) success).1
      have good := (ConfigKey.set_takes (stored_sound second) accepted).1
      exact ⟨field, changed, more, named, (replaced_stored first sound replaced).2.2 _,
        (replaced_stored second good once).2.2 _, same⟩

def plain : Terminal :=
  ⟨.plain, true, false, false⟩

def seedSet (text : String) : Job Int :=
  setConfig Publish.sampleHost plain "generator.seed" text

-- Nothing is stored yet, and the directory is there.
def bareDesk : Desk :=
  ((load Publish.sampleHost).run.run Publish.sampleDesk).2

def seededDesk (text : String) : Desk :=
  ((seedSet text).run.run bareDesk).2

theorem bare_stored : Stored Publish.sampleHost {} bareDesk := by
  have loaded : ((load Publish.sampleHost).run.run Publish.sampleDesk).1.toOption = some {} := by decide +kernel
  exact load_stored (ran_of_result loaded)

theorem seed_set_again :
    ∃ again c, Ran (seedSet "4_2") bareDesk 0 (seededDesk "4_2") ∧ Ran (seedSet "4_2") (seededDesk "4_2") 0 again ∧
      Stored Publish.sampleHost c (seededDesk "4_2") ∧ Stored Publish.sampleHost c again ∧
      ∃ (field : Config.Field) (changed more : Config),
        ConfigKey.names "generator.seed" = [field.part, field.name] ∧
        Stored Publish.sampleHost changed (seededDesk "4_2") ∧ Stored Publish.sampleHost more again ∧
        field.valueIn changed = field.valueIn more := by
  have set : ((seedSet "4_2").run.run bareDesk).1.toOption = some 0 := by decide +kernel
  have done : Ran (seedSet "4_2") bareDesk 0 (seededDesk "4_2") := ran_of_result set
  obtain ⟨once, across⟩ := set_config_repeats Publish.sampleHost "generator.seed" "4_2"
  obtain ⟨c, own, repeats⟩ := once plain _ _ done
  have integer : (integer? "4_2").isSome = true := by decide +kernel
  obtain ⟨again, repeated⟩ := (repeats plain).1.mpr fun _ => .inr integer
  have beside : Beside (filePlace Publish.sampleHost) bareDesk.store (seededDesk "4_2").store := by
    obtain ⟨_, -, beside, -⟩ := set_repeats (u := plain) bare_stored done
    exact beside
  obtain ⟨-, agree⟩ := across plain plain {} c bareDesk (seededDesk "4_2") bare_stored own beside
  exact ⟨again, c, done, repeated, own, ((repeats plain).2 again repeated).1, agree _ _ done repeated⟩

-- With places a seed is taken where there is none, and refused as soon as it is stored.
theorem placed_seed_refused_again :
    ∃ c, Stored Publish.sampleHost {} bareDesk ∧ Ran (seedSet "42.0") bareDesk 0 (seededDesk "42.0") ∧
      Stored Publish.sampleHost c (seededDesk "42.0") ∧
      Beside (filePlace Publish.sampleHost) bareDesk.store (seededDesk "42.0").store ∧
      ∀ again, ¬ Ran (seedSet "42.0") (seededDesk "42.0") 0 again := by
  have set : ((seedSet "42.0").run.run bareDesk).1.toOption = some 0 := by decide +kernel
  have done : Ran (seedSet "42.0") bareDesk 0 (seededDesk "42.0") := ran_of_result set
  obtain ⟨c, own, beside, repeats, -⟩ := set_repeats (u := plain) bare_stored done
  have given : lower "42.0" ≠ "null" := by decide +kernel
  have noInteger : (integer? "42.0").isSome = false := by decide +kernel
  refine ⟨c, bare_stored, done, own, beside, fun again repeated => ?_⟩
  rcases repeats.mp ⟨again, repeated⟩ rfl with null | integer
  · exact given null
  · rw [noInteger] at integer
    cases integer

end ApiStubs.Command
