import ApiStubs.Proofs.Command.Run
import ApiStubs.Proofs.Configuration.Change

/- Setting one value of the configuration by a command. Either the command ends well, and what is loaded afterwards is
   what was loaded before with that one value changed; or it ends with another code, and the file is the one that was
   there. -/

set_option autoImplicit false

namespace ApiStubs.Command

open ApiStubs.Configuration (Holds Made fault_counts fileIn filePlace load loadFrom made_again unread_counts
  unread_grown)
open ConfigKey (Changes)
open Store (SameFile grown_same_file same_file_refl same_file_trans)

-- The configuration loaded before differs in one field from the one that is loaded after.
def Stores (host : Host) (key text : String) (before after : Desk) : Prop :=
  ∃ config loaded field v changed reloaded, Ran (load host) before config loaded ∧
    Changes key text config field v changed ∧ Ran (load host) after changed reloaded

-- How a command ends that sets a value: with the value set, or without a trace in the file.
def Settles (host : Host) (key text : String) (before : Desk) (ending : Ending) (after : Desk) : Prop :=
  ending = .exit 0 ∧ Stores host key text before after ∨
    ending.code ≠ 0 ∧ SameFile (filePlace host) before.store after.store

def Fails (host : Host) (before : Desk) (e : Error) (after : Desk) : Prop :=
  e.exitCode ≠ 0 ∧ FileKept host before after

def Settling (host : Host) (key text : String) (before between : Desk) (job : Job Int) : Prop :=
  Ends job between (fun code => Settles host key text before (.exit code)) (Fails host before)

section

variable (host : Host) (t : Terminal) (key text : String)

theorem save_change_ends {before between : Desk} (same : FileKept host before between) (changed : Config × Value) :
    Ends (saveChange host t key changed) between
      (fun code after => code = 0 ∧ Holds host changed.1 after.store) (Fails host before) := by
  unfold saveChange
  refine ends_bind (ends_imp (Configuration.save_ends host changed.1 between) (fun _ _ holds => holds) ?_) ?_
  · rintro e after ⟨⟨fault, rfl⟩, kept⟩
    exact ⟨fault_counts fault, same_file_trans same kept⟩
  · intro _ after holds
    exact ends_modify_bind (ends_pure ⟨rfl, holds⟩)

theorem changed_settles {before between : Desk} {config : Config} (made : Made host before.store between.store)
    (loaded : loadFrom between.store host.place (fileIn host.configDirectory) = .ok config) :
    Settling host key text before between
      (match ConfigKey.set key text config with
        | .ok changed => saveChange host t key changed
        | .error (.invalid found) => do
            Job.write (t.error ("Validation error: " ++ (Error.invalid found).message))
            return Category.usage.exitCode
        | .error e => throw e) := by
  have same : FileKept host before between := grown_same_file (Configuration.made_grown made) _
  have changes := ConfigKey.set_returns key text config (Configuration.loaded_sound loaded)
  split
  · next changed success =>
    obtain ⟨sound, field, changed_so⟩ := returns_result changes success
    refine ends_imp (save_change_ends host t key same changed) ?_ fun _ _ fails => fails
    rintro code after ⟨rfl, holds⟩
    have first : Ran (load host) before config { before with store := between.store } :=
      (Configuration.ran_load ..).mpr ⟨between.store, made, loaded, rfl⟩
    exact .inl ⟨rfl, config, _, field, changed.2, changed.1, after, first, changed_so,
      Configuration.holds_loaded sound holds⟩
  · exact ends_modify_bind (ends_pure (.inr ⟨by decide, same⟩))
  · next e other refused =>
    rcases returns_known changes refused with ⟨-, code⟩ | ⟨found, rfl⟩
    · exact ends_throw ⟨by rw [code]; decide, same⟩
    · exact (other found rfl).elim

theorem reported_settles {job : Job Int} {before between : Desk}
    (settles : Settling host key text before between job) :
    Settling host key text before between (orReport job fun e => fail t e.message e) := by
  refine ends_catch settles ?_
  rintro e after ⟨counts, kept⟩
  split
  · exact ends_modify_bind (ends_pure (.inr ⟨counts, kept⟩))
  · exact ends_throw ⟨counts, kept⟩

theorem set_config_settles {before between : Desk} (made : Made host before.store between.store) :
    Settling host key text before between (setConfig host t key text) := by
  have same : FileKept host before between := grown_same_file (Configuration.made_grown made) _
  have loads : Ends (load host) between
      (fun config after => Made host before.store after.store ∧
        loadFrom after.store host.place (fileIn host.configDirectory) = .ok config)
      (Fails host before) := by
    refine ends_imp (Configuration.load_ends host between) ?_ ?_
    · rintro config after ⟨again, loaded⟩
      exact ⟨made_again made again ▸ made, loaded⟩
    · intro e after unread
      exact ⟨unread_counts unread, same_file_trans same (grown_same_file (unread_grown unread) _)⟩
  refine reported_settles host t key text (ends_bind loads ?_)
  rintro config after ⟨madeThere, loaded⟩
  exact changed_settles host t key text madeThere loaded

end

-- What concludes a failure ends the run with another code than 0, and leaves the file as it is.
theorem fails_conclude {host : Host} {account : Error → String} {t : Terminal} {job : Job Int} {key text : String}
    {before between : Desk} (settles : Settling host key text before between job) :
    Concludes host account t job between (Settles host key text before) := by
  refine ends_catch settles fun e between fails => ?_
  refine ends_imp (conclude_ends host account t e between fails.1) ?_ ?_
  · rintro code after ⟨counts, kept⟩
    exact .inr ⟨counts, same_file_trans fails.2 kept⟩
  · intro _ after kept
    exact .inr ⟨by decide, same_file_trans fails.2 kept⟩

-- The failure of a change comes before the file is written, and a failure to write leaves the file whole.
theorem set_changes_one_field (fresh : Settings → Generator) (host : Host) (account : Error → String)
    (arguments : List String) (g : Globals) (key text : String) (before after : Desk) (result : Result)
    (asked : Asks arguments g (.setConfig key text))
    (ran : (run host account arguments fresh).run before = (result, after)) :
    result.ending = .exit 0 ∧ Stores host key text before after ∨
      result.ending.code ≠ 0 ∧ SameFile (filePlace host) before.store after.store := by
  have opened := open_terminal_ends host g before
  have settles : Settles host key text before ((run host account arguments fresh).run before).1.ending
      ((run host account arguments fresh).run before).2 := by
    refine run_reaches host account asked (fun _ => rfl) opened ?_ ?_
    · intro t between made
      exact fails_conclude (set_config_settles host t key text made)
    · rintro e t between ⟨-, unread⟩
      exact fails_conclude (ends_throw ⟨unread_counts unread, grown_same_file (unread_grown unread) _⟩)
  rwa [ran] at settles

def setting (key text : String) : List String :=
  ["--plain", "config", "set", key, text]

def settingRun (key text : String) : Result × Desk :=
  (run Configuration.layeredHost (fun _ => "") (setting key text)).run Configuration.layeredDesk

theorem setting_asks (key text : String)
    (member : (key, text) ∈ [("generator.seed", "null"), ("generator.max_schema_depth", "0")]) :
    Asks (setting key text) ⟨false, true, false, false, false⟩ (.setConfig key text) := by
  simp only [List.mem_cons, Prod.mk.injEq, List.not_mem_nil, or_false] at member
  refine ⟨"config", ["set", key, text], ?_⟩
  rcases member with ⟨rfl, rfl⟩ | ⟨rfl, rfl⟩ <;> decide +kernel

-- The seed is cleared in the file though a variable sets it; a depth of zero is refused.
theorem seed_set_depth_refused :
    Asks (setting "generator.seed" "null") ⟨false, true, false, false, false⟩ (.setConfig "generator.seed" "null") ∧
      (settingRun "generator.seed" "null").1.ending = .exit 0 ∧
      Stores Configuration.layeredHost "generator.seed" "null" Configuration.layeredDesk
        (settingRun "generator.seed" "null").2 ∧
      (settingRun "generator.max_schema_depth" "0").1.ending = .exit 2 ∧
      SameFile (filePlace Configuration.layeredHost) Configuration.layeredDesk.store
        (settingRun "generator.max_schema_depth" "0").2.store := by
  have cleared : (settingRun "generator.seed" "null").1.ending = .exit 0 := by decide +kernel
  have refused : (settingRun "generator.max_schema_depth" "0").1.ending = .exit 2 := by decide +kernel
  have asked := setting_asks "generator.seed" "null" (by simp)
  have also := setting_asks "generator.max_schema_depth" "0" (by simp)
  have first := set_changes_one_field Generator.start _ _ _ _ _ _ Configuration.layeredDesk
    (settingRun "generator.seed" "null").2 (settingRun "generator.seed" "null").1 asked (Prod.eta _).symm
  have second := set_changes_one_field Generator.start _ _ _ _ _ _ Configuration.layeredDesk
    (settingRun "generator.max_schema_depth" "0").2 (settingRun "generator.max_schema_depth" "0").1 also
    (Prod.eta _).symm
  refine ⟨asked, cleared, ?_, refused, ?_⟩
  · rcases first with ⟨-, stores⟩ | ⟨counts, -⟩
    · exact stores
    · exact absurd (congrArg Ending.code cleared) counts
  · rcases second with ⟨done, -⟩ | ⟨-, kept⟩
    · cases refused.symm.trans done
    · exact kept

end ApiStubs.Command
