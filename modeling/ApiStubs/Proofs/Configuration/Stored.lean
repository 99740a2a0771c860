import ApiStubs.Proofs.Configuration.Loaded
import ApiStubs.Proofs.JsonRoundTrip
import ApiStubs.Proofs.Store.Directory

/- Saving a configuration and loading it. A configuration that passes its own checks, and whose numbers can be read
   again, is loaded as it was saved; all that are loaded are of this kind. -/

set_option autoImplicit false

namespace ApiStubs

open ApiStubs.Decimal
open Json (Plain PlainEntries Readable plain_entries_iff small_readable)

namespace Config

open Check
open Settings (Kind)

theorem Field.own_check {c : Config} {field : Field} {w : Value} (passes : field.check (field.valueIn c) = .ok w) :
    w = field.valueIn c := by
  cases field with
  | generator f => exact Settings.own_check passes
  | format =>
      obtain ⟨f, read, rfl⟩ := (except_map_ok ..).mp passes
      cases (format_passes c.format).symm.trans read
      rfl

theorem Field.check_again {field : Field} {v w : Value} (passes : field.check v = .ok w) : field.check w = .ok w := by
  cases field with
  | generator f => exact Settings.check_again passes
  | format =>
      obtain ⟨f, -, rfl⟩ := (except_map_ok ..).mp passes
      exact (except_map_ok ..).mpr ⟨f, format_passes f, rfl⟩

-- A number that can be written and read again.
def Durable (v : Value) : Prop :=
  ∀ n, v = .int n → Readable n

structure Sound (c : Config) : Prop where
  checked : ∀ field : Field, field.check (field.valueIn c) = .ok (field.valueIn c)
  durable : ∀ field : Field, Durable (field.valueIn c)

theorem int64_readable {n : Int} (low : -int64Bound < n) (high : n < int64Bound) : Readable n := by
  have small : n.natAbs < 10 ^ 19 := by
    unfold int64Bound at low high
    omega
  exact small_readable (by decide) (by decide) small

theorem whole_number_readable {s : String} {n : Int} (read : wholeNumber s = .ok n) : Readable n := by
  unfold wholeNumber at read
  simp only at read
  split at read
  · cases read
  · split at read
    · split at read
      · next number =>
        cases read
        exact signed_readable _ (read_magnitude_bound number)
      · cases read
    · cases read

theorem int_readable {v : Value} {n : Int} (durable : Durable v) (read : Check.int v = .ok n) : Readable n := by
  cases v with
  | int m =>
      cases read
      exact durable n rfl
  | bool b =>
      cases read
      cases b <;> decide
  | float x =>
      change wholeDouble x = .ok n at read
      unfold wholeDouble at read
      split at read
      · cases read
      · split at read
        · cases read
        · split at read
          · next bounds =>
            cases read
            exact int64_readable bounds.1 bounds.2
          · cases read
  | str s => exact whole_number_readable read
  | bytes data =>
      simp only [Check.int] at read
      split at read
      · exact whole_number_readable read
      · cases read
  | _ => cases read

theorem check_durable {field : Field} {v w : Value} (durable : Durable v) (passes : field.check v = .ok w) :
    Durable w := by
  rintro n rfl
  cases field with
  | format =>
      obtain ⟨f, -, same⟩ := (except_map_ok ..).mp passes
      cases same
  | generator f => exact int_readable durable (Settings.number_read passes)

theorem default_sound : Sound {} where
  checked := ((of_entries_iff [] {}).mp rfl).2.2
  durable := by
    intro field n same
    cases field with
    | format => cases same
    | generator f => cases f <;> cases same <;> decide

theorem written_below {entries : Entries} {field : Field} {v : Value} (written : field.writtenIn entries = some v) :
    Below (.map entries) v := by
  unfold Field.writtenIn partOf? at written
  cases found : entries.get? field.part with
  | none =>
      rw [found] at written
      cases written
  | some part =>
      rw [found] at written
      cases part with
      | map inner => exact .entry (Pointer.entry_mem _ _ _ found) (.entry (Pointer.entry_mem _ _ _ written) .self)
      | _ => cases written

theorem read_sound {entries : Entries} {c : Config} (tidy : Json.Tidy (.map entries))
    (read : ofEntries entries = .ok c) : Sound c where
  checked := fun field => Field.check_again (((of_entries_iff entries c).mp read).2.2 field)
  durable := by
    intro field
    refine check_durable ?_ (((of_entries_iff entries c).mp read).2.2 field)
    cases written : field.writtenIn entries with
    | none => exact default_sound.durable field
    | some v =>
        rintro n rfl
        exact Json.formed_below tidy.formed (written_below written)

theorem value_plain {c : Config} (field : Field) (durable : Durable (field.valueIn c)) : Plain (field.valueIn c) := by
  cases field with
  | format => simp [Field.valueIn, Plain]
  | generator f =>
      cases f with
      | errorStatusThreshold | defaultStatus | maxReferenceDepth | maxSchemaDepth | arrayCardinality =>
          rw [Field.valueIn, Settings.Field.valueIn, Plain]
          exact durable _ rfl
      | seed =>
          rw [Field.valueIn, Settings.Field.valueIn] at durable ⊢
          cases given : c.generator.seed with
          | none => simp [Settings.optionalInt, Plain]
          | some n =>
              rw [given] at durable
              rw [Settings.optionalInt, Plain]
              exact durable n rfl
      | _ => simp [Field.valueIn, Settings.Field.valueIn, Plain]

theorem settings_plain {c : Config} (sound : Sound c) : Plain c.generator.toValue := by
  rw [Settings.toValue, Plain, plain_entries_iff, Settings.to_entries_fields]
  constructor
  · intro e member
    obtain ⟨f, -, rfl⟩ := List.mem_map.mp member
    exact ⟨⟨_, rfl⟩, value_plain (.generator f) (sound.durable (.generator f))⟩
  · rw [List.map_map]
    have distinct : Settings.Field.all.Nodup := by decide
    exact distinct.map fun f g same => Settings.Field.name_injective (Value.str.inj same)

theorem config_plain {c : Config} (sound : Sound c) : Plain c.toValue := by
  have settings := settings_plain sound
  rw [toValue, Plain]
  simp [toEntries, PlainEntries, settings, Plain]

end Config

namespace Configuration

open Store (SameFile grown_same_file same_file_trans)

theorem text_written {c : Config} (sound : Config.Sound c) :
    ∃ s, Json.write .settings c.toValue = some s ∧ text c = s ++ "\n" ∧ Json.read (text c) = .ok c.toValue := by
  obtain ⟨s, written, read⟩ := Json.read_written .settings c.toValue (Config.config_plain sound)
  have same : text c = s ++ "\n" := by rw [text, written, Option.getD_some]
  exact ⟨s, written, same, same ▸ read "\n" (by simp [Json.Blank, Json.isSpace])⟩

theorem text_printed {c : Config} (sound : Config.Sound c) : ∀ d ∈ (text c).toList, Json.Printed d := by
  obtain ⟨s, written, same, -⟩ := text_written sound
  intro d member
  rw [same, String.toList_append, List.mem_append] at member
  rcases member with body | last
  · exact Json.written_printed .settings c.toValue (Config.config_plain sound) s written d body
  · simp only [String.reduceToList, List.mem_singleton] at last
    exact .inl last

-- What is saved of a sound configuration is that configuration.
theorem content_of_text {c : Config} (sound : Config.Sound c) : ofContent (text c).toUTF8 = .ok c := by
  have encoded : Source.textOf? (text c).toUTF8 = some (text c) :=
    Source.text_of_encoded _ fun carriage => absurd (text_printed sound '\r' carriage) (by decide)
  obtain ⟨s, -, -, read⟩ := text_written sound
  have whole : Config.ofEntries c.toEntries = .ok c :=
    (Config.of_entries_iff c.toEntries c).mpr ⟨rfl, rfl, fun field => by
      rw [Config.field_written, Option.getD_some, sound.checked]⟩
  simp only [ofContent, readJson, encoded, read, Config.ofValue, Config.toValue, Check.model, whole]

theorem content_sound {content : ByteArray} {c : Config} (read : ofContent content = .ok c) : Config.Sound c := by
  obtain ⟨entries, parsed, whole⟩ := of_content_ok read
  exact Config.read_sound (read_json_tidy parsed) whole

theorem loaded_sound {store : Store} {place : Place} {p : Path} {c : Config} (loaded : loadFrom store place p = .ok c) :
    Config.Sound c := by
  rcases returns_result (load_from_returns store place p) loaded with ⟨rfl, -⟩ | ⟨content, -, own⟩
  · exact Config.default_sound
  · exact content_sound own

-- A store in which a configuration is kept: the directory is there, and the file in it is what is saved of it.
structure Holds (host : Host) (c : Config) (store : Store) : Prop where
  directory : store.stat host.place host.configDirectory = .ok .directory
  file : store.stat host.place (fileIn host.configDirectory) = .ok (.file (text c).toUTF8)

theorem holds_loaded {host : Host} {c : Config} {desk : Desk} (sound : Config.Sound c)
    (holds : Holds host c desk.store) : Ran (load host) desk c desk := by
  have loaded : loadFrom desk.store host.place (fileIn host.configDirectory) = .ok c := by
    simp only [loadFrom, Store.isFile, holds.file, Store.read, content_of_text sound]
  exact (ran_load ..).mpr ⟨desk.store, Store.make_directories_kept holds.directory, loaded, rfl⟩

-- The place of the user's file.
def filePlace (host : Host) : Place :=
  Store.placeOf host.place (fileIn host.configDirectory)

theorem ran_save (host : Host) (c : Config) (before after : Desk) :
    Ran (save host c) before () after ↔
      ∃ ready t, Made host before.store ready ∧
        Ran (Store.replace Store.undisturbed host.place (fileIn host.configDirectory) (text c).toUTF8) ready () t ∧
          after = { before with store := t } := by
  simp only [save, ran_bind, Job.ran_ensure, Job.ran_change]
  constructor
  · rintro ⟨_, _, ⟨rfl, ready, made, rfl⟩, t, replaced, rfl⟩
    exact ⟨ready, t, made, replaced, rfl⟩
  · rintro ⟨ready, t, made, replaced, rfl⟩
    exact ⟨_, _, ⟨rfl, ready, made, rfl⟩, t, replaced, rfl⟩

theorem save_ends (host : Host) (c : Config) (desk : Desk) :
    Ends (save host c) desk (fun _ after => Holds host c after.store)
      (fun e after => (∃ fault, e = .file fault) ∧ SameFile (filePlace host) desk.store after.store) := by
  unfold save
  refine ends_bind (ends_imp (Job.ensure_ends host host.configDirectory desk) (fun _ _ made => made) ?_) ?_
  · rintro e after ⟨fault, grown, -⟩
    exact ⟨fault, grown_same_file grown _⟩
  rintro directory ready ⟨rfl, made⟩
  refine ends_imp (Job.change_ends (Store.replace_ends ..)) ?_ ?_
  · intro _ after overlaid
    have there := made_directory made
    obtain ⟨place, located, held⟩ := (Store.stat_iff ..).mp there
    refine ⟨(Store.stat_iff ..).mpr ⟨place, ?_, overlaid.directories place held⟩, ?_⟩
    · exact Store.follow_kept _ _ overlaid.directories _ _ _ located
    · exact overlaid.held _ (List.mem_singleton_self _)
  · rintro e after ⟨fault, rfl, grown⟩
    have same := same_file_trans (grown_same_file (made_grown made) (filePlace host)) (grown_same_file grown _)
    exact ⟨⟨fault, rfl⟩, same⟩

end Configuration

end ApiStubs
