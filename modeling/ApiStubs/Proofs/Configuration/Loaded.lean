import ApiStubs.Configuration
import ApiStubs.Proofs.ConfigFields
import ApiStubs.Proofs.JsonContent
import ApiStubs.Proofs.Returns
import ApiStubs.Proofs.Store.Directory
import ApiStubs.Proofs.Written

/- Loading the user's configuration. What is loaded is read field by field from the user's file, or is the default
   one without a file; the store is left as it is, but that the directory of the file is made. -/

set_option autoImplicit false

namespace ApiStubs

open Store (Grown OnWay)

namespace Job

theorem ran_store (s : Store) (before after : Desk) :
    Ran store before s after ↔ s = before.store ∧ after = before := by
  simp only [store, ran_bind, ran_get, ran_pure]
  constructor
  · rintro ⟨_, _, ⟨rfl, rfl⟩, rfl, rfl⟩
    exact ⟨rfl, rfl⟩
  · rintro ⟨rfl, rfl⟩
    exact ⟨_, _, ⟨rfl, rfl⟩, rfl, rfl⟩

theorem ensure_ends (host : Host) (p : Path) (desk : Desk) :
    Ends (ensure host p) desk
      (fun q after => q = p ∧
        Ran (Store.makeDirectories Store.undisturbed host.place p) desk.store () after.store)
      (fun e after => (∃ fault, e = .file fault) ∧ Grown (OnWay host.place p) desk.store after.store ∧
        ∀ ready, ¬ Ran (Store.makeDirectories Store.undisturbed host.place p) desk.store () ready) := by
  unfold ensure
  refine ends_bind (ends_imp (change_ends ends_run) (fun _ _ made => made) ?_) fun _ after made => ends_pure ⟨rfl, made⟩
  rintro e after ⟨fault, rfl, failed⟩
  have grown := bad_of_failed (Store.make_directories_ends ..) failed
  refine ⟨⟨fault, rfl⟩, grown, fun ready made => ?_⟩
  cases failed.symm.trans made

theorem ran_ensure (host : Host) (p q : Path) (before after : Desk) :
    Ran (ensure host p) before q after ↔
      q = p ∧ ∃ ready, Ran (Store.makeDirectories Store.undisturbed host.place p) before.store () ready ∧
        after = { before with store := ready } := by
  simp only [ensure, ran_bind, ran_change, ran_pure]
  constructor
  · rintro ⟨_, _, ⟨ready, made, rfl⟩, rfl, rfl⟩
    exact ⟨rfl, ready, made, rfl⟩
  · rintro ⟨rfl, ready, made, rfl⟩
    exact ⟨_, _, ⟨ready, made, rfl⟩, rfl, rfl⟩

end Job

namespace Configuration

-- The mapping that a file holds. One that holds no mapping, or is not there, gives as little as an empty one.
def entriesAt (store : Store) (place : Place) (p : Path) : Entries :=
  match store.read place p with
  | .error _ => []
  | .ok content =>
      match readJson content with
      | .ok (.map entries) => entries
      | _ => []

-- Why a file is not used: a defect of its text, or a fault on the way to it.
def Troubled (store : Store) (place : Place) (p : Path) (e : Error) : Prop :=
  e.category = some .configuration ∧ e.exitCode = 1 ∨ ∃ fault, e = .file fault ∧ store.isFile place p = .error fault

theorem load_from_returns (store : Store) (place : Place) (p : Path) :
    Returns (fun c => c = {} ∧ entriesAt store place p = [] ∨
      ∃ content, store.read place p = .ok content ∧ ofContent content = .ok c) (Troubled store place p)
      (loadFrom store place p) := by
  unfold loadFrom
  split
  · next fault unknown => exact .error (.inr ⟨fault, rfl, unknown⟩)
  · next nothing =>
    obtain ⟨fault, unread⟩ := Store.is_file_false nothing
    exact .ok (.inl ⟨rfl, by rw [entriesAt, unread]⟩)
  · next file =>
    obtain ⟨content, read⟩ := Store.is_file_true file
    rw [read]
    simp only
    split
    · next own => exact .ok (.inr ⟨content, rfl, own⟩)
    · exact .error (.inl ⟨rfl, rfl⟩)

theorem of_content_ok {content : ByteArray} {config : Config} (read : ofContent content = .ok config) :
    ∃ entries, readJson content = .ok (.map entries) ∧ Config.ofEntries entries = .ok config := by
  unfold ofContent at read
  split at read
  · cases read
  · next v parsed =>
    split at read
    · next own =>
      cases read
      cases v with
      | map entries => exact ⟨entries, parsed, own⟩
      | _ => cases own
    · cases read

-- Read as a whole or not there, the user's file gives what its configuration has.
theorem loaded_fields {store : Store} {place : Place} {p : Path} {config : Config}
    (loaded : loadFrom store place p = .ok config) (field : Config.Field) :
    field.check ((field.writtenIn (entriesAt store place p)).getD (field.valueIn {})) = .ok (field.valueIn config) := by
  rcases returns_result (load_from_returns store place p) loaded with ⟨rfl, nothing⟩ | ⟨content, read, own⟩
  · rw [nothing]
    exact ((Config.of_entries_iff [] {}).mp rfl).2.2 field
  · obtain ⟨entries, parsed, whole⟩ := of_content_ok own
    have same : entriesAt store place p = entries := by rw [entriesAt, read]; simp only [parsed]
    rw [same]
    exact ((Config.of_entries_iff entries config).mp whole).2.2 field

theorem read_json_tidy {content : ByteArray} {v : Value} (parsed : readJson content = .ok v) : Json.Tidy v := by
  unfold readJson at parsed
  split at parsed
  · cases parsed
  · split at parsed
    · next read =>
      cases parsed
      exact Json.read_tidy read
    · cases parsed
    · cases parsed

-- The directory of the user's file is there as if it had just been made.
def Made (host : Host) (s t : Store) : Prop :=
  Ran (Store.makeDirectories Store.undisturbed host.place host.configDirectory) s () t

theorem made_grown {host : Host} {s t : Store} (made : Made host s t) :
    Grown (OnWay host.place host.configDirectory) s t := by
  have grown := good_of_ran (Store.make_directories_ends ..) made
  exact grown

theorem ran_load (host : Host) (config : Config) (before after : Desk) :
    Ran (load host) before config after ↔
      ∃ ready, Made host before.store ready ∧ loadFrom ready host.place (fileIn host.configDirectory) = .ok config ∧
        after = { before with store := ready } := by
  simp only [load, ran_bind, Job.ran_ensure, Job.ran_store, Job.ran_lift]
  constructor
  · rintro ⟨_, _, ⟨rfl, ready, made, rfl⟩, _, _, ⟨rfl, rfl⟩, loaded, rfl⟩
    exact ⟨_, made, loaded, rfl⟩
  · rintro ⟨ready, made, loaded, rfl⟩
    exact ⟨_, _, ⟨rfl, ready, made, rfl⟩, _, _, ⟨rfl, rfl⟩, loaded, rfl⟩

theorem own_directory_named (host : Host) (name : String) (standard : List String) :
    (host.ownDirectory name standard).parts ≠ [] := by
  unfold Host.ownDirectory
  have plain : Path.Step "specmock" := by decide
  have hidden : Path.Step ".specmock" := by decide
  split <;> simp [Path.child_step _ plain, Path.child_step _ hidden]

theorem made_directory {host : Host} {s t : Store} (made : Made host s t) :
    t.stat host.place host.configDirectory = .ok .directory :=
  Store.make_directories_there (own_directory_named _ _ _) made

-- Making a directory that was just made changes nothing.
theorem made_again {host : Host} {s t u : Store} (first : Made host s t) (second : Made host t u) : u = t := by
  have kept : Made host t t := Store.make_directories_kept (made_directory first)
  have same := second.symm.trans kept
  cases same
  rfl

-- How a reading fails: over a file, with the directory made, or because the directory cannot be made.
inductive Unread (host : Host) (s : Store) (e : Error) (t : Store) : Prop where
  | troubled (p : Path) (asked : p = fileIn host.configDirectory ∨ p = projectFile host) (made : Made host s t)
      (trouble : Troubled t host.place p e)
  | unmade (fault : FileFault) (same : e = .file fault) (grown : Grown (OnWay host.place host.configDirectory) s t)
      (never : ∀ ready, ¬ Made host s ready)

theorem fault_counts (fault : FileFault) : (Error.file fault).exitCode ≠ 0 := by
  have code : (Error.file fault).exitCode = 1 := rfl
  rw [code]
  decide

theorem unread_counts {host : Host} {s t : Store} {e : Error} (unread : Unread host s e t) : e.exitCode ≠ 0 := by
  cases unread with
  | troubled p asked made trouble =>
      rcases trouble with ⟨-, code⟩ | ⟨fault, rfl, -⟩
      · rw [code]
        decide
      · exact fault_counts fault
  | unmade fault same grown never => exact same ▸ fault_counts fault

theorem unread_grown {host : Host} {s t : Store} {e : Error} (unread : Unread host s e t) :
    Grown (OnWay host.place host.configDirectory) s t := by
  cases unread with
  | troubled p asked made trouble => exact made_grown made
  | unmade fault same grown never => exact grown

theorem load_ends (host : Host) (desk : Desk) :
    Ends (load host) desk
      (fun c after => Made host desk.store after.store ∧
        loadFrom after.store host.place (fileIn host.configDirectory) = .ok c)
      (fun e after => Unread host desk.store e after.store) := by
  unfold load
  refine ends_bind (ends_imp (Job.ensure_ends host host.configDirectory desk) (fun _ _ made => made) ?_) ?_
  · rintro e after ⟨⟨fault, rfl⟩, grown, never⟩
    exact .unmade fault rfl grown never
  · rintro directory after ⟨rfl, made⟩
    refine Job.ends_store_bind (ends_result ?_ ?_)
    · exact fun c loaded => ⟨made, loaded⟩
    · exact fun e failed => .troubled _ (.inl rfl) made (returns_known (load_from_returns ..) failed)

end Configuration

end ApiStubs
