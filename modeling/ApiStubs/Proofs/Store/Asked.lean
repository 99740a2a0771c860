import ApiStubs.Proofs.Store.Overlay

/- The operations that replacing a file asks for. They make directories on the way to the file, and all others are
   about the file and a draft beside it: what would disturb any other operation is never met. -/

set_option autoImplicit false

namespace ApiStubs.Store

variable {disturbance other : Disturbance} {directory : Place} {p : Path}

def draftPlace (directory : Place) (p : Path) (n : Nat) : Place :=
  placeOf directory p.parent ++ [draftName p.name n]

-- What may be asked for when a file is replaced.
inductive Asked (directory : Place) (p : Path) : Operation → Prop where
  | makeDirectory {place : Place} (way : OnWay directory p.parent place) : Asked directory p (.makeDirectory place)
  | create (n : Nat) : Asked directory p (.create (draftPlace directory p n))
  | write (n : Nat) (content : ByteArray) : Asked directory p (.write (draftPlace directory p n) content)
  | sync (n : Nat) : Asked directory p (.sync (draftPlace directory p n))
  | rename (n : Nat) : Asked directory p (.rename (draftPlace directory p n) (placeOf directory p))

-- Two disturbances that no operation of a kind can tell apart.
def Alike (asked : Operation → Prop) (disturbance other : Disturbance) : Prop :=
  ∀ operation, asked operation → disturbance operation = other operation

section

variable {α β : Type}

theorem lift_bind_same {result : Except FileFault α} {next more : α → Action β}
    (same : ∀ a, result = .ok a → next a = more a) : lift result >>= next = lift result >>= more := by
  cases result with
  | ok a =>
      have step (f : α → Action β) : lift (.ok a) >>= f = f a := rfl
      rw [step, step, same a rfl]
  | error fault => rfl

end

theorem written_part_same {place : Place}
    (same : ∀ content, disturbance (.write place content) = other (.write place content)) (content : ByteArray)
    (size : Nat) : writtenPart disturbance place content size = writtenPart other place content size := by
  induction size with
  | zero => rfl
  | succ size ih => simp only [writtenPart, same, ih]

theorem perform_same {operation : Operation} (same : disturbance operation = other operation)
    (kept : ∀ s, operation.interrupted disturbance s = operation.interrupted other s) :
    perform disturbance operation = perform other operation := by
  simp only [perform, same, kept]

theorem perform_write_same {place : Place} (content : ByteArray)
    (same : ∀ content, disturbance (.write place content) = other (.write place content)) :
    perform disturbance (.write place content) = perform other (.write place content) :=
  perform_same (same content) fun s => by
    simp only [Operation.interrupted, written_part_same same content content.size]

theorem make_directory_same
    (same : disturbance (.makeDirectory (placeOf directory p)) = other (.makeDirectory (placeOf directory p))) :
    makeDirectory disturbance directory p = makeDirectory other directory p := by
  unfold makeDirectory
  refine bind_congr fun s => lift_bind_same fun place located => ?_
  rw [locate_place s directory p place located, perform_same same fun _ => rfl]

theorem make_all_same (root : String) (names : List String)
    (same : ∀ place, OnWay directory ⟨root, names.reverse⟩ place →
      disturbance (.makeDirectory place) = other (.makeDirectory place)) :
    makeAll disturbance directory root names = makeAll other directory root names := by
  induction names with
  | nil => rfl
  | cons name above ih =>
      have make := make_directory_same (same _ ⟨_, List.prefix_refl _, rfl⟩)
      have shorter : makeAll disturbance directory root above = makeAll other directory root above := by
        refine ih fun place ⟨parts, front, here⟩ => same place ⟨parts, front.trans ?_, here⟩
        simp
      simp only [makeAll, make, shorter]

theorem make_directories_same
    (same : ∀ place, OnWay directory p place → disturbance (.makeDirectory place) = other (.makeDirectory place)) :
    makeDirectories disturbance directory p = makeDirectories other directory p := by
  refine make_all_same p.root p.parts.reverse ?_
  rwa [List.reverse_reverse]

theorem draft_place_named (s : Store) (directory : Place) (name : String) :
    ∃ n, draftFor s directory name = directory ++ [draftName name n] := by
  have named (tries n : Nat) : ∃ m, freeDraft s directory name tries n = directory ++ [draftName name m] := by
    induction tries generalizing n with
    | zero => exact ⟨n, rfl⟩
    | succ tries ih =>
        rw [freeDraft]
        by_cases taken : (s.node (directory ++ [draftName name n])).isSome = true
        · simpa only [if_pos taken] using ih (n + 1)
        · exact ⟨n, by simp only [if_neg taken]⟩
  exact named _ 0

theorem replace_same (alike : Alike (Asked directory p) disturbance other) (content : ByteArray) :
    replace disturbance directory p content = replace other directory p content := by
  have directories : makeDirectories disturbance directory p.parent = makeDirectories other directory p.parent :=
    make_directories_same fun place way => alike _ (.makeDirectory way)
  unfold replace
  rw [directories]
  refine bind_congr fun _ => bind_congr fun s => lift_bind_same fun folder entered => ?_
  refine lift_bind_same fun target found => ?_
  obtain ⟨n, named⟩ := draft_place_named s folder p.name
  have place : draftFor s folder p.name = draftPlace directory p n := by
    rw [named, locate_place _ _ _ _ entered, draftPlace]
  dsimp only
  rw [place, locate_place _ _ _ _ found]
  have created : perform disturbance (.create (draftPlace directory p n)) = perform other (.create _) :=
    perform_same (alike _ (.create n)) fun _ => rfl
  have finished : finish disturbance (draftPlace directory p n) (placeOf directory p) content =
      finish other (draftPlace directory p n) (placeOf directory p) content := by
    unfold finish
    rw [perform_write_same content fun content => alike _ (.write n content),
      perform_same (alike _ (.sync n)) fun _ => rfl, perform_same (alike _ (.rename n)) fun _ => rfl]
  rw [created, finished]

end ApiStubs.Store
