import ApiStubs.Proofs.Store.Overlay

/- Directories that are there. One that was made is there afterwards, and making it once more changes nothing. Of a
   file it is said separately whether it is there and what it holds. -/

set_option autoImplicit false

namespace ApiStubs.Store

variable {disturbance : Disturbance} {directory : Place} {p : Path} {s t : Store}

theorem node_put_vacant {place other : Place} {node held : Node} (vacant : s.node place = none)
    (there : s.node other = some held) : (s.put place node).node other = some held := by
  have different : other ≠ place := by
    rintro rfl
    rw [vacant] at there
    cases there
  rw [node_put_other _ _ _ _ different, there]

theorem make_directory_there (made : Ran (makeDirectory disturbance directory p) s () t) :
    t.stat directory p = .ok .directory := by
  unfold makeDirectory at made
  simp only [ran_bind, ran_get, ran_lift] at made
  obtain ⟨_, _, ⟨rfl, rfl⟩, place, _, ⟨located, rfl⟩, rest⟩ := made
  split at rest
  · next held =>
    obtain ⟨-, rfl⟩ := (ran_pure ..).mp rest
    exact (stat_iff ..).mpr ⟨place, located, held⟩
  · obtain ⟨-, applied⟩ := (ran_perform ..).mp rest
    obtain ⟨-, vacant, rfl⟩ := (create_at_ok ..).mp applied
    refine (stat_iff ..).mpr ⟨place, ?_, node_put_self _ _ _ (vacant_named vacant)⟩
    exact follow_kept _ _ (fun _ held => node_put_vacant vacant held) _ _ _ located

theorem make_all_there {root name : String} {above : List String}
    (made : Ran (makeAll disturbance directory root (name :: above)) s () t) :
    t.stat directory ⟨root, (name :: above).reverse⟩ = .ok .directory := by
  rw [makeAll] at made
  rcases (ran_catch ..).mp made with made | ⟨fault, between, -, handled⟩
  · exact make_directory_there made
  · split at handled
    · obtain ⟨_, _, -, made⟩ := (ran_bind ..).mp handled
      exact make_directory_there made
    · exact (ran_throw _ _ _ _ handled).elim

theorem make_directories_there (named : p.parts ≠ []) (made : Ran (makeDirectories disturbance directory p) s () t) :
    t.stat directory p = .ok .directory := by
  obtain ⟨name, above, same⟩ := List.exists_cons_of_ne_nil (mt List.reverse_eq_nil_iff.mp named)
  have parts : p.parts = (name :: above).reverse := by rw [← same, List.reverse_reverse]
  rw [makeDirectories, same] at made
  have there := make_all_there made
  rwa [← parts] at there

theorem make_directories_kept (there : s.stat directory p = .ok .directory) :
    Ran (makeDirectories disturbance directory p) s () s := by
  obtain ⟨place, located, held⟩ := (stat_iff ..).mp there
  unfold makeDirectories
  cases same : p.parts.reverse with
  | nil => exact (ran_pure ..).mpr ⟨rfl, rfl⟩
  | cons name above =>
      have whole : (⟨p.root, (name :: above).reverse⟩ : Path) = p := by rw [← same, List.reverse_reverse]
      rw [makeAll]
      refine (ran_catch ..).mpr (.inl ?_)
      rw [whole, makeDirectory]
      simp only [ran_bind, ran_get, ran_lift]
      refine ⟨s, s, ⟨rfl, rfl⟩, place, s, ⟨located, rfl⟩, ?_⟩
      simp only [held]
      exact (ran_pure ..).mpr ⟨rfl, rfl⟩

theorem is_file_false (nothing : s.isFile directory p = .ok false) : ∃ fault, s.read directory p = .error fault := by
  unfold isFile at nothing
  unfold read
  split at nothing
  · cases nothing
  · exact ⟨_, rfl⟩
  · exact ⟨_, rfl⟩

theorem is_file_true (file : s.isFile directory p = .ok true) : ∃ content, s.read directory p = .ok content := by
  unfold isFile at file
  unfold read
  split at file
  · exact ⟨_, rfl⟩
  · cases file
  · split at file <;> cases file

-- Nothing stands in the way of a name in a directory that is there.
theorem is_file_known (there : s.stat directory p = .ok .directory) {name : String} (file : FileName name)
    (fits : nameFits name = true) : ∃ found, s.isFile directory (p.child name) = .ok found := by
  obtain ⟨place, located, entered⟩ := (stat_iff ..).mp there
  have inside := locate_child s directory p place file fits located entered
  cases held : s.node (place ++ [name]) with
  | none => exact ⟨false, by simp only [isFile, stat, inside, held, isAbsence, if_true]⟩
  | some node =>
      cases node with
      | directory => exact ⟨false, by simp only [isFile, stat, inside, held]⟩
      | file content => exact ⟨true, by simp only [isFile, stat, inside, held]⟩

-- A place holds the same file in two stores, or in neither.
def SameFile (place : Place) (s t : Store) : Prop :=
  ∀ content, s.node place = some (.file content) ↔ t.node place = some (.file content)

theorem same_file_refl (place : Place) (s : Store) : SameFile place s s :=
  fun _ => Iff.rfl

theorem same_file_trans {place : Place} {s t u : Store} (first : SameFile place s t) (second : SameFile place t u) :
    SameFile place s u :=
  fun content => (first content).trans (second content)

theorem grown_same_file {ways : Place → Prop} {s t : Store} (grown : Grown ways s t) (place : Place) :
    SameFile place s t := by
  intro content
  refine ⟨grown_kept grown, fun held => ?_⟩
  rcases grown place with same | ⟨-, made, -⟩
  · rw [← same, held]
  · rw [made] at held
    cases held

theorem overlaid_same_file {written : List (Path × ByteArray)} {s t : Store}
    (overlaid : Overlaid directory written s t) {place : Place}
    (other : ∀ w ∈ written, place ≠ placeOf directory w.1) : SameFile place s t := by
  intro content
  refine ⟨fun held => overlaid_kept overlaid held other, fun held => ?_⟩
  rcases overlaid.others place other with same | ⟨-, made, -⟩
  · rw [← same, held]
  · rw [made] at held
    cases held

end ApiStubs.Store
