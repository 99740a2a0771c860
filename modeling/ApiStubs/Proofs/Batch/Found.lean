import ApiStubs.Batch
import ApiStubs.Proofs.Store.Overlay

/- The files that a batch goes through: those of the directory whose name ends as that of a description does, each
   once, by name. A file stays as it was found as long as nothing is written to its own place, and only what it
   holds decides what is loaded from it. -/

set_option autoImplicit false

namespace ApiStubs

open Store (FileName Keeps Orderly nameFits placeOf)

namespace Store

theorem list_ok {s : Store} {directory : Place} {p : Path} {names : List String}
    (listed : s.list directory p = .ok names) :
    ∃ place, s.locate directory p = .ok place ∧ s.node place = some .directory ∧ names = s.namesIn place := by
  unfold list at listed
  split at listed
  · cases listed
  · next place located =>
    split at listed
    · next entered =>
      cases listed
      exact ⟨place, located, entered, rfl⟩
    · cases listed
    · cases listed

-- The order of the names in which the entries of a directory are gone through.
theorem names_sorted (s : Store) (directory : Place) (orderly : s.Orderly) :
    ((s.namesIn directory).mergeSort fun a b => a ≤ b).Pairwise (· < ·) := by
  have sorted : ((s.namesIn directory).mergeSort fun a b => a ≤ b).Pairwise fun a b => decide (a ≤ b) = true := by
    refine List.pairwise_mergeSort (fun a b c first second => ?_) (fun a b => ?_) _
    · simpa using String.le_trans (by simpa using first) (by simpa using second)
    · simpa using String.le_total a b
  have distinct := (List.mergeSort_perm (s.namesIn directory) fun a b => decide (a ≤ b)).nodup_iff.mpr
    (names_distinct s directory orderly)
  refine (sorted.and distinct).imp ?_
  rintro a b ⟨below, different⟩
  exact Std.lt_of_le_of_ne (by simpa using below) different

end Store

namespace Source

-- Neither the input nor a page is read under the path of a description.
theorem read_file (host : Host) (store : Store) {p : Path} (proper : p.Proper) (described : isDescription p = true) :
    read host store p.text = readFile store host.place p := by
  have same := Path.of_text_text p proper
  have file : p.text ≠ "-" := by
    intro input
    rw [input] at same
    rw [← same] at described
    revert described
    decide
  simp only [read, if_neg file, Path.text_not_url p proper, same]
  rfl

theorem load_same (host : Host) {s t : Store} {p : Path} (proper : p.Proper) (described : isDescription p = true)
    (held : t.stat host.place p = s.stat host.place p) : load host t p.text = load host s p.text := by
  have content : t.read host.place p = s.read host.place p := by rw [Store.read, Store.read, held]
  have file : t.isFile host.place p = s.isFile host.place p := by rw [Store.isFile, Store.isFile, held]
  have same : readFile t host.place p = readFile s host.place p := by
    rw [readFile, readFile, readContent, readContent, content, file]
  rw [load, load, read_file host t proper described, read_file host s proper described, same]

end Source

namespace Batch

theorem candidate_iff (host : Host) (store : Store) (p : Path) :
    isCandidate host store p = true ↔
      (∃ content, store.stat host.place p = .ok (.file content)) ∧ Source.isDescription p = true := by
  unfold isCandidate Store.isFile
  cases store.stat host.place p with
  | error fault => cases absent : Store.isAbsence fault <;> simp [absent]
  | ok node => cases node <;> simp

theorem find_ok {host : Host} {store : Store} {directory : Path} {found : List Path}
    (listed : find host store directory = .ok found) :
    ∃ place, store.locate host.place directory = .ok place ∧ store.node place = some .directory ∧
      found = (((store.namesIn place).mergeSort fun a b => a ≤ b).filter
        fun name => isCandidate host store (directory.child name)).map directory.child := by
  unfold find at listed
  split at listed
  · cases listed
  · next names all =>
    obtain ⟨place, located, entered, rfl⟩ := Store.list_ok all
    cases listed
    exact ⟨place, located, entered, List.filter_map⟩

theorem found_held {host : Host} {store : Store} {directory : Path} {found : List Path}
    (listed : find host store directory = .ok found) :
    ∀ p ∈ found, (∃ content, store.stat host.place p = .ok (.file content)) ∧ Source.isDescription p = true := by
  obtain ⟨place, -, -, rfl⟩ := find_ok listed
  intro p member
  obtain ⟨name, inside, rfl⟩ := List.mem_map.mp member
  exact (candidate_iff ..).mp (List.mem_filter.mp inside).2

-- What stands in a directory under a name of its own, in whatever case its ending is written.
def Holds (store : Store) (place : Place) (directory : Path) (name : String) : Prop :=
  (∃ content, store.node (place ++ [name]) = some (.file content)) ∧
    Source.isDescription (directory.child name) = true

theorem find_lists {host : Host} {store : Store} {directory : Path} {found : List Path} (orderly : store.Orderly)
    (listed : find host store directory = .ok found) :
    ∃ names : List String, found = names.map directory.child ∧ names.Pairwise (· < ·) ∧
      (∀ name ∈ names, FileName name) ∧
      ∀ name, name ∈ names ↔ Holds store (placeOf host.place directory) directory name := by
  obtain ⟨place, located, entered, rfl⟩ := find_ok listed
  obtain rfl := Store.locate_place _ _ _ _ located
  have fits : ∀ name ∈ store.namesIn (placeOf host.place directory), FileName name ∧ nameFits name = true := by
    intro name member
    obtain ⟨node, held⟩ := (Store.names_in_iff ..).mp member
    exact orderly.names _ held name (by simp)
  refine ⟨_, rfl, ?_, ?_, ?_⟩
  · exact (Store.names_sorted store _ orderly).filter _
  · intro name member
    have inside := List.mem_mergeSort.mp (List.mem_filter.mp member).1
    exact (fits name inside).1
  · intro name
    rw [List.mem_filter, List.mem_mergeSort, candidate_iff]
    constructor
    · rintro ⟨member, ⟨content, held⟩, described⟩
      refine ⟨⟨content, ?_⟩, described⟩
      obtain ⟨there, reached, at_⟩ := (Store.stat_iff ..).mp held
      obtain ⟨file, fit⟩ := fits name member
      rw [Store.locate_child store _ directory _ file fit located entered] at reached
      cases reached
      exact at_
    · rintro ⟨⟨content, held⟩, described⟩
      have member : name ∈ store.namesIn (placeOf host.place directory) :=
        (Store.names_in_iff ..).mpr ⟨_, (Store.node_child_iff store orderly _ name _).mp held⟩
      obtain ⟨file, fit⟩ := fits name member
      have reached := Store.locate_child store _ directory _ file fit located entered
      exact ⟨member, ⟨content, (Store.stat_iff ..).mpr ⟨_, reached, held⟩⟩, described⟩

end Batch

end ApiStubs
