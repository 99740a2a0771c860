import ApiStubs.Proofs.Path
import ApiStubs.Proofs.Store.Replace
import Mathlib.Data.List.Nodup

/- Places. A path that can be followed leads where its names say, whatever is there; what stands in a directory is
   found under the path of the directory and its own name. -/

set_option autoImplicit false

namespace ApiStubs.Store

-- Where names lead from a directory, if the directories on the way are there.
def descend (here : Place) (names : List String) : Place :=
  names.foldl (fun here name => if name = ".." then here.dropLast else here ++ [name]) here

def placeOf (directory : Place) (p : Path) : Place :=
  descend (if p.isAbsolute then [] else directory) p.parts

-- The names that files may have.
structure FileName (name : String) : Prop where
  step : Path.Step name
  down : name ≠ ".."

instance (name : String) : Decidable (FileName name) :=
  decidable_of_iff (Path.Step name ∧ name ≠ "..")
    ⟨fun both => ⟨both.1, both.2⟩, fun file => ⟨file.step, file.down⟩⟩

theorem file_name_long {name : String} (free : '/' ∉ name.toList) (long : 2 < name.toList.length) : FileName name where
  step := by
    refine ⟨?_, free⟩
    have some : name.toList ≠ [] ∧ name.toList ≠ ['.'] := by
      constructor <;> intro same <;> simp [same] at long
    simp [Path.isPart, some]
  down := by
    rintro rfl
    exact absurd long (by decide)

theorem follow_descends (s : Store) (names : List String) (here place : Place)
    (found : s.follow here names = .ok place) : place = descend here names := by
  induction names generalizing here with
  | nil =>
      cases found
      rfl
  | cons name rest ih =>
      rw [follow] at found
      split at found
      · cases found
      · cases found
      · by_cases up : name = ".."
        · rw [if_pos up] at found
          simpa [descend, up] using ih here.dropLast found
        · rw [if_neg up] at found
          split at found
          · simpa [descend, up] using ih (here ++ [name]) found
          · cases found

theorem locate_place (s : Store) (directory : Place) (p : Path) (place : Place)
    (found : s.locate directory p = .ok place) : place = placeOf directory p :=
  follow_descends s p.parts _ place found

theorem stat_iff (s : Store) (directory : Place) (p : Path) (node : Node) :
    s.stat directory p = .ok node ↔ ∃ place, s.locate directory p = .ok place ∧ s.node place = some node := by
  unfold stat
  cases located : s.locate directory p with
  | error fault => simp
  | ok place => cases found : s.node place <;> simp [found]

theorem read_of_stat {s : Store} {directory : Place} {p : Path} {content : ByteArray}
    (held : s.stat directory p = .ok (.file content)) : s.read directory p = .ok content := by
  rw [read, held]

theorem descend_append (here : Place) (front back : List String) :
    descend here (front ++ back) = descend (descend here front) back :=
  List.foldl_append

theorem place_child (directory : Place) (p : Path) {name : String} (file : FileName name) :
    placeOf directory (p.child name) = placeOf directory p ++ [name] := by
  have last (here : Place) : descend here [name] = here ++ [name] := by simp [descend, file.down]
  rw [Path.child_step p file.step]
  exact (descend_append _ p.parts [name]).trans (last _)

theorem follow_append (s : Store) (front back : List String) (here there : Place)
    (found : s.follow here front = .ok there) : s.follow here (front ++ back) = s.follow there back := by
  induction front generalizing here with
  | nil =>
      cases found
      rfl
  | cons name rest ih =>
      rw [List.cons_append, follow]
      rw [follow] at found
      split at found
      · cases found
      · cases found
      · by_cases up : name = ".."
        · rw [if_pos up] at found ⊢
          exact ih here.dropLast found
        · rw [if_neg up] at found ⊢
          split at found
          · next fits =>
              rw [if_pos fits]
              exact ih (here ++ [name]) found
          · cases found

theorem locate_child (s : Store) (directory : Place) (p : Path) (place : Place) {name : String} (file : FileName name)
    (fits : nameFits name = true) (found : s.locate directory p = .ok place)
    (entered : s.node place = some .directory) : s.locate directory (p.child name) = .ok (place ++ [name]) := by
  have last : s.follow place [name] = .ok (place ++ [name]) := by
    rw [follow, entered]
    simp only [if_neg file.down, if_pos fits]
    rfl
  rw [Path.child_step p file.step]
  exact (follow_append s p.parts [name] _ place found).trans last

-- Every place holds one node, under a name that a file may have.
structure Orderly (s : Store) : Prop where
  distinct : (s.nodes.map (·.1)).Nodup
  names : ∀ e ∈ s.nodes, ∀ name ∈ e.1, FileName name ∧ nameFits name = true

theorem name_in_iff (directory place : Place) (name : String) :
    nameIn directory place = some name ↔ place = directory ++ [name] := by
  unfold nameIn
  constructor
  · intro named
    by_cases within : place.dropLast = directory
    · rw [if_pos within] at named
      obtain ⟨front, rfl⟩ := List.getLast?_eq_some_iff.mp named
      simpa using within
    · rw [if_neg within] at named
      cases named
  · rintro rfl
    simp

theorem names_in_iff (s : Store) (directory : Place) (name : String) :
    name ∈ s.namesIn directory ↔ ∃ node, (directory ++ [name], node) ∈ s.nodes := by
  simp only [namesIn, List.mem_filterMap, name_in_iff]
  constructor
  · rintro ⟨⟨place, node⟩, member, rfl⟩
    exact ⟨node, member⟩
  · rintro ⟨node, member⟩
    exact ⟨_, member, rfl⟩

theorem lookup_iff {nodes : List (Place × Node)} (distinct : (nodes.map (·.1)).Nodup) (place : Place) (node : Node) :
    nodes.lookup place = some node ↔ (place, node) ∈ nodes := by
  rw [List.lookup_eq_some_iff]
  constructor
  · rintro ⟨before, after, rfl, -⟩
    simp
  · intro member
    obtain ⟨before, after, rfl⟩ := List.append_of_mem member
    refine ⟨before, after, rfl, fun e earlier => ?_⟩
    rw [List.map_append, List.nodup_append] at distinct
    have other := distinct.2.2 e.1 (List.mem_map_of_mem earlier) place (by simp)
    simpa using Ne.symm other

theorem node_child_iff (s : Store) (orderly : s.Orderly) (directory : Place) (name : String) (node : Node) :
    s.node (directory ++ [name]) = some node ↔ (directory ++ [name], node) ∈ s.nodes := by
  have named : directory ++ [name] ≠ [] := by simp
  rw [Store.node, if_neg named, lookup_iff orderly.distinct]

theorem names_distinct (s : Store) (directory : Place) (orderly : s.Orderly) : (s.namesIn directory).Nodup := by
  have places : s.namesIn directory = (s.nodes.map (·.1)).filterMap (nameIn directory) := by
    rw [List.filterMap_map]
    rfl
  rw [places]
  refine List.Nodup.filterMap ?_ orderly.distinct
  intro place other name first second
  rw [(name_in_iff directory place name).mp first, (name_in_iff directory other name).mp second]

end ApiStubs.Store
