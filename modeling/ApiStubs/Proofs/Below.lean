import ApiStubs.Proofs.Reference

/- The nodes that stand in a value. What a pointer leads to stands in the document it is looked up in, and so does
   what a chain of references ends at. A test of all mappings in a value can be run. -/

set_option autoImplicit false

namespace ApiStubs

-- A node that stands somewhere in a value.
inductive Below : Value → Value → Prop where
  | self {v : Value} : Below v v
  | entry {entries : Entries} {key v node : Value} (member : (key, v) ∈ entries) (below : Below v node) :
      Below (.map entries) node
  | item {items : List Value} {v node : Value} (member : v ∈ items) (below : Below v node) :
      Below (.list items) node

theorem below_trans (v middle node : Value) (first : Below v middle) (second : Below middle node) : Below v node := by
  induction first with
  | self => exact second
  | entry member _ ih => exact .entry member (ih second)
  | item member _ ih => exact .item member (ih second)

theorem below_plain (v node : Value) (unmapped : ∀ entries, v ≠ .map entries)
    (unlisted : ∀ items, v ≠ .list items) (below : Below v node) : node = v := by
  cases below with
  | self => rfl
  | entry _ _ => exact absurd rfl (unmapped _)
  | item _ _ => exact absurd rfl (unlisted _)

theorem below_map_iff (entries : Entries) (node : Value) :
    Below (.map entries) node ↔ node = .map entries ∨ ∃ e ∈ entries, Below e.2 node := by
  constructor
  · intro below
    cases below with
    | self => exact .inl rfl
    | entry member inner => exact .inr ⟨_, member, inner⟩
  · rintro (rfl | ⟨e, member, inner⟩)
    · exact .self
    · exact .entry member inner

theorem below_list_iff (items : List Value) (node : Value) :
    Below (.list items) node ↔ node = .list items ∨ ∃ v ∈ items, Below v node := by
  constructor
  · intro below
    cases below with
    | self => exact .inl rfl
    | item member inner => exact .inr ⟨_, member, inner⟩
  · rintro (rfl | ⟨v, member, inner⟩)
    · exact .self
    · exact .item member inner

section

variable (test : Entries → Bool)

mutual

def everyMapping : Value → Bool
  | .map entries => test entries && everyMappingOfEntries entries
  | .list items => everyMappingOfItems items
  | _ => true

def everyMappingOfEntries : List (Value × Value) → Bool
  | [] => true
  | (_, v) :: rest => everyMapping v && everyMappingOfEntries rest

def everyMappingOfItems : List Value → Bool
  | [] => true
  | v :: rest => everyMapping v && everyMappingOfItems rest

end

mutual

theorem every_mapping_iff : (v : Value) →
    (everyMapping test v = true ↔ ∀ entries, Below v (.map entries) → test entries = true)
  | .map own => by
      rw [everyMapping, Bool.and_eq_true, every_mapping_of_entries_iff own]
      simp only [below_map_iff, Value.map.injEq, or_imp, forall_and, forall_eq, forall_exists_index, and_imp]
      exact and_congr_right fun _ => ⟨fun each entries e member => each e member entries,
        fun each e member entries => each entries e member⟩
  | .list items => by
      rw [everyMapping, every_mapping_of_items_iff items]
      simp only [below_list_iff, reduceCtorEq, false_or, forall_exists_index, and_imp]
      exact ⟨fun each entries v member => each v member entries, fun each v member entries => each entries v member⟩
  | .null | .bool _ | .int _ | .float _ | .str _ | .date _ | .dateTime _ | .bytes _ | .set _ | .tuple _ => by
      simp only [everyMapping, true_iff]
      intro entries below
      cases below_plain _ _ (by simp) (by simp) below

theorem every_mapping_of_entries_iff : (entries : List (Value × Value)) →
    (everyMappingOfEntries test entries = true ↔
      ∀ e ∈ entries, ∀ inner, Below e.2 (.map inner) → test inner = true)
  | [] => by simp [everyMappingOfEntries]
  | (_, v) :: rest => by
      rw [everyMappingOfEntries, Bool.and_eq_true, every_mapping_iff v, every_mapping_of_entries_iff rest,
        List.forall_mem_cons]

theorem every_mapping_of_items_iff : (items : List Value) →
    (everyMappingOfItems test items = true ↔ ∀ v ∈ items, ∀ inner, Below v (.map inner) → test inner = true)
  | [] => by simp [everyMappingOfItems]
  | v :: rest => by
      rw [everyMappingOfItems, Bool.and_eq_true, every_mapping_iff v, every_mapping_of_items_iff rest,
        List.forall_mem_cons]

end

end

namespace Pointer

theorem item_at_mem (items : List Value) (place : Int) (v : Value) (found : itemAt? items place = some v) :
    v ∈ items := by
  unfold itemAt? at found
  split at found
  · exact List.mem_of_getElem? found
  · split at found
    · cases found
    · exact List.mem_of_getElem? found

theorem entry_mem (entries : Entries) (name : String) (v : Value) (found : entries.get? name = some v) :
    (.str name, v) ∈ entries := by
  obtain ⟨⟨key, _⟩, first, rfl⟩ := Option.map_eq_some_iff.mp found
  have named : key = .str name := by simpa using List.find?_some first
  exact named ▸ List.mem_of_find?_eq_some first

theorem read_below (entries : Entries) (name : String) :
    entries.get name = .null ∨ Below (.map entries) (entries.get name) := by
  unfold Entries.get
  cases found : entries.get? name with
  | none => exact .inl rfl
  | some v => exact .inr (.entry (entry_mem entries name v found) .self)

theorem step_below (node inner target : Value) (segment : String) (step : step? node segment = some inner)
    (below : Below inner target) : Below node target := by
  cases node with
  | map entries => exact .entry (entry_mem entries segment inner step) below
  | list items =>
      simp only [step?] at step
      split at step
      · exact .item (item_at_mem items _ inner step) below
      · cases step
  | _ => cases step

theorem walk_below (pointer : String) (node target : Value) (path : List String)
    (found : walk pointer node path = .ok target) : Below node target := by
  induction path generalizing node with
  | nil =>
      cases found
      exact .self
  | cons segment rest ih =>
      cases step : step? node segment with
      | none => simp [walk, step] at found
      | some inner =>
          simp only [walk, step] at found
          exact step_below node inner target segment step (ih inner found)

theorem lookup_below (document pointer target : Value) (found : lookup document pointer = .ok target) :
    Below document target := by
  unfold lookup at found
  split at found
  · split at found
    · exact walk_below _ _ _ _ found
    · cases found
  · cases found

end Pointer

namespace Reference

open Value (follow resolve resolved)

theorem follow_below (document pointer node : Value) (bound : Int) (hops : Nat)
    (success : follow document bound hops pointer = .ok node) : Below document node := by
  obtain ⟨_, -, last, -, found, -⟩ := (follow_ok_iff ..).mp success
  exact Pointer.lookup_below document last node found

theorem resolved_below (document v node : Value) (bound : Int) (success : resolved document bound v = .ok node) :
    node = v ∨ Below document node := by
  unfold resolved at success
  cases points : v.reference? with
  | none =>
      rw [points] at success
      cases success
      exact .inl rfl
  | some pointer =>
      rw [points] at success
      exact .inr (follow_below _ _ _ _ _ success)

end Reference

end ApiStubs
