import ApiStubs.Proofs.Below
import ApiStubs.Proofs.Pointer
import ApiStubs.Proofs.WrittenNumber
import Mathlib.Data.List.Basic

/- Walks through a document, from node to node by the names of entries and the places of items. The pointer that is
   extended by the steps of a walk leads where the walk leads, and names that differ are never written as one
   pointer. -/

set_option autoImplicit false

namespace ApiStubs.Pointer

open ApiStubs.Decimal ApiStubs.Json ApiStubs.Text

-- A step to what stands under a name, or to the item at a place counted from the front.
inductive StepsTo : Value → Value → Value → Prop where
  | name {entries : Entries} {name : String} {v : Value} (there : entries.get? name = some v) :
      StepsTo (.map entries) (.str name) v
  | place {items : List Value} {i : Nat} {v : Value} (there : items[i]? = some v) :
      StepsTo (.list items) (.int i) v

inductive WalksTo : Value → List Value → Value → Prop where
  | here {v : Value} : WalksTo v [] v
  | onward {v next last segment : Value} {segments : List Value} (step : StepsTo v segment next)
      (rest : WalksTo next segments last) : WalksTo v (segment :: segments) last

-- No list is so long that the place of an item has more digits than are read; none in a memory is.
def Counted (document : Value) : Prop :=
  ∀ items, Below document (.list items) → items.length ≤ 10 ^ digitLimit

theorem place_read {i bound : Nat} (inside : i < bound) (few : bound ≤ 10 ^ digitLimit) :
    integer? (Value.int i).display = some (i : Int) := by
  have short : (digits i).length ≤ digitLimit :=
    (Nat.length_toDigits_le_iff (by decide) (by decide)).mpr (Nat.lt_of_lt_of_le inside few)
  exact integer_written i short

theorem step_found {document v next segment : Value} (counted : Counted document) (below : Below document v)
    (step : StepsTo v segment next) : step? v segment.display = some next := by
  cases step with
  | name there => exact there
  | @place items i _ there =>
      have inside : i < items.length := (List.getElem?_eq_some_iff.mp there).1
      have read := place_read inside (counted items below)
      simp only [step?, read]
      rw [itemAt?, if_pos (Int.natCast_nonneg i), Int.toNat_natCast]
      exact there

theorem walk_extended {document v last : Value} {segments : List Value} {place : String} (counted : Counted document)
    (walk : WalksTo v segments last) (found : lookup document (.str place) = .ok v) (inner : Inner place) :
    lookup document (.str (extendBy place segments)) = .ok last := by
  induction walk generalizing place with
  | here => exact found
  | @onward v next last segment segments step rest ih =>
      have further := inner_further inner segment.display
      have taken := step_found counted (lookup_below document _ v found) step
      exact ih (lookup_extended found further taken) further

theorem extend_by_append (pointer : String) (front back : List Value) :
    extendBy pointer (front ++ back) = extendBy (extendBy pointer front) back :=
  List.foldl_append

theorem to_list_extended_by (pointer : String) (segments : List Value) :
    (extendBy pointer segments).toList =
      pointer.toList ++ segments.flatMap fun segment => '/' :: escape segment.display.toList := by
  induction segments generalizing pointer with
  | nil => simp [extendBy]
  | cons segment rest ih =>
      have onward : extendBy pointer (segment :: rest) = extendBy (extendText pointer segment.display) rest := rfl
      rw [onward, ih, to_list_extended, List.flatMap_cons, List.append_assoc]

-- Between the slashes of a written pointer stand its names, escaped.
theorem split_extended (names : List String) :
    splitOn '/' ((names.map Value.str).flatMap fun segment => '/' :: escape segment.display.toList) =
      [] :: names.map fun name => escape name.toList := by
  have free : ∀ part ∈ names.map fun name => escape name.toList, '/' ∉ part := by
    intro part member
    obtain ⟨name, -, rfl⟩ := List.mem_map.mp member
    exact slash_not_escaped name.toList
  have split := split_on_led '/' [] _ (by simp) free
  rw [List.nil_append, List.flatMap_map] at split
  rw [List.flatMap_map]
  exact split

theorem extend_by_injective {pointer : String} {names others : List String}
    (same : extendBy pointer (names.map .str) = extendBy pointer (others.map .str)) : names = others := by
  have texts := congrArg String.toList same
  rw [to_list_extended_by, to_list_extended_by] at texts
  have parts := congrArg (splitOn '/') (List.append_cancel_left texts)
  rw [split_extended, split_extended] at parts
  have escaped : Function.Injective fun name : String => escape name.toList := by
    intro name other equal
    have unescaped := congrArg unescape equal
    simp only [unescape_escape] at unescaped
    exact String.toList_inj.mp unescaped
  exact List.map_injective_iff.mpr escaped (List.cons.inj parts).2

theorem extended_pointer_leads (document : Value) (counted : Counted document) :
    (∀ (first : String) (others : List Value) (last : Value), first ≠ "" →
      WalksTo document (.str first :: others) last →
      lookup document (.str (extendBy "#" (.str first :: others))) = .ok last) ∧
    (∀ (pointer : String) (segments : List Value), (extendBy pointer segments).toList =
      pointer.toList ++ segments.flatMap fun segment => '/' :: escape segment.display.toList) ∧
    (∀ (pointer : String) (front back : List Value),
      extendBy pointer (front ++ back) = extendBy (extendBy pointer front) back) ∧
    ∀ (pointer : String) (names others : List String),
      extendBy pointer (names.map .str) = extendBy pointer (others.map .str) → names = others := by
  refine ⟨?_, to_list_extended_by, extend_by_append, fun _ _ _ => extend_by_injective⟩
  intro first others last named walk
  cases walk with
  | @onward _ next _ _ _ step rest =>
      have inner := inner_named "#" first named
      have taken := step_found counted .self step
      have found : lookup document (.str (extendText "#" first)) = .ok next := lookup_extended rfl inner taken
      change lookup document (.str (extendBy (extendText "#" first) others)) = .ok last
      exact walk_extended counted rest found inner

def labelled : Value :=
  .map [(.str "a~1/b", .list [.map [(.str "", .int 7)]])]

theorem labelled_counted : Counted labelled := by
  intro items below
  have single : items.length = 1 := by
    simp only [labelled, below_map_iff, below_list_iff, List.mem_singleton, exists_eq_left, reduceCtorEq, false_or,
      Value.list.injEq] at below
    rcases below with rfl | below
    · rfl
    · cases below_plain _ _ (by simp) (by simp) below
  rw [single]
  exact Nat.one_le_pow _ _ (by decide)

theorem labelled_pointer_leads :
    Counted labelled ∧ WalksTo labelled [.str "a~1/b", .int 0, .str ""] (.int 7) ∧
      extendBy "#" [.str "a~1/b", .int 0, .str ""] = "#/a~01~1b/0/" ∧
      lookup labelled (.str (extendBy "#" [.str "a~1/b", .int 0, .str ""])) = .ok (.int 7) ∧
      extendBy "#" [.str "a/b"] ≠ extendBy "#" [.str "a", .str "b"] := by
  obtain ⟨leads, -, -, distinct⟩ := extended_pointer_leads labelled labelled_counted
  have walk : WalksTo labelled [.str "a~1/b", .int 0, .str ""] (.int 7) :=
    .onward (.name rfl) (.onward (.place (i := 0) rfl) (.onward (.name rfl) .here))
  refine ⟨labelled_counted, walk, by decide +kernel, leads "a~1/b" _ _ (by decide) walk, ?_⟩
  intro same
  exact absurd (distinct "#" ["a/b"] ["a", "b"] same) (by decide)

end ApiStubs.Pointer
