import ApiStubs.Proofs.Pointer
import ApiStubs.Proofs.WrittenNumber

/- Segments of a pointer that come up at a list. Such a segment has to write an integer, and the integer counts the
   items from the front, or from the end when it is negative; with any other segment the pointer leads nowhere. A
   place that is written as numbers are written, without a sign, is counted from the front only. -/

set_option autoImplicit false

namespace ApiStubs.Pointer

open ApiStubs.Decimal ApiStubs.Text

-- A pointer that arrives at a list with `segment`, and goes on with `rest` from the item it takes there.
def Meets (document : Value) (pointer : String) (items : List Value) (segment : String) (rest : List String) : Prop :=
  ∃ path front, pointer.toList = '#' :: path ∧ segments path = front ++ segment :: rest ∧
    walk pointer document front = .ok (.list items)

-- The place among `length` items that a segment stands for.
def CountsTo (segment : String) (length i : Nat) : Prop :=
  i < length ∧ ∃ n : Int, WritesInteger (trim isNumberBlank segment.toList) n ∧ (n = i ∨ n + length = i)

theorem counts_to_unique {segment : String} {length i j : Nat} (first : CountsTo segment length i)
    (second : CountsTo segment length j) : i = j := by
  obtain ⟨inside, m, writes, place⟩ := first
  obtain ⟨also, n, again, other⟩ := second
  have same := writes_integer_unique writes again
  omega

theorem item_at_iff (items : List Value) (n : Int) (item : Value) :
    itemAt? items n = some item ↔ ∃ i : Nat, (n = i ∨ n + items.length = i) ∧ items[i]? = some item := by
  rw [itemAt?]
  by_cases front : 0 ≤ n
  · rw [if_pos front]
    constructor
    · exact fun found => ⟨n.toNat, .inl (Int.toNat_of_nonneg front).symm, found⟩
    · intro placed
      obtain ⟨i, place, found⟩ := placed
      have inside := (List.getElem?_eq_some_iff.mp found).1
      have same : n.toNat = i := by omega
      rw [same, found]
  · rw [if_neg front]
    by_cases far : items.length < n.natAbs
    · rw [if_pos far]
      constructor
      · intro found
        cases found
      · intro placed
        obtain ⟨i, place, -⟩ := placed
        omega
    · rw [if_neg far]
      constructor
      · exact fun found => ⟨items.length - n.natAbs, .inr (by omega), found⟩
      · intro placed
        obtain ⟨i, place, found⟩ := placed
        have same : items.length - n.natAbs = i := by omega
        rw [same, found]

theorem step_item_iff (items : List Value) (segment : String) (item : Value) :
    step? (.list items) segment = some item ↔ ∃ i, CountsTo segment items.length i ∧ items[i]? = some item := by
  simp only [step?, integer?]
  cases read : readInteger 10 segment.toList with
  | none =>
      constructor
      · intro found
        cases found
      · intro counted
        obtain ⟨i, ⟨-, n, writes, -⟩, -⟩ := counted
        rw [(read_integer_iff _ n).mpr writes] at read
        cases read
  | some n =>
      have writes := (read_integer_iff _ n).mp read
      rw [item_at_iff]
      constructor
      · intro placed
        obtain ⟨i, place, found⟩ := placed
        exact ⟨i, ⟨(List.getElem?_eq_some_iff.mp found).1, n, writes, place⟩, found⟩
      · intro counted
        obtain ⟨i, ⟨-, m, also, place⟩, found⟩ := counted
        cases writes_integer_unique writes also
        exact ⟨i, place, found⟩

theorem lookup_meets {document : Value} {pointer segment : String} {items : List Value} {rest : List String}
    (meets : Meets document pointer items segment rest) :
    lookup document (.str pointer) = walk pointer (.list items) (segment :: rest) := by
  obtain ⟨path, front, rooted, way, arrives⟩ := meets
  rw [lookup, rooted]
  simp only [way]
  rw [walk_joined, arrives]
  rfl

theorem natural_counts_to {k : Nat} (readable : k < 10 ^ digitLimit) (length i : Nat) :
    CountsTo (natText k) length i ↔ i = k ∧ k < length := by
  have read : readInteger 10 (natText k).toList = some (k : Int) :=
    integer_written k ((Nat.length_toDigits_le_iff (by decide) (by decide)).mpr readable)
  have writes := (read_integer_iff _ _).mp read
  constructor
  · intro counted
    obtain ⟨inside, n, also, place⟩ := counted
    have same := writes_integer_unique writes also
    omega
  · intro placed
    obtain ⟨rfl, inside⟩ := placed
    exact ⟨inside, _, writes, .inl rfl⟩

theorem item_segments_counted (document : Value) (pointer segment : String) (items : List Value) (rest : List String)
    (meets : Meets document pointer items segment rest) :
    (∀ node, lookup document (.str pointer) = .ok node ↔
      ∃ i item, CountsTo segment items.length i ∧ items[i]? = some item ∧ walk pointer item rest = .ok node) ∧
    (∀ i j, CountsTo segment items.length i → CountsTo segment items.length j → i = j) ∧
    ((∀ i, ¬ CountsTo segment items.length i) →
      lookup document (.str pointer) = .error (.referenceNotFound pointer (some segment))) ∧
    ∀ k, segment = natText k → k < 10 ^ digitLimit →
      ∀ i, CountsTo segment items.length i ↔ i = k ∧ k < items.length := by
  rw [lookup_meets meets, walk]
  refine ⟨?_, fun _ _ => counts_to_unique, ?_, ?_⟩
  · intro node
    cases step : step? (.list items) segment with
    | none =>
        constructor
        · intro found
          cases found
        · intro taken
          obtain ⟨i, item, counted, found, -⟩ := taken
          rw [(step_item_iff items segment item).mpr ⟨i, counted, found⟩] at step
          cases step
    | some item =>
        obtain ⟨i, counted, found⟩ := (step_item_iff items segment item).mp step
        constructor
        · exact fun goes => ⟨i, item, counted, found, goes⟩
        · intro taken
          obtain ⟨j, other, also, there, goes⟩ := taken
          cases counts_to_unique counted also
          cases found.symm.trans there
          exact goes
  · intro uncounted
    cases step : step? (.list items) segment with
    | none => rfl
    | some item =>
        obtain ⟨i, counted, -⟩ := (step_item_iff items segment item).mp step
        exact absurd counted (uncounted i)
  · intro k written readable i
    subst written
    exact natural_counts_to readable items.length i

def pets : Value :=
  .map [(.str "pets", .list [.list [.str "cat", .str "dog"], .str "hen"])]

theorem pets_counted_from_end :
    Meets pets "#/pets/ -0_2/1" [.list [.str "cat", .str "dog"], .str "hen"] " -0_2" ["1"] ∧ CountsTo " -0_2" 2 0 ∧
      lookup pets (.str "#/pets/ -0_2/1") = .ok (.str "dog") := by
  have meets : Meets pets "#/pets/ -0_2/1" [.list [.str "cat", .str "dog"], .str "hen"] " -0_2" ["1"] :=
    ⟨"/pets/ -0_2/1".toList, ["pets"], rfl, rfl, rfl⟩
  have writes : WritesInteger (trim isNumberBlank " -0_2".toList) (-2) :=
    (read_integer_iff _ _).mp rfl
  have counted : CountsTo " -0_2" 2 0 := ⟨by decide, -2, writes, .inr rfl⟩
  exact ⟨meets, counted, ((item_segments_counted _ _ _ _ _ meets).1 _).mpr ⟨0, _, counted, rfl, rfl⟩⟩

-- The last item, though no item has the place -1.
theorem place_before_first_found :
    ¬ ∀ (document : Value) (pointer segment : String) (items : List Value) (rest : List String),
      Meets document pointer items segment rest → ∀ node, lookup document (.str pointer) = .ok node →
        ∃ i item, segment = natText i ∧ items[i]? = some item ∧ walk pointer item rest = .ok node := by
  intro placed
  have meets : Meets pets "#/pets/-1" [.list [.str "cat", .str "dog"], .str "hen"] "-1" [] :=
    ⟨"/pets/-1".toList, ["pets"], rfl, rfl, rfl⟩
  have found : lookup pets (.str "#/pets/-1") = .ok (.str "hen") := rfl
  obtain ⟨i, -, written, -⟩ := placed _ _ _ _ _ meets _ found
  have chars : '-' ∈ digits i := by
    rw [← String.toList_ofList (l := digits i), ← natText, ← written]
    decide
  exact hyphen_not_digit i chars

end ApiStubs.Pointer
