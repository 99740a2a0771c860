import ApiStubs.Calendar
import ApiStubs.Decimal.Binary64

/- Documents. A value is what a description of an interface, its settings and its bodies are made
   of; a mapping keeps its entries in the order of first appearance and its keys may be values of
   any kind. -/

set_option autoImplicit false

namespace ApiStubs

open ApiStubs.Decimal

-- Runs of bytes are compared by the arrays behind them.
instance decidableEqBytes : DecidableEq ByteArray := fun a b =>
  decidable_of_iff (a.data = b.data) ByteArray.ext_iff.symm

inductive Value where
  | null
  | bool (b : Bool)
  | int (n : Int)
  | float (x : Binary64)
  | str (s : String)
  | list (items : List Value)
  | map (entries : List (Value × Value))
  | date (d : Date)
  | dateTime (t : DateTime)
  | bytes (data : ByteArray)
  | set (members : List Value)
  | tuple (items : List Value)
deriving Inhabited

abbrev Entries := List (Value × Value)

namespace Value

mutual

def beq : Value → Value → Bool
  | .null, .null => true
  | .bool x, .bool y => x == y
  | .int x, .int y => x == y
  | .float x, .float y => x == y
  | .str x, .str y => x == y
  | .list x, .list y => beqList x y
  | .map x, .map y => beqEntries x y
  | .date x, .date y => x == y
  | .dateTime x, .dateTime y => x == y
  | .bytes x, .bytes y => decide (x = y)
  | .set x, .set y => beqList x y
  | .tuple x, .tuple y => beqList x y
  | _, _ => false

def beqList : List Value → List Value → Bool
  | [], [] => true
  | x :: xs, y :: ys => beq x y && beqList xs ys
  | _, _ => false

def beqEntries : List (Value × Value) → List (Value × Value) → Bool
  | [], [] => true
  | (k, v) :: xs, (l, w) :: ys => beq k l && beq v w && beqEntries xs ys
  | _, _ => false

end

mutual

theorem beq_refl : (a : Value) → beq a a = true
  | .null | .bool _ | .int _ | .float _ | .str _ | .date _ | .dateTime _ | .bytes _ => by simp [beq]
  | .list xs | .set xs | .tuple xs => by simpa [beq] using beq_list_refl xs
  | .map es => by simpa [beq] using beq_entries_refl es

theorem beq_list_refl : (xs : List Value) → beqList xs xs = true
  | [] => by simp [beqList]
  | x :: xs => by simp [beqList, beq_refl x, beq_list_refl xs]

theorem beq_entries_refl : (es : List (Value × Value)) → beqEntries es es = true
  | [] => by simp [beqEntries]
  | (k, v) :: es => by simp [beqEntries, beq_refl k, beq_refl v, beq_entries_refl es]

end

mutual

theorem eq_of_beq : (a b : Value) → beq a b = true → a = b
  | .list xs, b, h | .set xs, b, h | .tuple xs, b, h => by
      cases b <;> simp only [beq, Bool.false_eq_true] at h
      exact congrArg _ (eq_of_beq_list xs _ h)
  | .map es, b, h => by
      cases b <;> simp only [beq, Bool.false_eq_true] at h
      exact congrArg _ (eq_of_beq_entries es _ h)
  | .null, b, h | .bool _, b, h | .int _, b, h | .float _, b, h | .str _, b, h | .date _, b, h
  | .dateTime _, b, h | .bytes _, b, h => by
      cases b <;> simp_all [beq]

theorem eq_of_beq_list : (xs ys : List Value) → beqList xs ys = true → xs = ys
  | [], ys, h => by cases ys <;> simp_all [beqList]
  | x :: xs, ys, h => by
      cases ys with
      | nil => simp [beqList] at h
      | cons y ys =>
          simp only [beqList, Bool.and_eq_true] at h
          rw [eq_of_beq x y h.1, eq_of_beq_list xs ys h.2]

theorem eq_of_beq_entries : (xs ys : List (Value × Value)) → beqEntries xs ys = true → xs = ys
  | [], ys, h => by cases ys <;> simp_all [beqEntries]
  | (k, v) :: xs, ys, h => by
      cases ys with
      | nil => simp [beqEntries] at h
      | cons e ys =>
          simp only [beqEntries, Bool.and_eq_true] at h
          rw [eq_of_beq k e.1 h.1.1, eq_of_beq v e.2 h.1.2, eq_of_beq_entries xs ys h.2]

end

instance : DecidableEq Value := fun a b =>
  decidable_of_iff (beq a b = true) ⟨eq_of_beq a b, fun h => h ▸ beq_refl a⟩

end Value

end ApiStubs
