import ApiStubs.Json.Reader
import ApiStubs.Proofs.Digits
import Mathlib.Algebra.Group.Nat.Defs

/- Whole numbers in JSON. The digits of a number are read back up to the first character that cannot go on
   with it, as long as there are no more of them than are read. -/

set_option autoImplicit false

namespace ApiStubs.Json

open ApiStubs.Decimal

-- Nothing that stands first here goes on with a number.
def Stops (rest : List Char) : Prop :=
  ∀ c ∈ rest.head?, isDigit c = false ∧ c ≠ '.' ∧ c ≠ 'e' ∧ c ≠ 'E'

def Readable (n : Int) : Prop :=
  (digits n.natAbs).length ≤ digitLimit

instance (n : Int) : Decidable (Readable n) :=
  inferInstanceAs (Decidable (_ ≤ _))

theorem small_readable {n : Int} {bound : Nat} (positive : 0 < bound) (few : bound ≤ digitLimit)
    (small : n.natAbs < 10 ^ bound) : Readable n :=
  Nat.le_trans ((Nat.length_toDigits_le_iff (by decide) positive).mpr small) few

theorem nat_of_digits (n : Nat) : natOf (digits n) = n := by
  have values : natOf (digits n) = Nat.ofDigitChars 10 (digits n) 0 := by
    rw [Nat.ofDigitChars_eq_foldl, natOf]
    congr 1
    funext acc c
    rw [digitValue, Nat.mul_comm]
    rfl
  rw [values, digits, Nat.ofDigitChars_ten_toDigits]

theorem digits_are_digits (n : Nat) : ∀ c ∈ digits n, isDigit c = true := by
  intro c member
  have bounds := mem_digits_code member
  simp [isDigit, bounds]

theorem split_digits_append (ds rest : List Char) (digit : ∀ c ∈ ds, isDigit c = true) (stops : Stops rest) :
    splitDigits (ds ++ rest) = (ds, rest) := by
  have none : rest.takeWhile isDigit = [] ∧ rest.dropWhile isDigit = rest := by
    cases rest with
    | nil => exact ⟨rfl, rfl⟩
    | cons c more =>
        have notDigit : ¬ isDigit c = true := by simp [(stops c rfl).1]
        exact ⟨List.takeWhile_cons_of_neg notDigit, List.dropWhile_cons_of_neg notDigit⟩
  rw [splitDigits, List.takeWhile_append_of_pos digit, List.dropWhile_append_of_pos digit, none.1, none.2,
    List.append_nil]

theorem whole_digits_append (n : Nat) (rest : List Char) (stops : Stops rest) :
    wholeDigits (digits n ++ rest) = (digits n, rest) := by
  have split := split_digits_append (digits n) rest (digits_are_digits n) stops
  cases form : digits n with
  | nil => exact absurd form (digits_ne_nil n)
  | cons first others =>
      rw [form] at split
      -- A zero in front is read alone. That is all there is to read, since no other number begins with one.
      by_cases zero : first = '0'
      · subst zero
        obtain ⟨-, rfl⟩ := digits_leading_zero form
        rfl
      · rw [List.cons_append] at split ⊢
        unfold wholeDigits
        split
        · next more same => exact absurd (List.cons.inj same).1 zero
        · exact split

theorem fraction_digits_stop (rest : List Char) (stops : Stops rest) : fractionDigits rest = ([], rest) := by
  unfold fractionDigits
  split
  · exact absurd rfl (stops '.' rfl).2.1
  · rfl

theorem exponent_part_stop (rest : List Char) (stops : Stops rest) : exponentPart rest = (none, rest) := by
  cases rest with
  | nil => rfl
  | cons c more =>
      have bounds := stops c rfl
      rw [exponentPart, if_neg (by simp [bounds.2.2.1, bounds.2.2.2])]

theorem read_unsigned_digits (negative : Bool) (n : Nat) (rest : List Char) (stops : Stops rest)
    (fits : (digits n).length ≤ digitLimit) :
    readUnsigned negative (digits n ++ rest) = some (.ok (.int (Binary64.signed negative n), rest)) := by
  rw [readUnsigned, whole_digits_append n rest stops]
  cases form : digits n with
  | nil => exact absurd form (digits_ne_nil n)
  | cons first others =>
      simp only [fraction_digits_stop rest stops, exponent_part_stop rest stops]
      rw [← form, nat_of_digits, if_pos (by rfl), if_neg (by omega)]

-- Of the names only one begins with the sign, and what follows it there is no digit.
theorem read_name_number (sign : List Char) (first : Char) (rest : List Char) (isSign : sign = [] ∨ sign = ['-'])
    (digit : isDigit first = true) : readName (sign ++ first :: rest) = none := by
  have letters : ∀ c ∈ ['n', 't', 'f', 'N', 'I', '-'], isDigit c = false := by simp [isDigit]
  have other : ∀ c ∈ ['n', 't', 'f', 'N', 'I', '-'], c ≠ first := by
    intro c member same
    rw [← same, letters c member] at digit
    exact Bool.false_ne_true digit
  rcases isSign with rfl | rfl <;> simp [readName, names, other]

theorem read_scalar_digits (n : Nat) (rest : List Char) (stops : Stops rest)
    (fits : (digits n).length ≤ digitLimit) : readScalar (digits n ++ rest) = .ok (.int n, rest) := by
  have read := read_unsigned_digits false n rest stops fits
  cases form : digits n with
  | nil => exact absurd form (digits_ne_nil n)
  | cons first others =>
      rw [form, List.cons_append] at read
      have digit := digits_are_digits n first (by simp [form])
      have noName := read_name_number [] first (others ++ rest) (.inl rfl) digit
      rw [List.nil_append] at noName
      have unsigned : first ≠ '-' := by
        rintro rfl
        exact absurd digit (by decide)
      have positive : ∀ more, first :: (others ++ rest) ≠ '-' :: more :=
        fun more same => unsigned (List.cons.inj same).1
      simp only [List.cons_append, readScalar, noName, read]
      rfl

theorem read_scalar_negative (n : Nat) (rest : List Char) (stops : Stops rest)
    (fits : (digits n).length ≤ digitLimit) :
    readScalar ('-' :: (digits n ++ rest)) = .ok (.int (-(n : Int)), rest) := by
  have read := read_unsigned_digits true n rest stops fits
  have noName : readName ('-' :: (digits n ++ rest)) = none := by
    cases form : digits n with
    | nil => exact absurd form (digits_ne_nil n)
    | cons first others =>
        exact read_name_number ['-'] first (others ++ rest) (.inr rfl)
          (digits_are_digits n first (by simp [form]))
  simp only [readScalar, noName, read]
  rfl

theorem read_scalar_int (n : Int) (rest : List Char) (stops : Stops rest) (readable : Readable n) :
    readScalar ((intText n).toList ++ rest) = .ok (.int n, rest) := by
  cases n with
  | ofNat n =>
      have fits : (digits n).length ≤ digitLimit := readable
      rw [int_text_natural]
      exact read_scalar_digits n rest stops fits
  | negSucc n =>
      have fits : (digits (n + 1)).length ≤ digitLimit := readable
      rw [int_text_negative]
      exact read_scalar_negative (n + 1) rest stops fits

end ApiStubs.Json
