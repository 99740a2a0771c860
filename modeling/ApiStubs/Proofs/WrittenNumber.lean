import ApiStubs.Proofs.JsonNumber
import ApiStubs.Proofs.StatusText
import Mathlib.Algebra.Group.Nat.Defs
import Mathlib.Data.List.TakeWhile

/- How large a number can be that was read from its digits. One that is read has no more digits than are written
   again, and one that is written, with no more digits than are read, is read again. -/

set_option autoImplicit false

namespace ApiStubs.Decimal

open Json (Readable small_readable)

theorem digit_appended {d acc count : Nat} (digit : d < 10) (bound : acc < 10 ^ count) :
    acc * 10 + d < 10 ^ (count + 1) := by
  calc acc * 10 + d < (acc + 1) * 10 := by omega
    _ ≤ 10 ^ count * 10 := Nat.mul_le_mul_right 10 bound
    _ = 10 ^ (count + 1) := (Nat.pow_succ ..).symm

-- `acc` is what was read before, with its own count of digits.
theorem fold_digits_bound (ds : List Nat) (acc count : Nat) (digit : ∀ d ∈ ds, d < 10) (bound : acc < 10 ^ count) :
    ds.foldl (fun acc d => acc * 10 + d) acc < 10 ^ (count + ds.length) := by
  induction ds generalizing acc count with
  | nil => exact bound
  | cons d rest ih =>
      obtain ⟨small, others⟩ := List.forall_mem_cons.mp digit
      have later := ih (acc * 10 + d) (count + 1) others (digit_appended small bound)
      rwa [List.length_cons, Nat.add_comm rest.length 1, ← Nat.add_assoc]

theorem of_digits_bound {ds : List Nat} (digit : ∀ d ∈ ds, d < 10) : ofDigits ds < 10 ^ ds.length := by
  have bound := fold_digits_bound ds 0 0 digit (by simp)
  rwa [Nat.zero_add] at bound

theorem read_magnitude_bound {cs : List Char} {n : Nat} (read : readMagnitude 10 cs = some n) :
    n < 10 ^ digitLimit := by
  obtain ⟨first, others, few⟩ := (read_magnitude_iff cs n).mp read
  have small := of_digits_bound (goes_on_small (.digit first others))
  exact Nat.lt_of_lt_of_le small (Nat.pow_le_pow_right (by decide) few)

theorem signed_readable {n : Nat} (negative : Bool) (bound : n < 10 ^ digitLimit) :
    Readable (Binary64.signed negative n) := by
  have size : (Binary64.signed negative n).natAbs = n := by
    cases negative <;> simp [Binary64.signed]
  rw [← size] at bound
  exact small_readable (by decide) (Nat.le_refl digitLimit) bound

theorem read_integer_readable {cs : List Char} {n : Int} (read : readInteger 10 cs = some n) : Readable n := by
  obtain ⟨magnitude, number, rfl⟩ := Option.map_eq_some_iff.mp read
  exact signed_readable _ (read_magnitude_bound number)

end ApiStubs.Decimal

namespace ApiStubs.Json

open ApiStubs.Decimal ApiStubs.Text

theorem digit_read {c : Char} (digit : isDigit c = true) : decimalDigit? c = some (digitValue c) := by
  simp only [isDigit, Bool.and_eq_true, decide_eq_true_eq] at digit
  rw [decimalDigit?, if_pos (by omega), asciiDigit?, if_pos digit]
  rfl

theorem nat_of_digit_values (ds : List Char) : natOf ds = ofDigits (ds.map digitValue) := by
  rw [natOf, ofDigits, List.foldl_map]

theorem nat_of_bound {ds : List Char} (digit : ∀ c ∈ ds, isDigit c = true) : natOf ds < 10 ^ ds.length := by
  rw [nat_of_digit_values, ← List.length_map digitValue]
  exact of_digits_bound (List.forall_mem_map.mpr fun c member => decimal_digit_lt (digit_read (digit c member)))

theorem whole_digits_are_digits (cs : List Char) : ∀ c ∈ (wholeDigits cs).1, isDigit c = true := by
  unfold wholeDigits
  split
  · simp [isDigit]
  · exact fun c member => List.mem_takeWhile_imp member

end ApiStubs.Json

namespace ApiStubs.Decimal

open ApiStubs.Json ApiStubs.Text

theorem digits_go_on (ds : List Char) (digit : ∀ c ∈ ds, isDigit c = true) : GoesOn ds (ds.map digitValue) := by
  induction ds with
  | nil => exact .done
  | cons c rest ih =>
      obtain ⟨first, others⟩ := List.forall_mem_cons.mp digit
      exact .digit (digit_read first) (ih others)

theorem magnitude_written (n : Nat) (fits : (digits n).length ≤ digitLimit) : Magnitude (digits n) n := by
  have value := nat_of_digits n
  have digit := digits_are_digits n
  cases form : digits n with
  | nil => exact absurd form (digits_ne_nil n)
  | cons c rest =>
      rw [form] at value digit fits
      obtain ⟨first, others⟩ := List.forall_mem_cons.mp digit
      have few : (digitValue c :: rest.map digitValue).length ≤ digitLimit := by
        rwa [← List.map_cons, List.length_map]
      have written : Magnitude (c :: rest) (ofDigits (digitValue c :: rest.map digitValue)) :=
        .digits (digit_read first) (digits_go_on rest others) few
      rwa [← List.map_cons, ← nat_of_digit_values, value] at written

theorem number_unblank {c : Char} (number : isDigit c = true ∨ c = '-') : isNumberBlank c = false := by
  have code : c.toNat = 0x2D ∨ 0x30 ≤ c.toNat ∧ c.toNat ≤ 0x39 := by
    rcases number with digit | rfl
    · exact .inr (by simpa [isDigit] using digit)
    · exact .inl rfl
  simp only [isNumberBlank, inRanges, wideBlankRanges, List.any_cons, List.any_nil, Bool.or_false, Bool.or_eq_false_iff,
    Bool.and_eq_false_iff, decide_eq_false_iff_not]
  omega

theorem digits_unblank (n : Nat) : ∀ c ∈ digits n, isNumberBlank c = false :=
  fun c member => number_unblank (.inl (digits_are_digits n c member))

theorem integer_written (n : Int) (readable : Readable n) : integer? (intText n) = some n := by
  apply (read_integer_iff _ _).mpr
  cases n with
  | ofNat n =>
      rw [int_text_natural, trim_kept (digits_unblank n)]
      exact .unsigned (magnitude_written n readable)
  | negSucc n =>
      have unblank : ∀ c ∈ '-' :: digits (n + 1), isNumberBlank c = false :=
        List.forall_mem_cons.mpr ⟨number_unblank (.inr rfl), digits_unblank (n + 1)⟩
      rw [int_text_negative, trim_kept unblank]
      exact .minus (magnitude_written (n + 1) readable)

end ApiStubs.Decimal
