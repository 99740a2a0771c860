import ApiStubs.Decimal.Digits

/- The decimal digits of a number: they are digits, they say which number it is, and only those of zero begin
   with a zero. -/

set_option autoImplicit false

namespace ApiStubs.Decimal

theorem mem_digits_code {c : Char} {n : Nat} (member : c ∈ digits n) : 0x30 ≤ c.toNat ∧ c.toNat ≤ 0x39 := by
  have digit : c.isDigit = true := Nat.isDigit_of_mem_toDigits (by decide) (by decide) member
  simp only [Char.isDigit, Bool.and_eq_true, decide_eq_true_eq, ge_iff_le, UInt32.le_iff_toNat_le] at digit
  exact digit

theorem int_text_natural (n : Nat) : (intText (.ofNat n)).toList = digits n :=
  String.toList_ofList

theorem int_text_negative (n : Nat) : (intText (.negSucc n)).toList = '-' :: digits (n + 1) := by
  rw [intText, natText, String.toList_append, String.toList_ofList, String.toList_ofList]
  rfl

theorem mem_int_text_code {c : Char} {n : Int} (member : c ∈ (intText n).toList) :
    c = '-' ∨ 0x30 ≤ c.toNat ∧ c.toNat ≤ 0x39 := by
  cases n with
  | ofNat n =>
      rw [int_text_natural] at member
      exact .inr (mem_digits_code member)
  | negSucc n =>
      rw [int_text_negative] at member
      rcases List.mem_cons.mp member with minus | digit
      · exact .inl minus
      · exact .inr (mem_digits_code digit)

theorem digits_ne_nil (n : Nat) : digits n ≠ [] :=
  Nat.toDigits_ne_nil

theorem digits_injective {m n : Nat} (same : digits m = digits n) : m = n := by
  have values : Nat.ofDigitChars 10 (digits m) 0 = Nat.ofDigitChars 10 (digits n) 0 := by rw [same]
  simpa only [digits, Nat.ofDigitChars_ten_toDigits] using values

theorem hyphen_not_digit (n : Nat) : '-' ∉ digits n := by
  intro member
  have bounds := mem_digits_code member
  revert bounds
  decide

theorem digits_leading_zero {n : Nat} {rest : List Char} (leading : digits n = '0' :: rest) :
    n = 0 ∧ rest = [] := by
  induction n using Nat.strongRecOn generalizing rest with
  | ind n ih =>
      -- The digits of a number are those of its tenth part and one more.
      by_cases small : n < 10
      · rw [digits, Nat.toDigits_of_lt_base small] at leading
        simpa [eq_comm] using leading
      · rw [digits, Nat.toDigits_of_base_le (by decide) (by omega)] at leading
        cases front : Nat.toDigits 10 (n / 10) with
        | nil => exact absurd front Nat.toDigits_ne_nil
        | cons first others =>
            rw [front, List.cons_append] at leading
            cases (List.cons.inj leading).1
            have impossible := (ih (n / 10) (by omega) front).1
            omega

end ApiStubs.Decimal
