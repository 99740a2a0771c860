import ApiStubs.Decimal.Literal
import Mathlib.Data.List.Basic

/- The texts that are read as integers, told by a grammar: one sign or none, then digits of any script, with at most
   one low line between two of them. What is read is the number that the digits write. -/

set_option autoImplicit false

namespace ApiStubs.Decimal

open ApiStubs.Text

-- What may stand behind a digit: more digits, each with a low line before it or none.
inductive GoesOn : List Char → List Nat → Prop where
  | done : GoesOn [] []
  | digit {c : Char} {d : Nat} {cs : List Char} {ds : List Nat} (digit : decimalDigit? c = some d)
      (rest : GoesOn cs ds) : GoesOn (c :: cs) (d :: ds)
  | marked {c : Char} {d : Nat} {cs : List Char} {ds : List Nat} (digit : decimalDigit? c = some d)
      (rest : GoesOn cs ds) : GoesOn ('_' :: c :: cs) (d :: ds)

inductive Magnitude : List Char → Nat → Prop where
  | digits {c : Char} {d : Nat} {cs : List Char} {ds : List Nat} (first : decimalDigit? c = some d)
      (others : GoesOn cs ds) (few : (d :: ds).length ≤ digitLimit) : Magnitude (c :: cs) (ofDigits (d :: ds))

inductive WritesInteger : List Char → Int → Prop where
  | unsigned {cs : List Char} {n : Nat} (digits : Magnitude cs n) : WritesInteger cs n
  | plus {cs : List Char} {n : Nat} (digits : Magnitude cs n) : WritesInteger ('+' :: cs) n
  | minus {cs : List Char} {n : Nat} (digits : Magnitude cs n) : WritesInteger ('-' :: cs) (-n)

theorem drop_base_mark_ten (cs : List Char) : dropBaseMark 10 cs = cs := by
  unfold dropBaseMark
  split <;> simp [baseMark]

theorem decimal_digit_lt {c : Char} {d : Nat} (digit : decimalDigit? c = some d) : d < 10 := by
  rw [decimalDigit?] at digit
  split at digit
  · rw [asciiDigit?] at digit
    split at digit
    · cases digit
      omega
    · cases digit
  · split at digit
    · next first found =>
      cases digit
      have inside := List.find?_some found
      simp only [Bool.and_eq_true, decide_eq_true_eq] at inside
      omega
    · cases digit

-- A letter stands for ten or more, so that it is no digit.
theorem digit_in_decimal (c : Char) : digitIn 10 c = decimalDigit? c := by
  have ascii (letter : 0x41 ≤ c.toNat ∧ c.toNat ≤ 0x7A) : decimalDigit? c = none := by
    rw [decimalDigit?, if_pos (by omega), asciiDigit?, if_neg (by omega)]
  simp only [digitIn, alphaDigit?]
  by_cases small : 0x61 ≤ c.toNat ∧ c.toNat ≤ 0x7A
  · rw [if_pos small, ascii (by omega)]
    exact if_neg (by omega)
  · rw [if_neg small]
    by_cases capital : 0x41 ≤ c.toNat ∧ c.toNat ≤ 0x5A
    · rw [if_pos capital, ascii (by omega)]
      exact if_neg (by omega)
    · rw [if_neg capital]
      cases digit : decimalDigit? c with
      | none => rfl
      | some d => exact if_pos (decimal_digit_lt digit)

theorem read_digits_goes_on {cs : List Char} {acc count n total : Nat}
    (read : readDigits 10 cs acc count = some (n, total)) :
    ∃ ds, GoesOn cs ds ∧ n = ds.foldl (fun acc d => acc * 10 + d) acc ∧ total = count + ds.length := by
  fun_induction readDigits 10 cs acc count with
  | case1 acc count =>
      cases read
      exact ⟨[], .done, rfl, rfl⟩
  | case2 c rest acc count d digit ih =>
      obtain ⟨ds, more, value, length⟩ := ih read
      rw [digit_in_decimal] at digit
      refine ⟨d :: ds, .marked digit more, value, ?_⟩
      rw [length, List.length_cons]
      omega
  | case3 => cases read
  | case4 c rest acc count _ d digit ih =>
      obtain ⟨ds, more, value, length⟩ := ih read
      rw [digit_in_decimal] at digit
      refine ⟨d :: ds, .digit digit more, value, ?_⟩
      rw [length, List.length_cons]
      omega
  | case5 => cases read

theorem goes_on_read {cs : List Char} {ds : List Nat} (more : GoesOn cs ds) (acc count : Nat) :
    readDigits 10 cs acc count = some (ds.foldl (fun acc d => acc * 10 + d) acc, count + ds.length) := by
  induction more generalizing acc count with
  | done => rfl
  | @digit c d cs ds digit rest ih =>
      have unmarked : c ≠ '_' := by
        intro mark
        subst mark
        cases digit
      rw [readDigits]
      · simp only [digit_in_decimal, digit, ih, List.foldl_cons, List.length_cons]
        congr 2
        omega
      · exact fun _ _ same _ => unmarked same
  | @marked c d cs ds digit rest ih =>
      simp only [readDigits, digit_in_decimal, digit, ih, List.foldl_cons, List.length_cons]
      congr 2
      omega

theorem magnitude_of_read {cs : List Char} {n : Nat} (read : readMagnitude 10 cs = some n) : Magnitude cs n := by
  rw [readMagnitude, drop_base_mark_ten] at read
  cases cs with
  | nil => cases read
  | cons c rest =>
      cases first : digitIn 10 c with
      | none => simp [first] at read
      | some d =>
          cases more : readDigits 10 rest d 1 with
          | none => simp [first, more] at read
          | some result =>
              obtain ⟨m, count⟩ := result
              simp only [first, more, true_and, Option.ite_none_left_eq_some, Option.some.injEq] at read
              obtain ⟨few, rfl⟩ := read
              obtain ⟨ds, others, value, length⟩ := read_digits_goes_on more
              have written : m = ofDigits (d :: ds) := by
                rw [value, ofDigits, List.foldl_cons, Nat.zero_mul, Nat.zero_add]
              have short : (d :: ds).length ≤ digitLimit := by
                rw [List.length_cons]
                omega
              rw [digit_in_decimal] at first
              rw [written]
              exact .digits first others short

theorem read_magnitude_iff (cs : List Char) (n : Nat) : readMagnitude 10 cs = some n ↔ Magnitude cs n := by
  refine ⟨magnitude_of_read, ?_⟩
  intro written
  obtain ⟨first, others, few⟩ := written
  rw [List.length_cons] at few
  rw [readMagnitude, drop_base_mark_ten]
  simp only [digit_in_decimal, first, goes_on_read others]
  rw [if_neg (by omega), ofDigits, List.foldl_cons, Nat.zero_mul, Nat.zero_add]

theorem magnitude_unsigned {cs : List Char} {n : Nat} (digits : Magnitude cs n) : splitSign cs = (false, cs) := by
  obtain ⟨first, -, -⟩ := digits
  unfold splitSign
  split
  · next same =>
    cases (List.cons.inj same).1
    cases first
  · next same =>
    cases (List.cons.inj same).1
    cases first
  · rfl

-- A text that is read may have blanks around it.
theorem read_integer_iff (cs : List Char) (n : Int) :
    readInteger 10 cs = some n ↔ WritesInteger (trim isNumberBlank cs) n := by
  rw [readInteger]
  generalize trim isNumberBlank cs = core
  simp only [Option.map_eq_some_iff, read_magnitude_iff]
  constructor
  · intro read
    obtain ⟨m, digits, rfl⟩ := read
    revert digits
    unfold splitSign
    split
    · exact .minus
    · exact .plus
    · exact .unsigned
  · intro writes
    cases writes with
    | unsigned digits =>
        rw [magnitude_unsigned digits]
        exact ⟨_, digits, rfl⟩
    | plus digits => exact ⟨_, digits, rfl⟩
    | minus digits => exact ⟨_, digits, rfl⟩

theorem writes_integer_unique {cs : List Char} {m n : Int} (first : WritesInteger (trim isNumberBlank cs) m)
    (second : WritesInteger (trim isNumberBlank cs) n) : m = n :=
  Option.some.inj (((read_integer_iff cs m).mpr first).symm.trans ((read_integer_iff cs n).mpr second))

theorem goes_on_small {cs : List Char} {ds : List Nat} (more : GoesOn cs ds) : ∀ d ∈ ds, d < 10 := by
  induction more with
  | done => exact List.forall_mem_nil _
  | digit digit _ ih => exact List.forall_mem_cons.mpr ⟨decimal_digit_lt digit, ih⟩
  | marked digit _ ih => exact List.forall_mem_cons.mpr ⟨decimal_digit_lt digit, ih⟩

-- No other characters stand among the digits of a number.
theorem goes_on_free {foreign : Char} {cs : List Char} {ds : List Nat} (digit : decimalDigit? foreign = none)
    (mark : foreign ≠ '_') (more : GoesOn cs ds) : foreign ∉ cs := by
  have differ {c : Char} {d : Nat} (here : decimalDigit? c = some d) : foreign ≠ c := by
    intro same
    rw [same, here] at digit
    cases digit
  induction more with
  | done => exact List.not_mem_nil
  | digit here _ ih => exact List.not_mem_cons_of_ne_of_not_mem (differ here) ih
  | marked here _ ih => exact List.not_mem_cons_of_ne_of_not_mem mark (List.not_mem_cons_of_ne_of_not_mem (differ here) ih)

theorem magnitude_free {foreign : Char} {cs : List Char} {n : Nat} (digit : decimalDigit? foreign = none)
    (mark : foreign ≠ '_') (written : Magnitude cs n) : foreign ∉ cs := by
  obtain ⟨first, others, -⟩ := written
  exact goes_on_free digit mark (.digit first others)

theorem hyphen_leads_integer {cs : List Char} {n : Int} (writes : WritesInteger cs n) : cs ≠ [] ∧ '-' ∉ cs.tail := by
  have free {cs : List Char} {n : Nat} (digits : Magnitude cs n) : '-' ∉ cs := magnitude_free rfl (by decide) digits
  cases writes with
  | unsigned digits =>
      refine ⟨?_, fun later => free digits (List.mem_of_mem_tail later)⟩
      intro empty
      rw [empty] at digits
      cases digits
  | plus digits => exact ⟨List.cons_ne_nil _ _, free digits⟩
  | minus digits => exact ⟨List.cons_ne_nil _ _, free digits⟩

theorem integer_free {foreign : Char} {cs : List Char} {n : Int} (digit : decimalDigit? foreign = none)
    (mark : foreign ∉ ['+', '-', '_']) (writes : WritesInteger cs n) : foreign ∉ cs := by
  simp only [List.mem_cons, List.not_mem_nil, or_false, not_or] at mark
  cases writes with
  | unsigned digits => exact magnitude_free digit mark.2.2 digits
  | plus digits => exact List.not_mem_cons_of_ne_of_not_mem mark.1 (magnitude_free digit mark.2.2 digits)
  | minus digits => exact List.not_mem_cons_of_ne_of_not_mem mark.2.1 (magnitude_free digit mark.2.2 digits)

end ApiStubs.Decimal
