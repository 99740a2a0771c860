import ApiStubs.Proofs.Digits
import ApiStubs.Proofs.IntegerText
import ApiStubs.Response

/- The texts of response keys that name a status. Without the blanks around it such a text is the word for every
   other status, a digit from one to five before two letters x, or a text that writes an integer. No text is two of
   these, and one that is none of them names no status. A hyphen can stand only at the front, as a sign, so no text
   that names a status goes on from another one with a hyphen and digits. Characters that are foreign to every such
   text are told apart. -/

set_option autoImplicit false

namespace ApiStubs.Text

theorem upper_x (c : Char) : c.toUpper = 'X' ↔ c = 'x' ∨ c = 'X' := by
  constructor
  · intro upper
    by_cases small : 'a'.val ≤ c.val ∧ c.val ≤ 'z'.val
    · change dite _ _ _ = _ at upper
      rw [dif_pos small] at upper
      have capital : 'X'.val = 'x'.val + ('A'.val - 'a'.val) := by decide
      have moved : c.val + ('A'.val - 'a'.val) = 'x'.val + ('A'.val - 'a'.val) :=
        (congrArg Char.val upper).trans capital
      exact .inl (Char.ext ((UInt32.add_left_inj _).mp moved))
    · have same : c.toUpper = c := dif_neg small
      exact .inr (same.symm.trans upper)
  · intro letter
    rcases letter with rfl | rfl
    · rfl
    · rfl

end ApiStubs.Text

namespace ApiStubs.Decimal

open ApiStubs.Text

theorem digit_lower {c : Char} {d : Nat} (digit : decimalDigit? c = some d) : c.toLower = c := by
  by_cases capital : 'A'.val ≤ c.val ∧ c.val ≤ 'Z'.val
  · have low : 0x41 ≤ c.toNat := capital.1
    have high : c.toNat ≤ 0x5A := capital.2
    rw [decimalDigit?, if_pos (by omega), asciiDigit?, if_neg (by omega)] at digit
    cases digit
  · exact dif_neg capital

end ApiStubs.Decimal

namespace ApiStubs.Response

open ApiStubs.Decimal ApiStubs.Text

def NamesStatus (settings : Settings) (text : String) : Prop :=
  ∃ status, statusOf settings text = .ok status

-- What a key says without the blanks around it.
inductive Means (settings : Settings) (key : String) : Int → Prop where
  | other (word : (trim isBlank key.toList).map Char.toLower = "default".toList) :
      Means settings key settings.defaultStatus
  | range {d : Nat} {x y : Char} (least : 1 ≤ d) (most : d ≤ 5) (second : x = 'x' ∨ x = 'X')
      (third : y = 'x' ∨ y = 'X') (shape : trim isBlank key.toList = [Nat.digitChar d, x, y]) :
      Means settings key (d * 100)
  | number {n : Int} (writes : WritesInteger (trim isBlank key.toList) n) : Means settings key n

theorem range_digit_between {d : Nat} (least : 1 ≤ d) (most : d ≤ 5) :
    '1' ≤ Nat.digitChar d ∧ Nat.digitChar d ≤ '5' := by
  have code : (Nat.digitChar d).toNat = 0x30 + d := Nat.toNat_digitChar_of_lt_ten (by omega)
  exact ⟨show 0x31 ≤ (Nat.digitChar d).toNat by omega, show (Nat.digitChar d).toNat ≤ 0x35 by omega⟩

theorem range_digit_iff (cs : List Char) (d : Nat) : rangeDigit? cs = some d ↔
    1 ≤ d ∧ d ≤ 5 ∧ ∃ x y, (x = 'x' ∨ x = 'X') ∧ (y = 'x' ∨ y = 'X') ∧ cs = [Nat.digitChar d, x, y] := by
  constructor
  · intro range
    unfold rangeDigit? at range
    split at range
    · next first x y =>
      obtain ⟨⟨low, high, second, third⟩, same⟩ := Option.ite_none_right_eq_some.mp range
      have least : 0x31 ≤ first.toNat := low
      have most : first.toNat ≤ 0x35 := high
      have place : first.toNat - 0x30 = d := Option.some.inj same
      have digit : Nat.digitChar d = first := by
        apply Char.toNat_inj.mp
        rw [Nat.toNat_digitChar_of_lt_ten (by omega)]
        omega
      refine ⟨by omega, by omega, x, y, (upper_x x).mp second, (upper_x y).mp third, ?_⟩
      rw [digit]
    · cases range
  · intro shape
    obtain ⟨least, most, x, y, second, third, rfl⟩ := shape
    have code : (Nat.digitChar d).toNat = 0x30 + d := Nat.toNat_digitChar_of_lt_ten (by omega)
    obtain ⟨low, high⟩ := range_digit_between least most
    rw [rangeDigit?, if_pos ⟨low, high, (upper_x x).mpr second, (upper_x y).mpr third⟩]
    congr 1
    omega

theorem integer_no_word {cs : List Char} {n : Int} (writes : WritesInteger cs n) :
    cs.map Char.toLower ≠ "default".toList := by
  intro word
  cases writes with
  | unsigned digits =>
      obtain ⟨first, -, -⟩ := digits
      have letter := (List.cons.inj word).1
      rw [digit_lower first] at letter
      subst letter
      cases first
  | plus => cases (List.cons.inj word).1
  | minus => cases (List.cons.inj word).1

theorem integer_no_range {cs : List Char} {n : Int} (writes : WritesInteger cs n) : rangeDigit? cs = none := by
  cases range : rangeDigit? cs with
  | none => rfl
  | some d =>
      obtain ⟨least, most, x, y, second, -, rfl⟩ := (range_digit_iff cs d).mp range
      generalize named : Nat.digitChar d = first at writes
      have code : first.toNat = 0x30 + d := by
        rw [← named]
        exact Nat.toNat_digitChar_of_lt_ten (by omega)
      cases writes with
      | unsigned digits =>
          obtain ⟨-, others, -⟩ := digits
          cases others with
          | digit digit =>
              rcases second with rfl | rfl
              · cases digit
              · cases digit
          | marked => exact absurd second (by decide)
      | plus =>
          have sign : '+'.toNat = 0x2B := rfl
          omega
      | minus =>
          have sign : '-'.toNat = 0x2D := rfl
          omega

theorem integer_after_blanks (key : String) (n : Int) :
    readInteger 10 (trim isBlank key.toList) = some n ↔ WritesInteger (trim isBlank key.toList) n := by
  rw [read_integer_iff, trim_after_wider isNumberBlank isBlank _ number_blank_is_blank]

theorem status_of_means {settings : Settings} {key : String} {s : Int} (means : Means settings key s) :
    statusOf settings key = .ok s := by
  cases means with
  | other word =>
      rw [statusOf]
      exact if_pos word
  | range least most second third shape =>
      have range := (range_digit_iff _ _).mpr ⟨least, most, _, _, second, third, shape⟩
      have short : (trim isBlank key.toList).map Char.toLower ≠ "default".toList := by
        intro word
        rw [shape] at word
        cases congrArg List.length word
      simp only [statusOf, if_neg short, range]
  | number writes =>
      have number := (integer_after_blanks key s).mpr writes
      simp only [statusOf, if_neg (integer_no_word writes), integer_no_range writes, number]

theorem status_of_cases (settings : Settings) (key : String) :
    (∃ s, Means settings key s) ∨ statusOf settings key = .error (.statusKey key) := by
  by_cases word : (trim isBlank key.toList).map Char.toLower = "default".toList
  · exact .inl ⟨_, .other word⟩
  · cases range : rangeDigit? (trim isBlank key.toList) with
    | some d =>
        obtain ⟨least, most, x, y, second, third, shape⟩ := (range_digit_iff _ d).mp range
        exact .inl ⟨_, .range least most second third shape⟩
    | none =>
        cases number : readInteger 10 (trim isBlank key.toList) with
        | some n => exact .inl ⟨n, .number ((integer_after_blanks key n).mp number)⟩
        | none =>
            right
            simp only [statusOf, if_neg word, range, number]

theorem status_of_iff (settings : Settings) (key : String) (s : Int) :
    statusOf settings key = .ok s ↔ Means settings key s := by
  refine ⟨fun known => ?_, status_of_means⟩
  rcases status_of_cases settings key with ⟨status, means⟩ | failed
  · cases known.symm.trans (status_of_means means)
    exact means
  · cases known.symm.trans failed

theorem status_of_error_iff (settings : Settings) (key : String) (e : Error) :
    statusOf settings key = .error e ↔ e = .statusKey key ∧ ∀ s, ¬ Means settings key s := by
  constructor
  · intro failed
    have meaningless (s : Int) : ¬ Means settings key s := by
      intro means
      cases failed.symm.trans (status_of_means means)
    rcases status_of_cases settings key with ⟨s, means⟩ | refused
    · exact absurd means (meaningless s)
    · exact ⟨Except.error.inj (failed.symm.trans refused), meaningless⟩
  · intro refused
    obtain ⟨rfl, meaningless⟩ := refused
    exact (status_of_cases settings key).resolve_left fun means => meaningless _ means.choose_spec

theorem hyphen_leads_status (settings : Settings) (text : String) (named : NamesStatus settings text) :
    trim isBlank text.toList ≠ [] ∧ '-' ∉ (trim isBlank text.toList).tail := by
  obtain ⟨status, known⟩ := named
  cases (status_of_iff settings text status).mp known with
  | other word =>
      constructor
      · intro empty
        rw [empty] at word
        cases word
      · intro later
        have member : '-'.toLower ∈ (trim isBlank text.toList).map Char.toLower :=
          List.mem_map_of_mem (List.mem_of_mem_tail later)
        rw [word] at member
        revert member
        decide
  | @range d x y _ _ second third shape =>
      have marks : '-' ∉ [x, y] := by
        intro member
        simp only [List.mem_cons, List.not_mem_nil, or_false] at member
        rcases member with rfl | rfl
        · exact absurd second (by decide)
        · exact absurd third (by decide)
      rw [shape]
      exact ⟨List.cons_ne_nil _ _, marks⟩
  | number writes => exact hyphen_leads_integer writes

theorem no_status_with_number (settings : Settings) (text : String) (n : Nat)
    (named : NamesStatus settings text) :
    ¬ NamesStatus settings (String.ofList (text.toList ++ '-' :: digits n)) := by
  intro longer
  have inside : trimLeft isBlank text.toList ≠ [] := by
    intro empty
    exact (hyphen_leads_status settings text named).1 (by simp [trim, empty, trimRight])
  obtain ⟨more, last, whole⟩ : ∃ more last, digits n = more ++ [last] :=
    ⟨_, _, (List.dropLast_concat_getLast (digits_ne_nil n)).symm⟩
  have ends : last ∈ digits n := by simp [whole]
  have kept : isBlank last = false := by
    have bounds := mem_digits_code ends
    simp only [isBlank, inRanges, wideBlankRanges, List.any_cons, List.any_nil, Bool.or_false, Bool.or_eq_false_iff,
      Bool.and_eq_false_iff, decide_eq_false_iff_not]
    omega
  have free := (hyphen_leads_status settings _ longer).2
  rw [String.toList_ofList, whole, ← List.cons_append, trim_append_kept isBlank _ _ _ inside kept] at free
  apply free
  cases front : trimLeft isBlank text.toList with
  | nil => exact absurd front inside
  | cons c rest => simp

-- Characters that stand in no number, no range, no blank and not in the word for every other status.
structure Foreign (c : Char) : Prop where
  blank : isBlank c = false
  digit : digitIn 10 c = none
  mark : c ∉ ['+', '-', '_']
  letter : c.toLower ∉ "default".toList
  range : ¬ ('1' ≤ c ∧ c ≤ '5') ∧ c.toUpper ≠ 'X'

theorem status_free {c : Char} (foreign : Foreign c) (settings : Settings) (text : String)
    (named : NamesStatus settings text) : c ∉ text.toList := by
  intro member
  have inside : c ∈ trim isBlank text.toList := mem_trim_kept isBlank foreign.blank member
  obtain ⟨status, known⟩ := named
  cases (status_of_iff settings text status).mp known with
  | other word =>
      have letter : c.toLower ∈ (trim isBlank text.toList).map Char.toLower := List.mem_map_of_mem inside
      rw [word] at letter
      exact foreign.letter letter
  | range least most second third shape =>
      rw [shape] at inside
      simp only [List.mem_cons, List.not_mem_nil, or_false] at inside
      rcases inside with rfl | rfl | rfl
      · exact foreign.range.1 (range_digit_between least most)
      · exact foreign.range.2 ((upper_x _).mpr second)
      · exact foreign.range.2 ((upper_x _).mpr third)
  | number writes => exact integer_free ((digit_in_decimal c).symm.trans foreign.digit) foreign.mark writes inside

end ApiStubs.Response
