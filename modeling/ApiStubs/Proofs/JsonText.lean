import ApiStubs.Json.Reader
import ApiStubs.Json.Writer

/- Texts in JSON. Every character is written as a form of its own, from which reading takes exactly that
   character and leaves what follows; so a written text is read back up to its closing quote. -/

set_option autoImplicit false

namespace ApiStubs.Text

theorem hex_digit_read : ∀ d < 16, hexDigit? (hexDigit d) = some d := by
  decide

theorem read_hex_four (n : Nat) : readHex (hexDigits 4 n) 0 = some (n % 0x10000) := by
  have digit (m : Nat) : hexDigit? (hexDigit (m % 16)) = some (m % 16) :=
    hex_digit_read _ (Nat.mod_lt _ (by decide))
  simp only [hexDigits, List.nil_append, List.cons_append, readHex, digit, Option.some.injEq]
  omega

end ApiStubs.Text

namespace ApiStubs.Json

open ApiStubs.Text

theorem unit_hex_digits (n : Nat) (next : Char) (rest : List Char) (small : n < 0x10000) :
    unit? (hexDigits 4 n ++ next :: rest) = some n := by
  have four : unit? (hexDigits 4 n ++ next :: rest) = readHex (hexDigits 4 n) 0 := rfl
  rw [four, read_hex_four, Nat.mod_eq_of_lt small]

theorem read_units_single (n : Nat) (next : Char) (rest : List Char) (small : n < 0x10000)
    (high : isHighUnit n = false) (low : isLowUnit n = false) :
    readUnits (hexDigits 4 n ++ next :: rest) = .ok (Char.ofNat n, 4) := by
  unfold readUnits
  rw [unit_hex_digits n next rest small]
  simp [high, low, charOfUnit]

theorem read_units_pair (high low : Nat) (next : Char) (rest : List Char)
    (first : 0xD800 ≤ high ∧ high ≤ 0xDBFF) (second : 0xDC00 ≤ low ∧ low ≤ 0xDFFF) :
    readUnits (hexDigits 4 high ++ '\\' :: 'u' :: (hexDigits 4 low ++ next :: rest)) =
      .ok (charOfUnits high low, 10) := by
  have isHigh : isHighUnit high = true := by simp [isHighUnit, first]
  have isLow : isLowUnit low = true := by simp [isLowUnit, second]
  have after : (hexDigits 4 high ++ '\\' :: 'u' :: (hexDigits 4 low ++ next :: rest)).drop 4 =
      '\\' :: 'u' :: (hexDigits 4 low ++ next :: rest) := rfl
  have long : ¬ (hexDigits 4 low ++ next :: rest).length ≤ 4 := by
    simp [hex_digits_length]
  unfold readUnits
  rw [unit_hex_digits high _ _ (by omega)]
  simp only [isHigh, after]
  rw [if_neg long, unit_hex_digits low next rest (by omega)]
  simp [isLow]

theorem read_chars_skip (opening : Nat) (passed tail : List Char) :
    readChars opening passed.length (passed ++ tail) = readChars opening 0 tail := by
  induction passed with
  | nil => rfl
  | cons c rest ih => simpa [readChars] using ih

def consChar (c : Char) : Read (List Char) → Read (List Char)
  | .ok (cs, rest) => .ok (c :: cs, rest)
  | .error e => .error e

theorem read_chars_plain (opening : Nat) (c : Char) (tail : List Char) (quote : c ≠ '"') (slash : c ≠ '\\')
    (printed : ¬ c.toNat < 0x20) : readChars opening 0 (c :: tail) = consChar c (readChars opening 0 tail) := by
  rw [readChars, if_neg quote, if_neg slash, if_neg printed]
  cases readChars opening 0 tail <;> rfl

theorem read_chars_escape (opening : Nat) (c : Char) (escape tail : List Char)
    (read : readEscape opening (escape ++ tail) = .ok (c, escape.length)) :
    readChars opening 0 ('\\' :: (escape ++ tail)) = consChar c (readChars opening 0 tail) := by
  rw [readChars, if_neg (by decide), if_pos rfl, read]
  simp only [read_chars_skip]
  cases readChars opening 0 tail <;> rfl

theorem read_unit_form (opening n : Nat) (next : Char) (rest : List Char) (small : n < 0x10000)
    (high : isHighUnit n = false) (low : isLowUnit n = false) :
    readChars opening 0 (unitForm n ++ next :: rest) =
      consChar (Char.ofNat n) (readChars opening 0 (next :: rest)) := by
  have width : ('u' :: hexDigits 4 n).length = 5 := by simp [hex_digits_length]
  refine read_chars_escape opening _ ('u' :: hexDigits 4 n) (next :: rest) ?_
  rw [width, List.cons_append, readEscape, read_units_single n next rest small high low]
  rfl

-- A scalar value is no surrogate, so that a single unit is never taken for half of a pair.
theorem char_not_surrogate (c : Char) : ¬ (0xD800 ≤ c.toNat ∧ c.toNat ≤ 0xDFFF) := by
  have valid : c.toNat < 0xD800 ∨ 0xDFFF < c.toNat ∧ c.toNat < 0x110000 := c.valid
  omega

theorem read_code_form (opening : Nat) (c next : Char) (rest : List Char) :
    readChars opening 0 (codeForm c.toNat ++ next :: rest) = consChar c (readChars opening 0 (next :: rest)) := by
  have valid := char_not_surrogate c
  have bound : c.toNat < 0x110000 := by
    have range : c.toNat < 0xD800 ∨ 0xDFFF < c.toNat ∧ c.toNat < 0x110000 := c.valid
    omega
  by_cases single : c.toNat ≤ 0xFFFF
  · rw [codeForm, if_pos single, read_unit_form opening c.toNat next rest (by omega)
      (by simp [isHighUnit]; omega) (by simp [isLowUnit]; omega), Char.ofNat_toNat]
  · rw [codeForm, if_neg single]
    simp only [unitForm, List.cons_append, List.append_assoc]
    generalize highEq : 0xD800 + (c.toNat - 0x10000) / 0x400 = high
    generalize lowEq : 0xDC00 + (c.toNat - 0x10000) % 0x400 = low
    have width : ('u' :: (hexDigits 4 high ++ '\\' :: 'u' :: hexDigits 4 low)).length = 11 := by
      simp [hex_digits_length]
    have joined : charOfUnits high low = c := by
      have code : 0x10000 + (high - 0xD800) * 0x400 + (low - 0xDC00) = c.toNat := by omega
      rw [charOfUnits, code, Char.ofNat_toNat]
    have escaped := read_chars_escape opening c ('u' :: (hexDigits 4 high ++ '\\' :: 'u' :: hexDigits 4 low))
      (next :: rest)
    rw [width] at escaped
    simp only [List.cons_append, List.append_assoc] at escaped
    apply escaped
    rw [readEscape, read_units_pair high low next rest (by omega) (by omega), joined]
    rfl

theorem char_form_read (asciiOnly : Bool) (opening : Nat) (c next : Char) (rest : List Char) :
    readChars opening 0 (charForm asciiOnly c ++ next :: rest) =
      consChar c (readChars opening 0 (next :: rest)) := by
  unfold charForm
  split
  · next same =>
    subst same
    exact read_chars_escape opening '"' ['"'] (next :: rest) rfl
  split
  · next same =>
    subst same
    exact read_chars_escape opening '\\' ['\\'] (next :: rest) rfl
  split
  · next same =>
    subst same
    exact read_chars_escape opening '\n' ['n'] (next :: rest) rfl
  split
  · next same =>
    subst same
    exact read_chars_escape opening '\r' ['r'] (next :: rest) rfl
  split
  · next same =>
    subst same
    exact read_chars_escape opening '\t' ['t'] (next :: rest) rfl
  split
  · next same =>
    rw [← Char.ofNat_toNat c, same]
    exact read_chars_escape opening (Char.ofNat 8) ['b'] (next :: rest) rfl
  split
  · next same =>
    rw [← Char.ofNat_toNat c, same]
    exact read_chars_escape opening (Char.ofNat 12) ['f'] (next :: rest) rfl
  split
  · next control =>
    rw [read_unit_form opening c.toNat next rest (by omega) (by simp [isHighUnit]; omega)
      (by simp [isLowUnit]; omega), Char.ofNat_toNat]
  split
  · exact read_code_form opening c next rest
  · next quote slash _ _ _ _ _ printed _ => exact read_chars_plain opening c (next :: rest) quote slash printed

theorem read_chars_form (asciiOnly : Bool) (opening : Nat) (cs rest : List Char) :
    readChars opening 0 (cs.flatMap (charForm asciiOnly) ++ '"' :: rest) = .ok (cs, rest) := by
  induction cs with
  | nil => simp [readChars]
  | cons c more ih =>
      rw [List.flatMap_cons, List.append_assoc]
      have nonempty : ∃ next others, more.flatMap (charForm asciiOnly) ++ '"' :: rest = next :: others :=
        List.exists_cons_of_ne_nil (by simp)
      obtain ⟨next, others, whole⟩ := nonempty
      rw [whole] at ih ⊢
      rw [char_form_read, ih]
      rfl

theorem read_text_form (asciiOnly : Bool) (s : String) (rest : List Char) :
    readText (s.toList.flatMap (charForm asciiOnly) ++ '"' :: rest) = .ok (s, rest) := by
  rw [readText, read_chars_form]
  simp

end ApiStubs.Json
