import ApiStubs.Json.Reader
import Mathlib.Data.List.TakeWhile

/- What reading JSON passes over. Every reader leaves an end of the text it began with. Where it fails for anything
   but the syntax, a whole number with too many digits stands in that text. -/

set_option autoImplicit false

namespace ApiStubs.Json

open ApiStubs.Decimal

variable {α β : Type}

inductive Consumes (cs : List Char) : Read α → Prop where
  | left {a : α} {rest : List Char} (remains : rest <:+ cs) : Consumes cs (.ok (a, rest))
  | syntactic (problem : Problem) (left : Nat) : Consumes cs (.error (.syntactic problem left))
  | oversized (run : List Char) (within : run <:+: cs) (digits : ∀ c ∈ run, isDigit c = true)
      (long : digitLimit < run.length) : Consumes cs (.error (.oversized run.length))

theorem consumes_within {cs later : List Char} {result : Read α} (reads : Consumes later result)
    (remains : later <:+ cs) : Consumes cs result := by
  cases reads with
  | left further => exact .left (further.trans remains)
  | syntactic problem left => exact .syntactic problem left
  | oversized run within digits long => exact .oversized run (within.trans remains.isInfix) digits long

theorem consumes_failed {cs : List Char} {first : Read α} {e : Fault} (reads : Consumes cs first)
    (failure : first = .error e) : Consumes cs (.error e : Read β) := by
  subst failure
  cases reads with
  | syntactic problem left => exact .syntactic problem left
  | oversized run within digits long => exact .oversized run within digits long

theorem consumes_left {cs rest : List Char} {first : Read α} {a : α} (reads : Consumes cs first)
    (success : first = .ok (a, rest)) : rest <:+ cs := by
  subst success
  cases reads with
  | left remains => exact remains

theorem skip_space_remains (cs : List Char) : skipSpace cs <:+ cs :=
  List.dropWhile_suffix isSpace

theorem cons_remains {c : Char} {cs rest : List Char} (remains : c :: rest <:+ cs) : rest <:+ cs :=
  (List.suffix_cons c rest).trans remains

theorem read_units_syntactic (cs : List Char) (e : Fault) (failure : readUnits cs = .error e) :
    ∃ problem left, e = .syntactic problem left := by
  unfold readUnits at failure
  split at failure
  · cases failure
    exact ⟨_, _, rfl⟩
  · split at failure
    · split at failure
      · cases failure
      · split at failure
        · cases failure
          exact ⟨_, _, rfl⟩
        · split at failure <;> cases failure
    · cases failure

theorem read_escape_syntactic (opening : Nat) (cs : List Char) (e : Fault)
    (failure : readEscape opening cs = .error e) : ∃ problem left, e = .syntactic problem left := by
  unfold readEscape at failure
  split at failure
  · cases failure
    exact ⟨_, _, rfl⟩
  · next digits =>
      cases units : readUnits digits with
      | ok found =>
          rw [units] at failure
          cases failure
      | error e =>
          rw [units] at failure
          cases failure
          exact read_units_syntactic _ _ units
  · split at failure
    · cases failure
    · cases failure
      exact ⟨_, _, rfl⟩

theorem read_chars_consumes (opening skip : Nat) (cs : List Char) : Consumes cs (readChars opening skip cs) := by
  induction cs generalizing skip with
  | nil => cases skip <;> exact .syntactic _ _
  | cons c rest ih =>
      have later (skip : Nat) := consumes_within (ih skip) (List.suffix_cons c rest)
      cases skip with
      | succ skip => exact later skip
      | zero =>
          rw [readChars]
          by_cases quote : c = '"'
          · rw [if_pos quote]
            exact .left (List.suffix_cons c rest)
          rw [if_neg quote]
          by_cases slash : c = '\\'
          · rw [if_pos slash]
            split
            · next e escape =>
                obtain ⟨problem, left, rfl⟩ := read_escape_syntactic opening rest e escape
                exact .syntactic problem left
            · next d width _ =>
                split
                · next e failure => exact consumes_failed (later width) failure
                · next ds tail success => exact .left (consumes_left (later width) success)
          rw [if_neg slash]
          by_cases control : c.toNat < 0x20
          · rw [if_pos control]
            exact .syntactic _ _
          · rw [if_neg control]
            split
            · next e failure => exact consumes_failed (later 0) failure
            · next ds tail success => exact .left (consumes_left (later 0) success)

theorem read_text_consumes (cs : List Char) : Consumes cs (readText cs) := by
  have reads := read_chars_consumes (cs.length + 1) 0 cs
  unfold readText
  split
  · next e failure => exact consumes_failed reads failure
  · next ds rest success => exact .left (consumes_left reads success)

theorem split_digits_parts (cs : List Char) :
    (splitDigits cs).1 ++ (splitDigits cs).2 = cs ∧ ∀ c ∈ (splitDigits cs).1, isDigit c = true :=
  ⟨List.takeWhile_append_dropWhile, fun _ member => List.mem_takeWhile_imp member⟩

theorem whole_digits_parts (cs : List Char) :
    (wholeDigits cs).1 ++ (wholeDigits cs).2 = cs ∧ ∀ c ∈ (wholeDigits cs).1, isDigit c = true := by
  unfold wholeDigits
  split
  · exact ⟨rfl, by simp [isDigit]⟩
  · exact split_digits_parts cs

theorem fraction_digits_remains (cs : List Char) : (fractionDigits cs).2 <:+ cs := by
  unfold fractionDigits
  split
  · next rest =>
      have remains : (splitDigits rest).2 <:+ rest := ⟨_, (split_digits_parts rest).1⟩
      split
      · exact List.suffix_refl _
      · exact remains.trans (List.suffix_cons '.' rest)
  · exact List.suffix_refl _

theorem split_sign_remains (cs : List Char) : (splitSign cs).2 <:+ cs := by
  unfold splitSign
  split
  · exact List.suffix_cons _ _
  · exact List.suffix_cons _ _
  · exact List.suffix_refl _

theorem exponent_part_remains (cs : List Char) : (exponentPart cs).2 <:+ cs := by
  unfold exponentPart
  split
  · next c rest =>
      have sign := (split_sign_remains rest).trans (List.suffix_cons c rest)
      have remains : (splitDigits (splitSign rest).2).2 <:+ (splitSign rest).2 :=
        ⟨_, (split_digits_parts (splitSign rest).2).1⟩
      by_cases exponent : c = 'e' ∨ c = 'E'
      · simp only [if_pos exponent]
        cases form : splitDigits (splitSign rest).2 with
        | mk ds more =>
            rw [form] at remains
            cases ds with
            | nil => exact List.suffix_refl _
            | cons d ds => exact remains.trans sign
      · simp only [if_neg exponent]
        exact List.suffix_refl _
  · exact List.suffix_refl _

theorem read_unsigned_consumes (negative : Bool) (cs : List Char) (result : Read Value)
    (found : readUnsigned negative cs = some result) : Consumes cs result := by
  have parts := whole_digits_parts cs
  unfold readUnsigned at found
  split at found
  · cases found
  · next whole rest _ form =>
      rw [form] at parts
      have remains : rest <:+ cs := ⟨whole, parts.1⟩
      have within : whole <:+: cs := ⟨[], rest, parts.1⟩
      have fraction := (fraction_digits_remains rest).trans remains
      have exponent := (exponent_part_remains (fractionDigits rest).2).trans fraction
      simp only at found
      split at found
      · by_cases long : digitLimit < whole.length
        · rw [if_pos long] at found
          cases found
          exact .oversized whole within parts.2 long
        · rw [if_neg long] at found
          cases found
          exact .left exponent
      · cases found
        exact .left exponent

theorem read_name_remains (cs rest : List Char) (v : Value) (found : readName cs = some (v, rest)) : rest <:+ cs := by
  obtain ⟨name, -, named⟩ := List.exists_of_findSome?_eq_some found
  by_cases begins : name.1.isPrefixOf cs = true
  · rw [if_pos begins] at named
    cases named
    exact List.drop_suffix _ _
  · rw [if_neg begins] at named
    cases named

theorem read_scalar_consumes (cs : List Char) : Consumes cs (readScalar cs) := by
  unfold readScalar
  split
  · next found named => exact .left (read_name_remains cs found.2 found.1 named)
  · split
    · next rest _ =>
        simp only
        split
        · next found => exact consumes_within (read_unsigned_consumes _ _ _ found) (List.suffix_cons '-' rest)
        · exact .syntactic _ _
    · simp only
      split
      · next found => exact read_unsigned_consumes _ _ _ found
      · exact .syntactic _ _

mutual

theorem read_value_consumes : (budget : Nat) → (cs : List Char) → Consumes cs (readValue budget cs)
  | 0, cs => .syntactic _ _
  | budget + 1, cs => by
      unfold readValue
      split
      · next rest =>
          have reads := consumes_within (read_text_consumes rest) (List.suffix_cons '"' rest)
          split
          · next e failure => exact consumes_failed reads failure
          · next success => exact .left (consumes_left reads success)
      · next rest =>
          have inner := (skip_space_remains rest).trans (List.suffix_cons '[' rest)
          split
          · next tail form => exact .left (cons_remains (form ▸ inner))
          · have reads := consumes_within (read_items_consumes budget (skipSpace rest)) inner
            split
            · next e failure => exact consumes_failed reads failure
            · next success => exact .left (consumes_left reads success)
      · next rest =>
          have inner := (skip_space_remains rest).trans (List.suffix_cons '\x7b' rest)
          split
          · next tail form => exact .left (cons_remains (form ▸ inner))
          · have reads := consumes_within (read_members_consumes budget [] (skipSpace rest)) inner
            split
            · next e failure => exact consumes_failed reads failure
            · next success => exact .left (consumes_left reads success)
      · exact read_scalar_consumes cs

theorem read_items_consumes : (budget : Nat) → (cs : List Char) → Consumes cs (readItems budget cs)
  | 0, cs => .syntactic _ _
  | budget + 1, cs => by
      have first := read_value_consumes budget cs
      unfold readItems
      split
      · next e failure => exact consumes_failed first failure
      · next v rest success =>
          have after := (skip_space_remains rest).trans (consumes_left first success)
          split
          · next tail form => exact .left (cons_remains (form ▸ after))
          · next tail form =>
              have inner := (skip_space_remains tail).trans (cons_remains (form ▸ after))
              have reads := consumes_within (read_items_consumes budget (skipSpace tail)) inner
              split
              · next e failure => exact consumes_failed reads failure
              · next success => exact .left (consumes_left reads success)
          · exact .syntactic _ _

theorem read_members_consumes : (budget : Nat) → (entries : Entries) → (cs : List Char) →
    Consumes cs (readMembers budget entries cs)
  | 0, _, cs => .syntactic _ _
  | budget + 1, entries, cs => by
      unfold readMembers
      split
      · next rest =>
          have name := consumes_within (read_text_consumes rest) (List.suffix_cons '"' rest)
          split
          · next e failure => exact consumes_failed name failure
          · next named rest success =>
              have after := (skip_space_remains rest).trans (consumes_left name success)
              split
              · next rest form =>
                  have inner := (skip_space_remains rest).trans (cons_remains (form ▸ after))
                  have value := consumes_within (read_value_consumes budget (skipSpace rest)) inner
                  split
                  · next e failure => exact consumes_failed value failure
                  · next v rest success =>
                      have after := (skip_space_remains rest).trans (consumes_left value success)
                      simp only
                      split
                      · next tail form => exact .left (cons_remains (form ▸ after))
                      · next tail form =>
                          have inner := (skip_space_remains tail).trans (cons_remains (form ▸ after))
                          exact consumes_within (read_members_consumes budget _ (skipSpace tail)) inner
                      · exact .syntactic _ _
              · exact .syntactic _ _
      · exact .syntactic _ _

end

-- A text that is no JSON for anything but its syntax holds a run of digits that is too long.
theorem read_oversized (text : String) (count : Nat) (failure : read text = .error (.oversized count)) :
    digitLimit < count ∧
      ∃ run, run <:+: text.toList ∧ run.length = count ∧ ∀ c ∈ run, isDigit c = true := by
  have reads := consumes_within (read_value_consumes (2 * text.toList.length + 2) (skipSpace text.toList))
    (skip_space_remains text.toList)
  unfold read readDocument at failure
  split at failure
  · cases failure
  · split at failure
    · next e stopped =>
        cases failure
        rw [stopped] at reads
        cases reads with
        | oversized run within digits long => exact ⟨long, run, within, rfl, digits⟩
    · split at failure <;> cases failure

end ApiStubs.Json
