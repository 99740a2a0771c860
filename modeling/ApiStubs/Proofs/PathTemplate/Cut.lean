import ApiStubs.PathTemplate

/- Cutting path templates. A cut of a text names each placeholder that stands in it and keeps every other character,
   and there is one cut only. -/

set_option autoImplicit false

namespace ApiStubs.PathTemplate

def IsName (name : List Char) : Prop :=
  name ≠ [] ∧ ∀ c ∈ name, c ≠ '\x7b' ∧ c ≠ '\x7d' ∧ c ≠ '/'

def token (name : List Char) : List Char :=
  (Piece.placeholder name).text

-- The pieces make up the text, and wherever a name stands in braces there is a placeholder among them.
structure Cut (text : List Char) (pieces : List Piece) : Prop where
  whole : pieces.flatMap Piece.text = text
  named : ∀ name, .placeholder name ∈ pieces → IsName name
  every : ∀ before name after, IsName name → text = before ++ token name ++ after →
    ∃ front back, pieces = front ++ .placeholder name :: back ∧
      front.flatMap Piece.text = before ∧ back.flatMap Piece.text = after

theorem name_char (c : Char) : isNameChar c = true ↔ c ≠ '\x7b' ∧ c ≠ '\x7d' ∧ c ≠ '/' := by
  simp [isNameChar, and_assoc]

theorem name_ends {name : List Char} (named : IsName name) (rest : List Char) :
    (name ++ '\x7d' :: rest).takeWhile isNameChar = name ∧
      (name ++ '\x7d' :: rest).dropWhile isNameChar = '\x7d' :: rest := by
  have chars : ∀ c ∈ name, isNameChar c = true := fun c member => (name_char c).mpr (named.2 c member)
  have brace : isNameChar '\x7d' = false := rfl
  rw [List.takeWhile_append_of_pos chars, List.dropWhile_append_of_pos chars]
  simp [brace]

theorem name_after_brace {cs name : List Char} :
    nameAfterBrace cs = some name ↔ IsName name ∧ ∃ rest, cs = name ++ '\x7d' :: rest := by
  constructor
  · intro found
    have whole := List.takeWhile_append_dropWhile (p := isNameChar) (l := cs)
    have chars : ∀ c ∈ cs.takeWhile isNameChar, isNameChar c = true := List.all_eq_true.mp List.all_takeWhile
    unfold nameAfterBrace at found
    split at found
    · next c name rest taken dropped =>
        cases found
        rw [taken] at whole chars
        rw [dropped] at whole
        exact ⟨⟨List.cons_ne_nil c name, fun d member => (name_char d).mp (chars d member)⟩, rest, whole.symm⟩
    · cases found
  · intro ⟨named, rest, whole⟩
    obtain ⟨taken, dropped⟩ := name_ends named rest
    rw [nameAfterBrace, whole, taken, dropped]
    cases name with
    | nil => exact absurd rfl named.1
    | cons c name => rfl

theorem skipped (skip : Nat) (text : List Char) : piecesFrom skip text = piecesFrom 0 (text.drop skip) := by
  induction skip generalizing text with
  | zero => rfl
  | succ skip ih =>
      cases text with
      | nil => rfl
      | cons c rest => exact ih rest

-- The token of a name is read back from any text it begins.
theorem token_unique {name other after rest : List Char} (named : IsName name) (also : IsName other)
    (same : token name ++ after = token other ++ rest) : name = other ∧ after = rest := by
  have inner : name ++ '\x7d' :: after = other ++ '\x7d' :: rest := by simpa [token, Piece.text] using same
  have names : name = other := by
    rw [← (name_ends named after).1, inner, (name_ends also rest).1]
  subst names
  exact ⟨rfl, by simpa using inner⟩

-- No token begins within another, since a name has no brace in it.
theorem token_before {before name other after rest : List Char} (named : IsName name)
    (same : token name ++ after = before ++ token other ++ rest) :
    before = [] ∨ ∃ between, before = token name ++ between ∧ after = between ++ token other ++ rest := by
  rw [List.append_assoc] at same
  rcases List.append_eq_append_iff.mp same with ⟨between, whole, tail⟩ | ⟨inside, whole, tail⟩
  · exact .inr ⟨between, whole, by rw [tail, List.append_assoc]⟩
  · cases before with
    | nil => exact .inl rfl
    | cons c before =>
        obtain ⟨rfl, chars⟩ : '\x7b' = c ∧ name ++ ['\x7d'] = before ++ inside := by
          simpa [token, Piece.text] using whole
        cases inside with
        | nil => exact .inr ⟨[], by simpa using whole.symm, by simpa using tail.symm⟩
        | cons d inside =>
            obtain ⟨rfl, -⟩ : '\x7b' = d ∧ _ := by simpa [token, Piece.text] using tail
            have member : '\x7b' ∈ name ++ ['\x7d'] := chars ▸ List.mem_append_right before List.mem_cons_self
            rcases List.mem_append.mp member with inName | brace
            · exact absurd rfl (named.2 _ inName).1
            · simp at brace

theorem cut_nil : Cut [] [] where
  whole := rfl
  named := by simp
  every := by simp [token, Piece.text]

theorem cut_placeholder {name after : List Char} {pieces : List Piece} (named : IsName name) (cut : Cut after pieces) :
    Cut (token name ++ after) (.placeholder name :: pieces) where
  whole := by rw [List.flatMap_cons, cut.whole]; rfl
  named := by
    intro other member
    rcases List.mem_cons.mp member with first | later
    · cases first
      exact named
    · exact cut.named other later
  every := by
    intro before other rest also whole
    rcases token_before named whole with rfl | ⟨between, rfl, inside⟩
    · obtain ⟨rfl, rfl⟩ := token_unique named also whole
      exact ⟨[], pieces, rfl, rfl, cut.whole⟩
    · obtain ⟨front, back, rfl, left, right⟩ := cut.every between other rest also inside
      refine ⟨.placeholder name :: front, back, rfl, ?_, right⟩
      rw [List.flatMap_cons, left]
      rfl

theorem cut_literal {c : Char} {after : List Char} {pieces : List Piece}
    (plain : ∀ name rest, IsName name → c :: after ≠ token name ++ rest) (cut : Cut after pieces) :
    Cut (c :: after) (.literal c :: pieces) where
  whole := by rw [List.flatMap_cons, cut.whole]; rfl
  named := by
    intro other member
    rcases List.mem_cons.mp member with first | later
    · cases first
    · exact cut.named other later
  every := by
    intro before other rest also whole
    cases before with
    | nil => exact absurd whole (plain other rest also)
    | cons d before =>
        obtain ⟨rfl, inside⟩ : c = d ∧ after = before ++ token other ++ rest := by simpa using whole
        obtain ⟨front, back, rfl, left, right⟩ := cut.every before other rest also inside
        refine ⟨.literal c :: front, back, rfl, ?_, right⟩
        rw [List.flatMap_cons, left]
        rfl

theorem text_ne_nil (piece : Piece) : piece.text ≠ [] := by
  cases piece <;> simp [Piece.text]

theorem front_nil {front : List Piece} (empty : front.flatMap Piece.text = []) : front = [] := by
  cases front with
  | nil => rfl
  | cons piece front => exact absurd (List.append_eq_nil_iff.mp empty).1 (text_ne_nil piece)

-- Of a text that begins with a token the first piece is its placeholder.
theorem cut_begins {name after : List Char} {pieces : List Piece} (named : IsName name)
    (cut : Cut (token name ++ after) pieces) : ∃ back, pieces = .placeholder name :: back := by
  obtain ⟨front, back, whole, left, -⟩ := cut.every [] name after named rfl
  rw [front_nil left] at whole
  exact ⟨back, whole⟩

theorem cut_tail {piece : Piece} {pieces : List Piece} {text : List Char} (cut : Cut text (piece :: pieces)) :
    Cut (pieces.flatMap Piece.text) pieces where
  whole := rfl
  named := fun name member => cut.named name (List.mem_cons_of_mem piece member)
  every := by
    intro before name after named whole
    have place : text = (piece.text ++ before) ++ token name ++ after := by
      rw [← cut.whole, List.flatMap_cons, whole]
      simp only [List.append_assoc]
    obtain ⟨front, back, split, left, right⟩ := cut.every _ name after named place
    cases front with
    | nil => exact absurd (List.append_eq_nil_iff.mp left.symm).1 (text_ne_nil piece)
    | cons first front =>
        obtain ⟨rfl, others⟩ := List.cons.inj split
        exact ⟨front, back, others, List.append_cancel_left left, right⟩

theorem pieces_from_cut (text : List Char) : Cut text (piecesFrom 0 text) := by
  induction size : text.length using Nat.strongRecOn generalizing text with
  | ind length ih =>
      cases text with
      | nil => exact cut_nil
      | cons c rest =>
          have shorter := ih rest.length (by simp [← size]) rest rfl
          by_cases brace : c = '\x7b'
          · subst brace
            cases found : nameAfterBrace rest with
            | some name =>
                obtain ⟨named, after, rfl⟩ := name_after_brace.mp found
                have later := ih after.length (by simp [← size]; omega) after rfl
                have dropped : (name ++ '\x7d' :: after).drop (name.length + 1) = after := by simp
                rw [piecesFrom, if_pos rfl, found]
                simp only [skipped (name.length + 1), dropped]
                simpa [token, Piece.text] using cut_placeholder named later
            | none =>
                rw [piecesFrom, if_pos rfl, found]
                refine cut_literal (fun name after named whole => ?_) shorter
                have begins : rest = name ++ '\x7d' :: after := by simpa [token, Piece.text] using whole
                have some := name_after_brace.mpr ⟨named, after, begins⟩
                rw [found] at some
                cases some
          · rw [piecesFrom, if_neg brace]
            refine cut_literal (fun name after _ whole => ?_) shorter
            exact brace (List.cons.inj whole).1

theorem cut_unique {text : List Char} {pieces : List Piece} (cut : Cut text pieces) : piecesFrom 0 text = pieces := by
  induction pieces generalizing text with
  | nil =>
      rw [← cut.whole]
      rfl
  | cons piece pieces ih =>
      have later := ih (cut_tail cut)
      have whole := cut.whole
      rw [List.flatMap_cons] at whole
      generalize pieces.flatMap Piece.text = after at whole later
      subst whole
      cases piece with
      | placeholder name =>
          have named := cut.named name List.mem_cons_self
          have found : nameAfterBrace (name ++ '\x7d' :: after) = some name := name_after_brace.mpr ⟨named, after, rfl⟩
          have dropped : (name ++ '\x7d' :: after).drop (name.length + 1) = after := by simp
          have begins : (Piece.placeholder name).text ++ after = '\x7b' :: (name ++ '\x7d' :: after) := by
            simp [Piece.text]
          rw [begins, piecesFrom, if_pos rfl, found]
          simp only [skipped (name.length + 1), dropped, later]
      | literal c =>
          have begins : (Piece.literal c).text ++ after = c :: after := rfl
          rw [begins] at cut ⊢
          by_cases brace : c = '\x7b'
          · subst brace
            cases found : nameAfterBrace after with
            | none => rw [piecesFrom, if_pos rfl, found, later]
            | some name =>
                obtain ⟨named, rest, rfl⟩ := name_after_brace.mp found
                have starts : '\x7b' :: (name ++ '\x7d' :: rest) = token name ++ rest := by simp [token, Piece.text]
                rw [starts] at cut
                obtain ⟨back, other⟩ := cut_begins named cut
                cases other
          · rw [piecesFrom, if_neg brace, later]

theorem cut_iff (path : String) (cut : List Piece) : Cut path.toList cut ↔ pieces path = cut := by
  constructor
  · exact cut_unique
  · rintro rfl
    exact pieces_from_cut path.toList

-- A brace left open is kept, and so is one around a placeholder.
example : pieces "\x7ba\x7b\x7bb\x7d\x7d" =
    [.literal '\x7b', .literal 'a', .literal '\x7b', .placeholder ['b'], .literal '\x7d'] := rfl

end ApiStubs.PathTemplate
