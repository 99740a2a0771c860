import ApiStubs.Proofs.JsonLayout

/- Which characters a written value is made of. Under every layout it has no control character but the line feeds of
   broken lines, and a layout that indents puts each of these outside the literals, with the indentation of what
   follows behind it. A layout that stays on one line and within ASCII puts blanks into literals only. -/

set_option autoImplicit false

namespace ApiStubs.Json

-- No control character but the line feed.
def Printed (c : Char) : Prop :=
  c = '\n' ∨ 0x20 ≤ c.toNat

instance (c : Char) : Decidable (Printed c) :=
  inferInstanceAs (Decidable (_ ∨ _))

theorem colon_visible {layout : Layout} {c : Char} (member : c ∈ colon layout) : 0x20 ≤ c.toNat := by
  unfold colon at member
  split at member <;> simp only [List.mem_cons, List.not_mem_nil, or_false] at member
  · subst member
    decide
  · rcases member with rfl | rfl <;> decide

theorem line_break_printed {layout : Layout} {level : Nat} {c : Char} (member : c ∈ lineBreak layout level) :
    Printed c := by
  unfold lineBreak at member
  split at member
  · cases member
  · rcases List.mem_cons.mp member with rfl | space
    · exact .inl rfl
    · cases List.eq_of_mem_replicate space
      decide

theorem layout_printed (layout : Layout) : Obeys layout fun _ c _ => Printed c where
  signs := by simp [signs, Printed]
  escapes := by simp [escapes, Printed]
  literals := fun _ _ verbatim _ => .inr verbatim.printed
  colons := fun _ _ member _ => .inr (colon_visible member)
  begins := fun _ _ _ => break_still fun _ member _ => line_break_printed member
  ends := fun _ _ _ _ => break_still fun _ member _ => line_break_printed member

theorem written_printed (layout : Layout) (v : Value) (plain : Plain v) (s : String)
    (written : write layout v = some s) :
    ∀ c ∈ s.toList, Printed c := by
  intro c member
  obtain ⟨before, after, whole⟩ := List.append_of_mem member
  exact written_obeys (layout_printed layout) plain written before c after whole

-- A closing bracket stands one level further out.
def levelOf (depth : Nat) (next : Char) : Nat :=
  if next = ']' ∨ next = '\x7d' then depth - 1 else depth

-- Among control characters only a line feed, outside of literals and before the indentation of the next line.
def Indented (width : Nat) : Rule := fun spot c rest =>
  c.toNat < 0x20 → c = '\n' ∧ spot.quoting = .outside ∧
    ∃ next later, rest = List.replicate (width * levelOf spot.depth next) ' ' ++ next :: later ∧ isSpace next = false

theorem visible_indented {width : Nat} {spot : Spot} {c : Char} {rest : List Char} (visible : 0x20 ≤ c.toNat) :
    Indented width spot c rest :=
  fun control => absurd visible (Nat.not_le_of_lt control)

theorem break_scans {layout : Layout} {width level depth : Nat} (broken : layout.indent = some width) {next : Char}
    (later : List Char) (placed : levelOf depth next = level) (filled : isSpace next = false) :
    Scans (Indented width) (next :: later) ⟨depth, .outside⟩ (lineBreak layout level) ⟨depth, .outside⟩ := by
  have form : lineBreak layout level = '\n' :: List.replicate (width * level) ' ' := by rw [lineBreak, broken]
  rw [form]
  refine .cons (fun _ => ⟨rfl, rfl, next, later, by rw [placed], filled⟩) ?_
  refine scans_still (fun c member => ?_) fun c member _ => ?_
  · cases List.eq_of_mem_replicate member
    rfl
  · cases List.eq_of_mem_replicate member
    exact visible_indented (by decide)

theorem layout_indented {layout : Layout} {width : Nat} (broken : layout.indent = some width) :
    Obeys layout (Indented width) where
  signs := by
    have visible : ∀ c ∈ signs, 0x20 ≤ c.toNat := by simp [signs]
    exact fun _ c member _ => visible_indented (visible c member)
  escapes := by
    have visible : ∀ c ∈ escapes, 0x20 ≤ c.toNat := by simp [escapes]
    exact fun _ _ _ c member _ => visible_indented (visible c member)
  literals := fun _ _ verbatim _ => visible_indented verbatim.printed
  colons := fun _ _ member _ => visible_indented (colon_visible member)
  begins := by
    rintro depth _ ⟨c, rest, rfl, filled, bracket, brace, -⟩
    exact break_scans broken rest (by simp [levelOf, bracket, brace]) filled
  ends := by
    rintro depth closing tail (rfl | rfl)
    · exact break_scans broken tail rfl rfl
    · exact break_scans broken tail rfl rfl

-- Printable ASCII, and no blank outside of literals.
def Compact : Rule := fun spot c _ =>
  (0x20 ≤ c.toNat ∧ c.toNat ≤ 0x7E) ∧ (spot.quoting = .outside → isSpace c = false)

theorem layout_compact {layout : Layout} (single : layout.indent = none) (ascii : layout.asciiOnly = true) :
    Obeys layout Compact where
  signs := by
    have visible : ∀ c ∈ signs, (0x20 ≤ c.toNat ∧ c.toNat ≤ 0x7E) ∧ isSpace c = false := by simp [signs, isSpace]
    exact fun _ c member _ => ⟨(visible c member).1, fun _ => (visible c member).2⟩
  escapes := by
    have visible : ∀ c ∈ escapes, 0x20 ≤ c.toNat ∧ c.toNat ≤ 0x7E := by simp [escapes]
    exact fun _ _ inside c member _ => ⟨visible c member, fun outside => absurd outside inside⟩
  literals := fun _ c verbatim _ =>
    ⟨⟨verbatim.printed, Nat.le_of_lt_succ (verbatim.ascii ascii)⟩, fun outside => nomatch outside⟩
  colons := by
    have form : colon layout = [':'] := by rw [colon, single]; rfl
    intro _ c member _
    rw [form, List.mem_singleton] at member
    cases member
    exact ⟨by decide, fun _ => rfl⟩
  begins := by
    intro depth tail _
    rw [lineBreak, single]
    exact .nil _
  ends := by
    intro depth _ tail _
    rw [lineBreak, single]
    exact .nil _

end ApiStubs.Json
