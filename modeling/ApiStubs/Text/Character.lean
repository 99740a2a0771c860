/- Classes of characters, told by tables of closed ranges of code points: the white space, with what is cut off the
   ends of a text by it, and the decimal digits of every script. -/

set_option autoImplicit false

namespace ApiStubs.Text

def inRanges (ranges : List (Nat × Nat)) (code : Nat) : Bool :=
  ranges.any fun r => r.1 ≤ code && code ≤ r.2

theorem in_ranges_iff (ranges : List (Nat × Nat)) (code : Nat) :
    inRanges ranges code = true ↔ ∃ r ∈ ranges, r.1 ≤ code ∧ code ≤ r.2 := by
  simp [inRanges]

def wideBlankRanges : List (Nat × Nat) :=
  [(0x85, 0x85), (0xA0, 0xA0), (0x1680, 0x1680), (0x2000, 0x200A), (0x2028, 0x2029),
   (0x202F, 0x202F), (0x205F, 0x205F), (0x3000, 0x3000)]

def isBlank (c : Char) : Bool :=
  inRanges [(0x09, 0x0D), (0x1C, 0x20)] c.toNat || inRanges wideBlankRanges c.toNat

-- The blanks allowed around a written number: the information separators are not among them.
def isNumberBlank (c : Char) : Bool :=
  inRanges [(0x09, 0x0D), (0x20, 0x20)] c.toNat || inRanges wideBlankRanges c.toNat

theorem number_blank_is_blank (c : Char) (blank : isNumberBlank c = true) : isBlank c = true := by
  simp only [isNumberBlank, isBlank, Bool.or_eq_true] at blank ⊢
  rcases blank with near | wide
  · refine .inl ?_
    simp only [in_ranges_iff, List.mem_cons, List.not_mem_nil, or_false, exists_eq_or_imp, exists_eq_left] at near ⊢
    omega
  · exact .inr wide

def trimLeft (drop : Char → Bool) (cs : List Char) : List Char :=
  cs.dropWhile drop

def trimRight (drop : Char → Bool) (cs : List Char) : List Char :=
  (cs.reverse.dropWhile drop).reverse

def trim (drop : Char → Bool) (cs : List Char) : List Char :=
  trimRight drop (trimLeft drop cs)

theorem drop_after_wider (inner wider : Char → Bool) (cs : List Char)
    (contained : ∀ c, inner c = true → wider c = true) :
    (cs.dropWhile wider).dropWhile inner = cs.dropWhile wider := by
  induction cs with
  | nil => rfl
  | cons c rest ih =>
      by_cases dropped : wider c = true
      · simpa [List.dropWhile_cons, dropped] using ih
      · have kept : inner c ≠ true := fun also => dropped (contained c also)
        simp [dropped, kept]

theorem trim_right_keeps_head (drop : Char → Bool) (c : Char) (rest : List Char) (kept : drop c = false) :
    trimRight drop (c :: rest) = c :: trimRight drop rest := by
  simp only [trimRight, List.reverse_cons, List.dropWhile_append]
  split
  · simp_all
  · simp

theorem trim_left_head (drop : Char → Bool) (cs : List Char) (c : Char) (rest : List Char)
    (front : trimLeft drop cs = c :: rest) : drop c = false := by
  induction cs with
  | nil => cases front
  | cons d more ih =>
      by_cases dropped : drop d = true
      · exact ih (by simpa [trimLeft, List.dropWhile_cons, dropped] using front)
      · have same : d = c := by
          simp only [trimLeft, List.dropWhile_cons, dropped] at front
          exact (List.cons.inj front).1
        simpa [same] using dropped

theorem trim_after_wider (inner wider : Char → Bool) (cs : List Char)
    (contained : ∀ c, inner c = true → wider c = true) : trim inner (trim wider cs) = trim wider cs := by
  have left : trimLeft inner (trim wider cs) = trim wider cs := by
    unfold trim
    cases front : trimLeft wider cs with
    | nil => rfl
    | cons c rest =>
        have kept := trim_left_head wider cs c rest front
        have innerKept : inner c ≠ true := fun also => by simp [contained c also] at kept
        rw [trim_right_keeps_head wider c rest kept]
        simp [trimLeft, innerKept]
  rw [trim, left, trim]
  simp only [trimRight, List.reverse_reverse]
  rw [drop_after_wider inner wider _ contained]

theorem trim_append_kept (drop : Char → Bool) (cs more : List Char) (last : Char)
    (inside : trimLeft drop cs ≠ []) (kept : drop last = false) :
    trim drop (cs ++ (more ++ [last])) = trimLeft drop cs ++ (more ++ [last]) := by
  have nonempty : (cs.dropWhile drop).isEmpty = false := by simpa [trimLeft] using inside
  simp [trim, trimLeft, trimRight, List.dropWhile_append, nonempty, kept]

theorem trim_kept {drop : Char → Bool} {cs : List Char} (kept : ∀ c ∈ cs, drop c = false) : trim drop cs = cs := by
  have whole (ds : List Char) (same : ∀ c ∈ ds, drop c = false) : ds.dropWhile drop = ds := by
    cases ds with
    | nil => rfl
    | cons c rest => exact List.dropWhile_cons_of_neg (by simp [same c List.mem_cons_self])
  rw [trim, trimLeft, trimRight, whole cs kept, whole _ fun c member => kept c (List.mem_reverse.mp member),
    List.reverse_reverse]

theorem mem_drop_kept (drop : Char → Bool) {c : Char} {cs : List Char} (kept : drop c = false) (member : c ∈ cs) :
    c ∈ cs.dropWhile drop := by
  rw [← List.takeWhile_append_dropWhile (p := drop) (l := cs)] at member
  rcases List.mem_append.mp member with early | late
  · rw [List.all_eq_true.mp List.all_takeWhile c early] at kept
    cases kept
  · exact late

theorem mem_trim_kept (drop : Char → Bool) {c : Char} {cs : List Char} (kept : drop c = false) (member : c ∈ cs) :
    c ∈ trim drop cs := by
  have left : c ∈ (trimLeft drop cs).reverse := List.mem_reverse.mpr (mem_drop_kept drop kept member)
  exact List.mem_reverse.mpr (mem_drop_kept drop kept left)

def isBlankText (s : String) : Bool :=
  s.toList.all isBlank

-- Each run of ten digits begins at its zero.
def digitStarts : List Nat :=
  [0x660, 0x6F0, 0x7C0, 0x966, 0x9E6, 0xA66, 0xAE6, 0xB66, 0xBE6, 0xC66,
   0xCE6, 0xD66, 0xDE6, 0xE50, 0xED0, 0xF20, 0x1040, 0x1090, 0x17E0, 0x1810,
   0x1946, 0x19D0, 0x1A80, 0x1A90, 0x1B50, 0x1BB0, 0x1C40, 0x1C50, 0xA620, 0xA8D0,
   0xA900, 0xA9D0, 0xA9F0, 0xAA50, 0xABF0, 0xFF10, 0x104A0, 0x10D30, 0x11066, 0x110F0,
   0x11136, 0x111D0, 0x112F0, 0x11450, 0x114D0, 0x11650, 0x116C0, 0x11730, 0x118E0, 0x11950,
   0x11C50, 0x11D50, 0x11DA0, 0x16A60, 0x16AC0, 0x16B50, 0x1D7CE, 0x1D7D8, 0x1D7E2, 0x1D7EC,
   0x1D7F6, 0x1E140, 0x1E2F0, 0x1E950, 0x1FBF0]

def asciiDigit? (c : Char) : Option Nat :=
  if 0x30 ≤ c.toNat ∧ c.toNat ≤ 0x39 then some (c.toNat - 0x30) else none

def decimalDigit? (c : Char) : Option Nat :=
  if c.toNat < 0x80 then asciiDigit? c
  else
    match digitStarts.find? fun first => first ≤ c.toNat && c.toNat < first + 10 with
    | some first => some (c.toNat - first)
    | none => none

end ApiStubs.Text
