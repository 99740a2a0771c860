import ApiStubs.Path

/- Paths and their texts. A path that a text denotes is denoted by its own text too, and a name without a slash leads
   one step down. -/

set_option autoImplicit false

namespace ApiStubs

namespace Path

open Text

-- A name that is one step of a path.
def Step (name : String) : Prop :=
  isPart name.toList = true ∧ '/' ∉ name.toList

instance (name : String) : Decidable (Step name) :=
  inferInstanceAs (Decidable (_ ∧ _))

-- The paths that texts denote.
structure Proper (p : Path) : Prop where
  root : p.root = "" ∨ p.root = "/" ∨ p.root = "//"
  steps : ∀ name ∈ p.parts, Step name

theorem of_text_proper (s : String) : (ofText s).Proper where
  root := by
    unfold ofText rootOf
    split <;> simp
  steps := by
    intro name member
    obtain ⟨cs, kept, rfl⟩ := List.mem_map.mp member
    obtain ⟨inside, part⟩ := List.mem_filter.mp kept
    have free := split_on_free '/' s.toList cs inside
    simpa [Step] using And.intro part free

theorem step_first {name : String} (step : Step name) : ∃ c rest, name.toList = c :: rest ∧ c ≠ '/' := by
  cases chars : name.toList with
  | nil => simp [Step, isPart, chars] at step
  | cons c rest =>
      have free := step.2
      rw [chars] at free
      exact ⟨c, rest, rfl, fun same => free (by simp [same])⟩

theorem steps_kept (names : List String) (steps : ∀ name ∈ names, Step name) :
    ((names.map String.toList).filter isPart).map String.ofList = names := by
  have all : (names.map String.toList).filter isPart = names.map String.toList := by
    rw [List.filter_eq_self]
    intro cs member
    obtain ⟨name, inside, rfl⟩ := List.mem_map.mp member
    exact (steps name inside).1
  rw [all, List.map_map]
  simp [Function.comp_def]

theorem joined_first {name : String} (rest : List String) (step : Step name) :
    ∃ c cs, ['/'].intercalate ((name :: rest).map String.toList) = c :: cs ∧ c ≠ '/' := by
  obtain ⟨c, others, chars, different⟩ := step_first step
  cases rest with
  | nil => exact ⟨c, others, by simp [chars], different⟩
  | cons next more =>
      exact ⟨c, _, by rw [List.map_cons, List.map_cons, List.intercalate_cons_cons, chars]; rfl, different⟩

theorem joined_split {names : List String} (some : names ≠ []) (steps : ∀ name ∈ names, Step name) :
    splitOn '/' (['/'].intercalate (names.map String.toList)) = names.map String.toList := by
  refine split_on_join '/' _ (by simpa using some) ?_
  intro part member
  obtain ⟨name, inside, rfl⟩ := List.mem_map.mp member
  exact (steps name inside).2

theorem rooted_chars (root : String) {c : Char} (cs : List Char) (rooted : root = "" ∨ root = "/" ∨ root = "//")
    (different : c ≠ '/') :
    rootOf (root.toList ++ c :: cs) = root ∧
      (splitOn '/' (root.toList ++ c :: cs)).filter isPart = (splitOn '/' (c :: cs)).filter isPart := by
  rcases rooted with rfl | rfl | rfl <;> simp [rootOf, splitOn, isPart, different]

theorem text_chars {root : String} {parts : List String} {cs : List Char}
    (joined : ['/'].intercalate (parts.map String.toList) = cs) (filled : cs ≠ []) :
    (text ⟨root, parts⟩).toList = root.toList ++ cs := by
  have chars : (root ++ String.intercalate "/" parts).toList = root.toList ++ cs := by
    rw [String.toList_append, String.toList_intercalate]
    exact congrArg _ joined
  have present : root ++ String.intercalate "/" parts ≠ "" := by
    intro empty
    rw [empty] at chars
    exact filled (List.append_eq_nil_iff.mp chars.symm).2
  simp only [text, if_neg present, chars]

theorem of_text_text (p : Path) (proper : p.Proper) : ofText p.text = p := by
  obtain ⟨root, parts⟩ := p
  have rooted : root = "" ∨ root = "/" ∨ root = "//" := proper.root
  have steps : ∀ name ∈ parts, Step name := proper.steps
  cases parts with
  | nil => rcases rooted with rfl | rfl | rfl <;> decide
  | cons name rest =>
      obtain ⟨c, cs, joined, different⟩ := joined_first rest (steps name List.mem_cons_self)
      have parted : splitOn '/' (c :: cs) = (name :: rest).map String.toList := joined ▸ joined_split (by simp) steps
      obtain ⟨front, kept⟩ := rooted_chars root cs rooted different
      rw [ofText, text_chars joined (by simp), front, kept, parted, steps_kept _ steps]

theorem of_text_step {name : String} (step : Step name) : ofText name = ⟨"", [name]⟩ := by
  obtain ⟨c, cs, chars, different⟩ := step_first step
  have root : rootOf name.toList = "" := by
    rw [chars]
    exact (rooted_chars "" cs (.inl rfl) different).1
  have kept := steps_kept [name] (by simpa using step)
  simp only [List.map_cons, List.map_nil] at kept
  rw [ofText, root, split_on_alone '/' _ step.2, kept]

theorem child_step (p : Path) {name : String} (step : Step name) : p.child name = ⟨p.root, p.parts ++ [name]⟩ := by
  have relative : isAbsolute ⟨"", [name]⟩ = false := rfl
  rw [child, of_text_step step, join, relative]
  rfl

theorem child_name (p : Path) {name : String} (step : Step name) : (p.child name).name = name := by
  simp [child_step p step, Path.name]

theorem child_proper {p : Path} (proper : p.Proper) {name : String} (step : Step name) : (p.child name).Proper := by
  rw [child_step p step]
  exact ⟨proper.root, List.forall_mem_append.mpr ⟨proper.steps, by simpa using step⟩⟩

theorem text_slash_single (p : Path) (proper : p.Proper) (front rest : List Char) (some : front ≠ [])
    (free : '/' ∉ front) : p.text.toList ≠ front ++ '/' :: '/' :: rest := by
  intro chars
  obtain ⟨c, more, rfl⟩ := List.exists_cons_of_ne_nil some
  have other : c ≠ '/' := fun same => free (by simp [same])
  have same := of_text_text p proper
  have parted : splitOn '/' p.text.toList = (c :: more) :: [] :: splitOn '/' rest := by
    rw [chars, split_on_part '/' _ _ free, splitOn, if_pos rfl]
  have root : p.root = "" := by
    rw [← same, ofText, chars]
    exact (rooted_chars "" _ (.inl rfl) other).1
  obtain ⟨_, parts⟩ := p
  have steps : ∀ name ∈ parts, Step name := proper.steps
  subst root
  cases parts with
  | nil =>
      have point := congrArg List.length chars
      simp [text] at point
  | cons name others =>
      obtain ⟨d, cs, joined, -⟩ := joined_first others (steps name List.mem_cons_self)
      have again : splitOn '/' (text ⟨"", name :: others⟩).toList = (name :: others).map String.toList := by
        rw [text_chars joined (by simp), ← joined]
        exact joined_split (by simp) steps
      have blank : [] ∈ (name :: others).map String.toList := by
        rw [← again, parted]
        simp
      obtain ⟨own, inside, empty⟩ := List.mem_map.mp blank
      have part := (steps own inside).1
      rw [empty] at part
      cases part

-- A URL has two slashes in a row where a path has one.
theorem text_not_url (p : Path) (proper : p.Proper) : SpecName.isUrl p.text = false := by
  have plain (scheme : List Char) (some : scheme ≠ []) (free : '/' ∉ scheme) :
      (scheme ++ ['/', '/']).isPrefixOf p.text.toList = false := by
    rw [← Bool.not_eq_true, List.isPrefixOf_iff_prefix]
    rintro ⟨rest, chars⟩
    exact text_slash_single p proper scheme rest some free (by rw [← chars]; simp)
  have both := And.intro (plain "http:".toList (by decide) (by decide)) (plain "https:".toList (by decide) (by decide))
  exact Bool.or_eq_false_iff.mpr both

theorem split_name_start (cs : List Char) : (splitName cs).1 <+: cs := by
  unfold splitName
  simp only
  split
  · exact List.prefix_refl cs
  · exact List.take_prefix _ cs

theorem stem_free (p : Path) (step : Step p.name) : '/' ∉ p.stem.toList := by
  rw [stem, String.toList_ofList]
  exact fun member => step.2 ((split_name_start _).subset member)

end Path

end ApiStubs
