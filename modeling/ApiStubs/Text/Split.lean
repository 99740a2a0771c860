/- Cutting a text at every separator, and finding one text inside another. -/

set_option autoImplicit false

namespace ApiStubs.Text

-- The parts between separators: one more than there are separators.
def splitOn (separator : Char) : List Char → List (List Char)
  | [] => [[]]
  | c :: rest =>
      if c = separator then [] :: splitOn separator rest
      else
        match splitOn separator rest with
        | part :: parts => (c :: part) :: parts
        | [] => [[c]]

def mentions (part : List Char) : List Char → Bool
  | [] => part.isEmpty
  | c :: rest => part.isPrefixOf (c :: rest) || mentions part rest

theorem split_on_length (separator : Char) (cs : List Char) :
    (splitOn separator cs).length = cs.count separator + 1 := by
  induction cs with
  | nil => rfl
  | cons c rest ih =>
      by_cases same : c = separator
      · simp [splitOn, same, ih]
      · have differ : (c == separator) = false := by simpa using same
        simp only [splitOn, if_neg same, List.count_cons, differ]
        revert ih
        cases splitOn separator rest with
        | nil => simp
        | cons part parts => simp

theorem split_on_free (separator : Char) (cs part : List Char) (member : part ∈ splitOn separator cs) :
    separator ∉ part := by
  induction cs generalizing part with
  | nil => simp_all [splitOn]
  | cons c rest ih =>
      by_cases same : c = separator
      · simp only [splitOn, if_pos same, List.mem_cons] at member
        rcases member with rfl | member
        · simp
        · exact ih part member
      · simp only [splitOn, if_neg same] at member
        revert ih member
        cases splitOn separator rest with
        | nil =>
            intro _ member
            simp_all [eq_comm]
        | cons first parts =>
            intro ih member
            rcases List.mem_cons.mp member with rfl | later
            · have free := ih first (List.mem_cons_self ..)
              simp_all [eq_comm]
            · exact ih part (List.mem_cons_of_mem first later)

theorem split_on_append (separator : Char) (before after : List Char) :
    splitOn separator (before ++ separator :: after) = splitOn separator before ++ splitOn separator after := by
  induction before with
  | nil => simp [splitOn]
  | cons c rest ih =>
      by_cases same : c = separator
      · simp only [List.cons_append, splitOn, if_pos same, ih]
      · simp only [List.cons_append, splitOn, if_neg same, ih]
        cases parts : splitOn separator rest with
        | nil =>
            have counted := split_on_length separator rest
            rw [parts] at counted
            cases counted
        | cons part more => rfl

theorem split_on_alone (separator : Char) (part : List Char) (free : separator ∉ part) :
    splitOn separator part = [part] := by
  induction part with
  | nil => rfl
  | cons c rest ih =>
      simp only [List.mem_cons, not_or] at free
      rw [splitOn, if_neg (Ne.symm free.1), ih free.2]

theorem split_on_part (separator : Char) (part rest : List Char) (free : separator ∉ part) :
    splitOn separator (part ++ separator :: rest) = part :: splitOn separator rest := by
  rw [split_on_append, split_on_alone separator part free]
  rfl

-- Each part but the first is led by a separator.
theorem split_on_led (separator : Char) (first : List Char) (parts : List (List Char)) (alone : separator ∉ first)
    (free : ∀ part ∈ parts, separator ∉ part) :
    splitOn separator (first ++ parts.flatMap (separator :: ·)) = first :: parts := by
  induction parts generalizing first with
  | nil => rw [List.flatMap_nil, List.append_nil, split_on_alone separator first alone]
  | cons part rest ih =>
      obtain ⟨next, others⟩ := List.forall_mem_cons.mp free
      rw [List.flatMap_cons, List.cons_append, split_on_part separator first _ alone, ih part next others]

theorem intercalate_led (separator : Char) (first : List Char) (parts : List (List Char)) :
    [separator].intercalate (first :: parts) = first ++ parts.flatMap (separator :: ·) := by
  induction parts generalizing first with
  | nil => rw [List.intercalate_singleton, List.flatMap_nil, List.append_nil]
  | cons next rest ih =>
      rw [List.intercalate_cons_cons, ih, List.flatMap_cons, List.append_assoc, List.singleton_append, List.cons_append]

theorem split_on_join (separator : Char) (parts : List (List Char)) (some : parts ≠ [])
    (free : ∀ part ∈ parts, separator ∉ part) : splitOn separator ([separator].intercalate parts) = parts := by
  cases parts with
  | nil => exact absurd rfl some
  | cons first rest =>
      obtain ⟨alone, others⟩ := List.forall_mem_cons.mp free
      rw [intercalate_led, split_on_led separator first rest alone others]

end ApiStubs.Text
