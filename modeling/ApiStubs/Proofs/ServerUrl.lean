import ApiStubs.Url
import ApiStubs.Text.Character
import Mathlib.Data.List.DropRight

/- The URLs of servers. Whatever divides one (colons in the authority or the path, slashes and question marks behind
   the path), the path comes out of it as it was put in. -/

set_option autoImplicit false

namespace ApiStubs

open ApiStubs.Text

namespace Text

-- A run of characters of a kind up to where another kind begins.
theorem span_exact {kind : Char → Bool} (run rest : List Char) (inside : ∀ c ∈ run, kind c = true)
    (ends : ∀ c ∈ rest.head?, kind c = false) :
    (run ++ rest).takeWhile kind = run ∧ (run ++ rest).dropWhile kind = rest := by
  rw [List.takeWhile_append_of_pos inside, List.dropWhile_append_of_pos inside]
  cases rest with
  | nil => exact ⟨List.append_nil run, rfl⟩
  | cons c rest =>
      have other : kind c = false := ends c rfl
      simp [other]

theorem trim_right_marks (mark : Char) (cs : List Char) :
    (∃ n, trimRight (· == mark) cs ++ List.replicate n mark = cs) ∧
      (trimRight (· == mark) cs).getLast? ≠ some mark := by
  have marks : ∀ c ∈ cs.rtakeWhile (· == mark), c = mark := fun c member => by
    simpa using List.mem_rtakeWhile_imp member
  refine ⟨⟨(cs.rtakeWhile (· == mark)).length, ?_⟩, fun last => ?_⟩
  · rw [← List.eq_replicate_of_mem marks]
    exact List.rdropWhile_append_rtakeWhile
  · have filled : cs.rdropWhile (· == mark) ≠ [] := by
      intro empty
      rw [trimRight, ← List.rdropWhile, empty] at last
      cases last
    have other := List.rdropWhile_last_not (· == mark) cs filled
    rw [trimRight, ← List.rdropWhile, List.getLast?_eq_some_getLast filled] at last
    exact other (beq_iff_eq.mpr (Option.some.inj last))

end Text

namespace Url

structure IsScheme (cs : List Char) : Prop where
  starts : startsScheme cs = true
  chars : ∀ c ∈ cs, c.isAlphanum = true ∨ c ∈ ['+', '-', '.']

instance (cs : List Char) : Decidable (IsScheme cs) :=
  have := List.decidableBAll (fun c => c.isAlphanum = true ∨ c ∈ ['+', '-', '.']) cs
  decidable_of_iff (startsScheme cs = true ∧ ∀ c ∈ cs, c.isAlphanum = true ∨ c ∈ ['+', '-', '.'])
    ⟨fun both => ⟨both.1, both.2⟩, fun named => ⟨named.starts, named.chars⟩⟩

def IsHost (cs : List Char) : Prop :=
  ∀ c ∈ cs, c.isAlphanum = true ∨ c ∈ ['.', '-', ':']

instance (cs : List Char) : Decidable (IsHost cs) :=
  List.decidableBAll _ cs

structure IsPath (cs : List Char) : Prop where
  starts : cs.head?.all (· == '/') = true
  chars : ∀ c ∈ cs, c ≠ '?' ∧ c ≠ '#' ∧ c ≠ ';' ∧ isControlOrBlank c = false

instance (cs : List Char) : Decidable (IsPath cs) :=
  have := List.decidableBAll (fun c => c ≠ '?' ∧ c ≠ '#' ∧ c ≠ ';' ∧ isControlOrBlank c = false) cs
  decidable_of_iff (cs.head?.all (· == '/') = true ∧
      ∀ c ∈ cs, c ≠ '?' ∧ c ≠ '#' ∧ c ≠ ';' ∧ isControlOrBlank c = false)
    ⟨fun both => ⟨both.1, both.2⟩, fun plain => ⟨plain.starts, plain.chars⟩⟩

-- What a mark leads in, or nothing.
structure IsTail (mark : Char) (cs : List Char) : Prop where
  starts : cs.head?.all (· == mark) = true
  chars : ∀ c ∈ cs, isControlOrBlank c = false

instance (mark : Char) (cs : List Char) : Decidable (IsTail mark cs) :=
  have := List.decidableBAll (fun c => isControlOrBlank c = false) cs
  decidable_of_iff (cs.head?.all (· == mark) = true ∧ ∀ c ∈ cs, isControlOrBlank c = false)
    ⟨fun both => ⟨both.1, both.2⟩, fun tail => ⟨tail.starts, tail.chars⟩⟩

-- The URLs of servers, each with its path.
inductive Leads : List Char → List Char → Prop where
  | absolute {scheme authority path query fragment : List Char} (named : IsScheme scheme) (host : IsHost authority)
      (plain : IsPath path) (asked : IsTail '?' query) (part : IsTail '#' fragment) :
      Leads (scheme ++ ':' :: '/' :: '/' :: (authority ++ (path ++ (query ++ fragment)))) path
  | rooted {path : List Char} (plain : IsPath ('/' :: path)) (single : path.head? ≠ some '/') :
      Leads ('/' :: path) ('/' :: path)

theorem alphanum_code {c : Char} (alphanum : c.isAlphanum = true) :
    (0x30 ≤ c.toNat ∧ c.toNat ≤ 0x39) ∨ (0x41 ≤ c.toNat ∧ c.toNat ≤ 0x5A) ∨ (0x61 ≤ c.toNat ∧ c.toNat ≤ 0x7A) := by
  change ((decide ('A'.val ≤ c.val ∧ c.val ≤ 'Z'.val) || decide ('a'.val ≤ c.val) && decide (c.val ≤ 'z'.val)) ||
    decide ('0'.val ≤ c.val) && decide (c.val ≤ '9'.val)) = true at alphanum
  simp only [Bool.or_eq_true, Bool.and_eq_true, decide_eq_true_eq, UInt32.le_iff_toNat_le] at alphanum
  exact alphanum.symm

theorem clear_kept {cs : List Char} (clear : ∀ c ∈ cs, isControlOrBlank c = false) :
    (cs.dropWhile isControlOrBlank).filter (!isLineControl ·) = cs := by
  have start : cs.dropWhile isControlOrBlank = cs := by
    cases cs with
    | nil => rfl
    | cons c rest => rw [List.dropWhile_cons_of_neg (by simp [clear c List.mem_cons_self])]
  rw [start, List.filter_eq_self]
  intro c member
  have other (d : Char) (blank : isControlOrBlank d = true) : c ≠ d := by
    rintro rfl
    rw [clear c member] at blank
    cases blank
  simp [isLineControl, other '\t' rfl, other '\r' rfl, other '\n' rfl]

theorem scheme_char {c : Char} (char : c.isAlphanum = true ∨ c ∈ ['+', '-', '.']) :
    isSchemeChar c = true ∧ c ≠ ':' ∧ isControlOrBlank c = false := by
  rcases char with alphanum | mark
  · have code := alphanum_code alphanum
    refine ⟨by simp [isSchemeChar, alphanum], ?_, by simp only [isControlOrBlank, decide_eq_false_iff_not]; omega⟩
    rintro rfl
    exact absurd alphanum (by decide)
  · simp only [List.mem_cons, List.not_mem_nil, or_false] at mark
    rcases mark with rfl | rfl | rfl <;> decide

theorem host_char {c : Char} (char : c.isAlphanum = true ∨ c ∈ ['.', '-', ':']) :
    endsAuthority c = false ∧ c ∉ ['[', ']'] ∧ markLookalikes.contains c.toNat = false ∧
      isControlOrBlank c = false := by
  rcases char with alphanum | mark
  · have code := alphanum_code alphanum
    have other (d : Char) (outside : d.isAlphanum = false) : c ≠ d := by
      rintro rfl
      rw [alphanum] at outside
      cases outside
    refine ⟨?_, ?_, ?_, by simp only [isControlOrBlank, decide_eq_false_iff_not]; omega⟩
    · simp [endsAuthority, other '/' rfl, other '?' rfl, other '#' rfl]
    · simp [other '[' rfl, other ']' rfl]
    · simp only [markLookalikes, List.contains_eq_mem, List.mem_cons, List.not_mem_nil, or_false,
        decide_eq_false_iff_not]
      omega
  · simp only [List.mem_cons, List.not_mem_nil, or_false] at mark
    rcases mark with rfl | rfl | rfl <;> decide

theorem split_scheme_named {scheme rest : List Char} (named : IsScheme scheme) :
    splitScheme (scheme ++ ':' :: rest) = (scheme.map Char.toLower, rest) := by
  have inside : ∀ c ∈ scheme, (c != ':') = true := fun c member => by simp [(scheme_char (named.chars c member)).2.1]
  obtain ⟨taken, dropped⟩ := span_exact scheme (':' :: rest) inside (by simp)
  have chars : scheme.all isSchemeChar = true :=
    List.all_eq_true.mpr fun c member => (scheme_char (named.chars c member)).1
  simp only [splitScheme, taken, dropped, named.starts, chars, Bool.and_self, if_true]

theorem split_scheme_rooted (cs : List Char) : splitScheme ('/' :: cs) = ([], '/' :: cs) := by
  have first : ('/' != ':') = true := rfl
  have head : startsScheme ('/' :: cs.takeWhile (· != ':')) = false := rfl
  simp only [splitScheme, List.takeWhile_cons, first, if_true, head, Bool.false_and, Bool.false_eq_true, if_false]
  split <;> rfl

theorem split_authority_host {authority rest : List Char} (host : IsHost authority)
    (ends : ∀ c ∈ rest.head?, endsAuthority c = true) :
    splitAuthority ('/' :: '/' :: (authority ++ rest)) = (authority, rest) := by
  have inside : ∀ c ∈ authority, (!endsAuthority c) = true := fun c member => by simp [(host_char (host c member)).1]
  obtain ⟨taken, dropped⟩ := span_exact authority rest inside fun c first => by simp [ends c first]
  simp only [splitAuthority, taken, dropped]

theorem split_authority_rooted {path : List Char} (single : path.head? ≠ some '/') :
    splitAuthority ('/' :: path) = ([], '/' :: path) := by
  cases path with
  | nil => rfl
  | cons c rest =>
      have other : c ≠ '/' := fun same => single (by rw [same]; rfl)
      unfold splitAuthority
      split
      · next same => exact absurd (List.cons.inj (List.cons.inj same).2).1 other
      · rfl

theorem host_is_authority {authority : List Char} (host : IsHost authority) : isAuthority authority = true := by
  have brackets (c : Char) (bracket : c ∈ ['[', ']']) : authority.contains c = false := by
    simpa using fun member => (host_char (host c member)).2.1 bracket
  have plain : (authority.all fun c => !markLookalikes.contains c.toNat) = true :=
    List.all_eq_true.mpr fun c member => by rw [(host_char (host c member)).2.2.1]; rfl
  simp only [isAuthority, bracketsHold, brackets '[' (by simp), brackets ']' (by simp), plain, beq_self_eq_true,
    Bool.not_false, Bool.true_or, Bool.and_self]

theorem before_free {mark : Char} {run : List Char} (rest : List Char) (free : mark ∉ run) :
    before mark (run ++ rest) = run ++ before mark rest := by
  refine List.takeWhile_append_of_pos fun c member => ?_
  simpa using fun same : c = mark => free (same ▸ member)

theorem drop_parameters_free {path : List Char} (free : ';' ∉ path) : dropParameters path = path := by
  obtain ⟨front, whole⟩ := List.rtakeWhile_suffix (· != '/') path
  have last : before ';' (path.rtakeWhile (· != '/')) = path.rtakeWhile (· != '/') := by
    have inside : ';' ∉ path.rtakeWhile (· != '/') := fun member => free (whole ▸ List.mem_append_right front member)
    simpa [before] using before_free [] inside
  have long : path.length - (path.rtakeWhile (· != '/')).length = front.length := by
    rw [← congrArg List.length whole, List.length_append, Nat.add_sub_cancel]
  have taken : path.take front.length = front := List.prefix_iff_eq_take.mp ⟨_, whole⟩ |>.symm
  rw [List.rtakeWhile, List.length_reverse] at long
  rw [List.rtakeWhile] at last whole
  rw [dropParameters, long, taken, last, whole]

theorem before_tails {path query fragment : List Char} (plain : IsPath path) (asked : IsTail '?' query)
    (part : IsTail '#' fragment) : before '?' (before '#' (path ++ (query ++ fragment))) = path := by
  have free (mark : Char) (divides : mark = '?' ∨ mark = '#') : mark ∉ path := by
    intro member
    obtain ⟨noQuery, noFragment, -⟩ := plain.chars mark member
    exact divides.elim noQuery noFragment
  have rest : before '?' (before '#' (query ++ fragment)) = [] := by
    cases query with
    | nil =>
        cases fragment with
        | nil => rfl
        | cons c fragment =>
            obtain rfl : c = '#' := eq_of_beq part.starts
            rfl
    | cons c query =>
        obtain rfl : c = '?' := eq_of_beq asked.starts
        rfl
  rw [before_free _ (free '#' (.inr rfl)), before_free _ (free '?' (.inl rfl)), rest, List.append_nil]

theorem tails_end {path query fragment : List Char} (plain : IsPath path) (asked : IsTail '?' query)
    (part : IsTail '#' fragment) : ∀ c ∈ (path ++ (query ++ fragment)).head?, endsAuthority c = true := by
  intro c first
  cases path with
  | cons _ path =>
      cases first
      rw [eq_of_beq plain.starts]
      rfl
  | nil =>
      cases query with
      | cons _ query =>
          cases first
          rw [eq_of_beq asked.starts]
          rfl
      | nil =>
          cases fragment with
          | nil => cases first
          | cons _ fragment =>
              cases first
              rw [eq_of_beq part.starts]
              rfl

theorem leads_filled {url path : List Char} (leads : Leads url path) : String.ofList url ≠ "" := by
  intro empty
  have chars : url = [] := by rw [← String.toList_ofList (l := url), empty]; rfl
  cases leads with
  | absolute => exact absurd (List.append_eq_nil_iff.mp chars).2 (List.cons_ne_nil _ _)
  | rooted => cases chars

theorem path_of_leads {url path : List Char} (leads : Leads url path) :
    path? (String.ofList url) = some (String.ofList path) := by
  have finished (scheme : String) (plain : IsPath path) :
      (if parameterSchemes.contains scheme then dropParameters path else path) = path := by
    have free : ';' ∉ path := fun member => (plain.chars ';' member).2.2.1 rfl
    rw [drop_parameters_free free, ite_self]
  cases leads with
  | @absolute scheme authority _ query fragment named host plain asked part =>
      have clear : ∀ c ∈ scheme ++ ':' :: '/' :: '/' :: (authority ++ (path ++ (query ++ fragment))),
          isControlOrBlank c = false := by
        simp only [List.forall_mem_append, List.forall_mem_cons]
        exact ⟨fun c member => (scheme_char (named.chars c member)).2.2, by decide, by decide, by decide,
          fun c member => (host_char (host c member)).2.2.2, fun c member => (plain.chars c member).2.2.2,
          asked.chars, part.chars⟩
      simp only [path?, String.toList_ofList, clear_kept clear, split_scheme_named named,
        split_authority_host host (tails_end plain asked part), host_is_authority host, if_true,
        before_tails plain asked part,
        finished _ plain]
  | @rooted rest plain single =>
      have whole := before_tails plain (⟨rfl, nofun⟩ : IsTail '?' []) (⟨rfl, nofun⟩ : IsTail '#' [])
      rw [List.append_nil, List.append_nil] at whole
      have clear : ∀ c ∈ '/' :: rest, isControlOrBlank c = false := fun c member => (plain.chars c member).2.2.2
      have none : isAuthority [] = true := rfl
      simp only [path?, String.toList_ofList, clear_kept clear, split_scheme_rooted, split_authority_rooted single,
        none, if_true, whole, finished _ plain]

end Url

end ApiStubs
