import ApiStubs.Pointer
import Mathlib.Data.List.TakeWhile

/- Pointers that are extended name what one step further leads to. A name may hold slashes and tildes; an empty name
   right after the root is lost, since slashes before the first segment are passed over. -/

set_option autoImplicit false

namespace ApiStubs

open ApiStubs.Text

namespace Pointer

theorem slash_not_escaped (segment : List Char) : '/' ∉ escape segment := by
  intro member
  obtain ⟨c, -, inside⟩ := List.mem_flatMap.mp member
  unfold escapeChar at inside
  split at inside
  · simp at inside
  · simp at inside
  · next other => exact absurd (List.mem_singleton.mp inside).symm other

def escapeTilde (c : Char) : List Char :=
  if c = '~' then ['~', '0'] else [c]

theorem unescape_slashes_other {c : Char} (other : c ≠ '~') (rest : List Char) :
    unescapeSlashes (c :: rest) = c :: unescapeSlashes rest := by
  rw [unescapeSlashes]
  intro _ same
  exact absurd same other

theorem unescape_tildes_other {c : Char} (other : c ≠ '~') (rest : List Char) :
    unescapeTildes (c :: rest) = c :: unescapeTildes rest := by
  rw [unescapeTildes]
  intro _ same
  exact absurd same other

theorem unescape_slashes_escape (segment : List Char) :
    unescapeSlashes (escape segment) = segment.flatMap escapeTilde := by
  induction segment with
  | nil => rfl
  | cons c rest ih =>
      simp only [escape, List.flatMap_cons] at ih ⊢
      by_cases tilde : c = '~'
      · subst tilde
        simp [escapeChar, escapeTilde, unescapeSlashes, ih]
      · by_cases slash : c = '/'
        · subst slash
          simp [escapeChar, escapeTilde, unescapeSlashes, ih]
        · have kept : escapeChar c = [c] := by simp [escapeChar]
          rw [kept, List.singleton_append, unescape_slashes_other tilde, ih, escapeTilde, if_neg tilde,
            List.singleton_append]

theorem unescape_tildes_escape (segment : List Char) : unescapeTildes (segment.flatMap escapeTilde) = segment := by
  induction segment with
  | nil => rfl
  | cons c rest ih =>
      rw [List.flatMap_cons]
      by_cases tilde : c = '~'
      · subst tilde
        simp [escapeTilde, unescapeTildes, ih]
      · rw [escapeTilde, if_neg tilde, List.singleton_append, unescape_tildes_other tilde, ih]

theorem unescape_escape (segment : List Char) : unescape (escape segment) = segment := by
  rw [unescape, unescape_slashes_escape, unescape_tildes_escape]

theorem escape_nil_iff (segment : List Char) : escape segment = [] ↔ segment = [] := by
  constructor
  · intro empty
    rw [← unescape_escape segment, empty]
    rfl
  · rintro rfl
    rfl

theorem segments_rooted {path : List Char} (slashes : path.dropWhile (· == '/') = []) (name : String)
    (named : name ≠ "") : segments (path ++ '/' :: escape name.toList) = [name] := by
  have whole : (path ++ '/' :: escape name.toList).dropWhile (· == '/') = escape name.toList := by
    rw [List.dropWhile_append, slashes]
    cases escaped : escape name.toList with
    | nil => simp [escape_nil_iff, named] at escaped
    | cons c rest =>
        have other : c ≠ '/' := fun same => slash_not_escaped name.toList (by simp [escaped, same])
        simp [other]
  have filled : escape name.toList ≠ [] := by simpa [escape_nil_iff] using named
  unfold segments
  rw [whole]
  split
  · next empty => exact absurd empty filled
  · rw [split_on_alone _ _ (slash_not_escaped _)]
    simp [unescape_escape]

theorem segments_extended {path : List Char} (further : path.dropWhile (· == '/') ≠ []) (name : String) :
    segments (path ++ '/' :: escape name.toList) = segments path ++ [name] := by
  have whole : (path ++ '/' :: escape name.toList).dropWhile (· == '/') =
      path.dropWhile (· == '/') ++ '/' :: escape name.toList := by
    rw [List.dropWhile_append]
    simp [further]
  unfold segments
  rw [whole]
  cases cut : path.dropWhile (· == '/') with
  | nil => exact absurd cut further
  | cons c rest =>
      simp only [List.cons_append]
      rw [← List.cons_append, split_on_append, split_on_alone '/' (escape name.toList) (slash_not_escaped _)]
      simp [unescape_escape]

theorem walk_joined (pointer : String) (node : Value) (front rest : List String) :
    walk pointer node (front ++ rest) = walk pointer node front >>= fun inner => walk pointer inner rest := by
  induction front generalizing node with
  | nil => rfl
  | cons segment front ih =>
      simp only [List.cons_append, walk]
      cases step? node segment with
      | none => rfl
      | some inner => exact ih inner

-- The text of a pointer is told by failures only.
theorem walk_told {pointer : String} (other : String) {node v : Value} {path : List String}
    (found : walk pointer node path = .ok v) : walk other node path = .ok v := by
  induction path generalizing node with
  | nil => exact found
  | cons segment rest ih =>
      cases first : step? node segment with
      | none => simp [walk, first] at found
      | some next =>
          simp only [walk, first] at found ⊢
          exact ih found

theorem walk_append {pointer : String} (other : String) {node v inner : Value} {path : List String} {name : String}
    (found : walk pointer node path = .ok v) (step : step? v name = some inner) :
    walk other node (path ++ [name]) = .ok inner := by
  rw [walk_joined, walk_told other found]
  change walk other v [name] = .ok inner
  rw [walk, step]
  rfl

-- A place with something else than slashes after the root.
def Inner (place : String) : Prop :=
  ∃ c ∈ place.toList.tail, c ≠ '/'

theorem to_list_extended (place name : String) :
    (extendText place name).toList = place.toList ++ '/' :: escape name.toList := by
  simp [extendText]

theorem inner_named (place name : String) (named : name ≠ "") : Inner (extendText place name) := by
  have filled : escape name.toList ≠ [] := by simpa [escape_nil_iff] using named
  obtain ⟨c, member⟩ := List.exists_mem_of_ne_nil _ filled
  refine ⟨c, ?_, fun same => slash_not_escaped name.toList (same ▸ member)⟩
  rw [to_list_extended]
  cases place.toList with
  | nil => exact member
  | cons first rest => simp [member]

theorem inner_further {place : String} (inner : Inner place) (name : String) : Inner (extendText place name) := by
  obtain ⟨c, member, other⟩ := inner
  refine ⟨c, ?_, other⟩
  rw [to_list_extended]
  cases split : place.toList with
  | nil => simp [split] at member
  | cons first rest =>
      rw [split] at member
      exact List.mem_append_left _ member

theorem inner_rooted {place : String} {path : List Char} (rooted : place.toList = '#' :: path) :
    Inner place ↔ path.dropWhile (· == '/') ≠ [] := by
  simp [Inner, rooted, List.dropWhile_eq_nil_iff]

theorem lookup_extended {document v next : Value} {place name : String} (found : lookup document (.str place) = .ok v)
    (inner : Inner (extendText place name)) (step : step? v name = some next) :
    lookup document (.str (extendText place name)) = .ok next := by
  simp only [lookup] at found ⊢
  split at found
  · next path rooted =>
      have extended : (extendText place name).toList = '#' :: (path ++ '/' :: escape name.toList) := by
        rw [to_list_extended, rooted, List.cons_append]
      rw [extended]
      by_cases further : path.dropWhile (· == '/') = []
      · have named : name ≠ "" := by
          rintro rfl
          refine (inner_rooted extended).mp inner ?_
          rw [List.dropWhile_append, further]
          rfl
        have whole : segments path = [] := by simp [segments, further]
        have root : walk place document [] = .ok v := whole ▸ found
        simp only [segments_rooted further name named]
        exact walk_append _ root step
      · simp only [segments_extended further name]
        exact walk_append _ found step
  · cases found

end Pointer

end ApiStubs
