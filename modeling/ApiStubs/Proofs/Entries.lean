import ApiStubs.Proofs.JsonRoundTrip
import Mathlib.Data.List.Nodup

/- Writing entries and reading them. What is written under a name is read by that name, and nothing else is read
   otherwise than before. -/

set_option autoImplicit false

namespace ApiStubs

namespace Entries

theorem put_names (entries : Entries) (name : String) (v : Value) :
    (entries.put (.str name) v).names = entries.names ∨
      .str name ∉ entries.names ∧ (entries.put (.str name) v).names = entries.names ++ [.str name] := by
  induction entries with
  | nil => exact .inr ⟨by simp [names], rfl⟩
  | cons e rest ih =>
      by_cases here : Value.sameKey e.1 (.str name) = true
      · rw [put, if_pos here]
        exact .inl rfl
      · have other : e.1 ≠ .str name := fun same => here ((Value.same_key_text _ _).mpr same)
        rw [put, if_neg here]
        rcases ih with same | ⟨fresh, last⟩
        · exact .inl (congrArg (e.1 :: ·) same)
        · refine .inr ⟨?_, congrArg (e.1 :: ·) last⟩
          simpa [names, Ne.symm other] using fresh

theorem put_distinct {entries : Entries} (name : String) (v : Value) (distinct : entries.names.Nodup) :
    (entries.put (.str name) v).names.Nodup := by
  rcases put_names entries name v with same | ⟨fresh, last⟩
  · rwa [same]
  · rw [last, List.nodup_append]
    exact ⟨distinct, by simp, fun key member other single => by
      rw [List.mem_singleton.mp single]
      rintro rfl
      exact fresh member⟩

theorem mem_put {entries : Entries} {key v : Value} {e : Value × Value} (member : e ∈ entries.put key v) :
    e.2 = v ∨ ∃ k, (k, e.2) ∈ entries := by
  induction entries with
  | nil =>
      rw [List.mem_singleton.mp member]
      exact .inl rfl
  | cons first rest ih =>
      rw [put] at member
      split at member
      · rcases List.mem_cons.mp member with rfl | later
        · exact .inl rfl
        · exact .inr ⟨e.1, List.mem_cons_of_mem _ later⟩
      · rcases List.mem_cons.mp member with rfl | later
        · exact .inr ⟨_, List.mem_cons_self⟩
        · rcases ih later with same | ⟨k, inside⟩
          · exact .inl same
          · exact .inr ⟨k, List.mem_cons_of_mem _ inside⟩

theorem text_same_key (name : String) (key : Value) : Value.sameKey (.str name) key = true ↔ key = .str name := by
  cases key with
  | str other => simpa [Value.sameKey] using eq_comm
  | _ => simp [Value.sameKey, Value.sameNumber, Value.asInt?]

theorem get_cons (e : Value × Value) (rest : Entries) (name : String) :
    get? (e :: rest) name = if e.1 = .str name then some e.2 else rest.get? name := by
  by_cases named : e.1 = .str name <;> simp [get?, named]

theorem get_put (entries : Entries) (key v : Value) (name : String) :
    (entries.put key v).get? name = if key = .str name then some v else entries.get? name := by
  induction entries with
  | nil => simp [put, get_cons]
  | cons e rest ih =>
      rw [put]
      by_cases here : Value.sameKey e.1 key = true
      · rw [if_pos here, get_cons, get_cons]
        by_cases named : e.1 = .str name
        · rw [named] at here
          simp [named, (text_same_key name key).mp here]
        · have other : key ≠ .str name := by
            rintro rfl
            exact named ((Value.same_key_text e.1 name).mp here)
          simp [named, other]
      · rw [if_neg here, get_cons, get_cons, ih]
        by_cases named : e.1 = .str name
        · have other : key ≠ .str name := by
            rintro rfl
            exact here ((Value.same_key_text e.1 name).mpr named)
          simp [named, other]
        · simp [named]

theorem get_absent {entries : Entries} {name : String} (absent : .str name ∉ entries.names) :
    entries.get? name = none := by
  induction entries with
  | nil => rfl
  | cons e rest ih =>
      rw [names, List.map_cons, List.mem_cons, not_or] at absent
      rw [get_cons, if_neg (Ne.symm absent.1), ih absent.2]

-- What is written later covers what was there.
theorem get_put_all (entries more : Entries) (distinct : more.names.Nodup) (name : String) :
    (entries.putAll more).get? name = (more.get? name).or (entries.get? name) := by
  induction more generalizing entries with
  | nil => simp [putAll, get?]
  | cons e rest ih =>
      obtain ⟨fresh, distinct⟩ := List.nodup_cons.mp distinct
      have later := ih (entries.put e.1 e.2) distinct
      rw [putAll, List.foldl_cons, ← putAll, later, get_put, get_cons]
      by_cases named : e.1 = .str name
      · have unread : get? rest name = none := get_absent (named ▸ fresh)
        simp [named, unread]
      · simp [named]

end Entries

end ApiStubs
