import ApiStubs.Proofs.Entries
import ApiStubs.Proofs.JsonForm
import ApiStubs.Proofs.WrittenNumber

/- What JSON can hold. Whatever is read from a text, the names in each of its mappings are distinct, and it has a form
   again: its whole numbers are short enough to be written and read. -/

set_option autoImplicit false

namespace ApiStubs

namespace Json

open ApiStubs.Decimal

structure Tidy (v : Value) : Prop where
  distinct : ∀ entries : Entries, Below v (.map entries) → entries.names.Nodup
  formed : Formed v

structure TidyEntries (entries : Entries) : Prop where
  distinct : entries.names.Nodup
  named : ∀ key ∈ entries.names, ∃ name, key = .str name
  values : ∀ e ∈ entries, Tidy e.2

theorem tidy_plain {v : Value} (unmapped : ∀ entries, v ≠ .map entries) (unlisted : ∀ items, v ≠ .list items)
    (formed : Formed v) : Tidy v where
  distinct := fun entries below => absurd (below_plain _ _ unmapped unlisted below).symm (unmapped entries)
  formed := formed

theorem tidy_text (s : String) : Tidy (.str s) :=
  tidy_plain (by simp) (by simp) trivial

theorem tidy_list {items : List Value} (each : ∀ v ∈ items, Tidy v) : Tidy (.list items) where
  distinct := by
    intro entries below
    rcases (below_list_iff ..).mp below with same | ⟨v, member, inner⟩
    · cases same
    · exact (each v member).distinct entries inner
  formed := (formed_items_iff items).mpr fun v member => (each v member).formed

theorem tidy_map {entries : Entries} (tidy : TidyEntries entries) : Tidy (.map entries) where
  distinct := by
    intro others below
    rcases (below_map_iff ..).mp below with same | ⟨e, member, inner⟩
    · cases same
      exact tidy.distinct
    · exact (tidy.values e member).distinct others inner
  formed := by
    refine (formed_entries_iff entries).mpr fun e member => ⟨?_, (tidy.values e member).formed⟩
    obtain ⟨name, same⟩ := tidy.named e.1 (List.mem_map_of_mem member)
    exact ⟨name, by rw [same, keyText]⟩

theorem tidy_nil : TidyEntries [] where
  distinct := List.nodup_nil
  named := by simp [Entries.names]
  values := by simp

theorem tidy_put {entries : Entries} {v : Value} (name : String) (tidy : TidyEntries entries) (also : Tidy v) :
    TidyEntries (entries.put (.str name) v) where
  distinct := Entries.put_distinct name v tidy.distinct
  named := by
    intro key member
    rcases Entries.put_names entries name v with same | ⟨-, last⟩
    · exact tidy.named key (same ▸ member)
    · rw [last] at member
      rcases List.mem_append.mp member with before | here
      · exact tidy.named key before
      · exact ⟨name, List.mem_singleton.mp here⟩
  values := by
    intro e member
    rcases Entries.mem_put member with same | ⟨k, inside⟩
    · exact same ▸ also
    · exact tidy.values (k, e.2) inside

theorem read_unsigned_tidy {negative : Bool} {cs rest : List Char} {v : Value}
    (success : readUnsigned negative cs = some (.ok (v, rest))) : Tidy v := by
  have digit := whole_digits_are_digits cs
  unfold readUnsigned at success
  split at success
  · cases success
  · next whole tail _ split =>
      rw [split] at digit
      simp only at success
      split at success
      · split at success
        · cases success
        · next few =>
            cases success
            refine tidy_plain (by simp) (by simp) ?_
            exact signed_readable negative (Nat.lt_of_lt_of_le (nat_of_bound digit)
              (Nat.pow_le_pow_right (by decide) (by omega)))
      · cases success
        exact tidy_plain (by simp) (by simp) trivial

theorem read_name_tidy {cs rest : List Char} {v : Value} (named : readName cs = some (v, rest)) : Tidy v := by
  obtain ⟨e, member, found⟩ := List.exists_of_findSome?_eq_some named
  split at found
  · cases found
    simp only [names, List.mem_cons, List.not_mem_nil, or_false] at member
    rcases member with rfl | rfl | rfl | rfl | rfl | rfl <;> exact tidy_plain (by simp) (by simp) trivial
  · cases found

theorem read_scalar_tidy {cs rest : List Char} {v : Value} (success : readScalar cs = .ok (v, rest)) : Tidy v := by
  unfold readScalar at success
  split at success
  · next named =>
      cases success
      exact read_name_tidy named
  · simp only at success
    split at success
    · next result number =>
        subst success
        split at number
        · exact read_unsigned_tidy number
        · exact read_unsigned_tidy number
    · cases success

mutual

theorem read_value_tidy : (budget : Nat) → (cs : List Char) → {v : Value} → {rest : List Char} →
    readValue budget cs = .ok (v, rest) → Tidy v
  | 0, cs, v, rest, success => by cases success
  | budget + 1, cs, v, rest, success => by
      unfold readValue at success
      split at success
      · split at success
        · cases success
        · cases success
          exact tidy_text _
      · split at success
        · cases success
          exact tidy_list (by simp)
        · split at success
          · cases success
          · next read =>
              cases success
              exact tidy_list (read_items_tidy budget _ read)
      · split at success
        · cases success
          exact tidy_map tidy_nil
        · split at success
          · cases success
          · next read =>
              cases success
              exact tidy_map (read_members_tidy budget [] _ tidy_nil read)
      · exact read_scalar_tidy success

theorem read_items_tidy : (budget : Nat) → (cs : List Char) → {items : List Value} → {rest : List Char} →
    readItems budget cs = .ok (items, rest) → ∀ v ∈ items, Tidy v
  | 0, cs, items, rest, success => by cases success
  | budget + 1, cs, items, rest, success => by
      unfold readItems at success
      split at success
      · cases success
      · next v tail read =>
          have first := read_value_tidy budget cs read
          split at success
          · cases success
            simpa using first
          · split at success
            · cases success
            · next more last others =>
                cases success
                exact List.forall_mem_cons.mpr ⟨first, read_items_tidy budget _ others⟩
          · cases success

theorem read_members_tidy : (budget : Nat) → (entries : Entries) → (cs : List Char) → {members : Entries} →
    {rest : List Char} → TidyEntries entries → readMembers budget entries cs = .ok (members, rest) →
    TidyEntries members
  | 0, entries, cs, members, rest, tidy, success => by cases success
  | budget + 1, entries, cs, members, rest, tidy, success => by
      unfold readMembers at success
      split at success
      · split at success
        · cases success
        · next name _ _ =>
            split at success
            · split at success
              · cases success
              · next v _ read =>
                  have more := tidy_put name tidy (read_value_tidy budget _ read)
                  simp only at success
                  split at success
                  · cases success
                    exact more
                  · exact read_members_tidy budget _ _ more success
                  · cases success
            · cases success
      · cases success

end

theorem read_tidy {text : String} {v : Value} (success : read text = .ok v) : Tidy v := by
  unfold read readDocument at success
  split at success
  · cases success
  · split at success
    · cases success
    · next value _ first =>
        split at success
        · cases success
          exact read_value_tidy _ _ first
        · cases success

end Json

end ApiStubs
