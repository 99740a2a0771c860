import ApiStubs.ConfigKey
import ApiStubs.Proofs.Configuration.Stored

/- Changing one value of a configuration. A change that goes well is of one field, which is given the value that its
   check makes of the text; every other field keeps its value. Any other change is refused as a usage error. -/

set_option autoImplicit false

namespace ApiStubs.ConfigKey

open ApiStubs.Decimal
open Config (Durable Field Sound partOf?)

def Misused (e : Error) : Prop :=
  e.category = some .usage ∧ e.exitCode = 2

theorem coerce_returns (key text : String) (current : Value) :
    Returns (fun v => Durable v ∧ coerce key text current = .ok v) Misused (coerce key text current) := by
  refine returns_exact ?_
  unfold coerce
  split
  · exact .ok nofun
  · split
    · exact .ok nofun
    · split
      · next read =>
        refine .ok fun n same => ?_
        cases same
        exact read_integer_readable read
      · exact .error ⟨rfl, rfl⟩
    · exact .ok nofun

-- Inside a part no value is a mapping, so that only a single name leads to one.
theorem change_in_part (key text : String) {part : Entries}
    (plain : ∀ name inner, part.get? name ≠ some (.map inner)) (names : List String) :
    Returns (fun r => ∃ name current, names = [name] ∧ part.get? name = some current ∧ Durable r.2 ∧
      coerce key text current = .ok r.2 ∧ r.1 = part.put (.str name) r.2) Misused (changeAt key text names part) := by
  match names with
  | [] => exact .error ⟨rfl, rfl⟩
  | [name] =>
      rw [changeAt]
      split
      · exact .error ⟨rfl, rfl⟩
      · exact .error ⟨rfl, rfl⟩
      · next current _ found =>
        have coerced := coerce_returns key text current
        split
        · next e refused => exact .error (returns_known coerced refused)
        · next v success =>
          obtain ⟨durable, -⟩ := returns_result coerced success
          exact .ok ⟨name, current, rfl, found, durable, success, rfl⟩
  | name :: next :: rest =>
      rw [changeAt]
      · split
        · next inner found => exact absurd found (plain name inner)
        · exact .error ⟨rfl, rfl⟩
      · simp

-- What leads to a value in a written configuration are the part and the name of a field.
theorem field_of_names {c : Config} {part name : String} {inner : Entries} {v : Value}
    (isPart : c.toEntries.get? part = some (.map inner)) (found : inner.get? name = some v) :
    ∃ field : Field, part = field.part ∧ name = field.name ∧ v = field.valueIn c := by
  have member := Pointer.entry_mem _ _ _ isPart
  simp only [Config.toEntries, List.mem_cons, Prod.mk.injEq, List.not_mem_nil, or_false] at member
  rcases member with ⟨generator, settings⟩ | ⟨output, format⟩
  · cases generator
    cases settings
    obtain ⟨f, rfl, rfl⟩ := Settings.written_field found
    exact ⟨.generator f, rfl, rfl, rfl⟩
  · cases output
    cases format
    have single := Pointer.entry_mem _ _ _ found
    simp only [List.mem_singleton, Prod.mk.injEq] at single
    obtain ⟨named, rfl⟩ := single
    cases named
    exact ⟨.format, rfl, rfl, rfl⟩

theorem value_unmapped (c : Config) (field : Field) (inner : Entries) : field.valueIn c ≠ .map inner := by
  intro same
  cases field with
  | format => cases same
  | generator f =>
      cases f with
      | seed =>
          rw [Field.valueIn, Settings.Field.valueIn] at same
          cases seed : c.generator.seed <;> simp [seed, Settings.optionalInt] at same
      | _ => cases same

theorem field_of_part_name {field other : Field} (part : field.part = other.part) (name : field.name = other.name) :
    field = other := by
  cases field with
  | format =>
      cases other with
      | format => rfl
      | generator g => simp [Field.part] at part
  | generator f =>
      cases other with
      | format => simp [Field.part] at part
      | generator g => rw [Settings.Field.name_injective name]

theorem written_changed {c : Config} {field : Field} {inner : Entries}
    (isPart : c.toEntries.get? field.part = some (.map inner)) (v : Value) (other : Field) :
    other.writtenIn (c.toEntries.put (.str field.part) (.map (inner.put (.str field.name) v))) =
      some (if other = field then v else other.valueIn c) := by
  have written := Config.field_written c other
  unfold Field.writtenIn partOf? at written ⊢
  rw [Entries.get_put]
  by_cases same : field.part = other.part
  · rw [← same, isPart] at written
    simp only [same, if_true, Option.getD_some, Entries.get_put, Value.str.injEq] at written ⊢
    by_cases named : field.name = other.name
    · simp [field_of_part_name same named]
    · have different : other ≠ field := fun equal => named (equal ▸ rfl)
      rw [if_neg named, if_neg different, written]
  · have different : other ≠ field := fun equal => same (equal ▸ rfl)
    simp only [Value.str.injEq, same, if_false, different]
    exact written

-- Both entries of a configuration are mappings, so that a single name leads to no value.
theorem change_single (key text name : String) (c : Config) {good : Entries × Value → Prop} :
    Returns good Misused (changeAt key text [name] c.toEntries) := by
  rw [changeAt]
  split
  · exact .error ⟨rfl, rfl⟩
  · exact .error ⟨rfl, rfl⟩
  · next current unmapped found =>
    have member := Pointer.entry_mem _ _ _ found
    simp only [Config.toEntries, List.mem_cons, Prod.mk.injEq, List.not_mem_nil, or_false] at member
    rcases member with ⟨-, settings⟩ | ⟨-, format⟩
    · exact (unmapped _ settings).elim
    · exact (unmapped _ format).elim

-- A key names a field by its part and its name, and only the field's value is written anew.
theorem change_returns (key text : String) (c : Config) :
    Returns (fun r => ∃ field : Field, names key = [field.part, field.name] ∧ Durable r.2 ∧
      coerce key text (field.valueIn c) = .ok r.2 ∧
        ∀ other : Field, other.writtenIn r.1 = some (if other = field then r.2 else other.valueIn c)) Misused
      (change key text c.toEntries) := by
  unfold change
  match names key with
  | [] => exact .error ⟨rfl, rfl⟩
  | [name] => exact change_single key text name c
  | part :: name :: rest =>
      rw [changeAt]
      · split
        · next inner isPart =>
          have plain : ∀ name deeper, Entries.get? inner name ≠ some (.map deeper) := by
            intro name deeper found
            obtain ⟨field, -, -, same⟩ := field_of_names isPart found
            exact value_unmapped c field deeper same.symm
          have changed := change_in_part key text plain (name :: rest)
          split
          · next e refused => exact .error (returns_known changed refused)
          · next entries v success =>
            obtain ⟨last, current, only, found, durable, coerced, put⟩ := returns_result changed success
            cases only
            have put : entries = Entries.put inner (.str name) v := put
            subst put
            obtain ⟨field, rfl, rfl, rfl⟩ := field_of_names isPart found
            exact .ok ⟨field, rfl, durable, coerced, written_changed isPart v⟩
        · exact .error ⟨rfl, rfl⟩
      · simp

-- A configuration that differs in one field, and has there what the check of the field makes of a text.
structure Changes (key text : String) (c : Config) (field : Field) (v : Value) (changed : Config) : Prop where
  named : names key = [field.part, field.name]
  coerced : coerce key text (field.valueIn c) = .ok v
  checked : field.check v = .ok (field.valueIn changed)
  others : ∀ other : Field, other ≠ field → other.valueIn changed = other.valueIn c

def Refused (e : Error) : Prop :=
  Misused e ∨ ∃ found, e = .invalid found

theorem set_returns (key text : String) (c : Config) (sound : Sound c) :
    Returns (fun r => Sound r.1 ∧ ∃ field, Changes key text c field r.2 r.1) Refused (set key text c) := by
  have changes := change_returns key text c
  unfold set
  split
  · next e refused => exact .error (.inl (returns_known changes refused))
  · next entries v success =>
    obtain ⟨field, named, durable, coerced, written⟩ := returns_result changes success
    split
    · next changed read =>
      have checks := ((Config.of_entries_iff entries changed).mp read).2.2
      simp only [written, Option.getD_some] at checks
      have checked : field.check v = .ok (field.valueIn changed) := by simpa using checks field
      have others : ∀ other : Field, other ≠ field → other.valueIn changed = other.valueIn c := by
        intro other different
        have own := checks other
        rw [if_neg different] at own
        exact Field.own_check own
      refine .ok ⟨⟨fun other => ?_, fun other => ?_⟩, field, named, coerced, checked, others⟩
      · by_cases same : other = field
        · subst same
          exact Field.check_again checked
        · rw [others other same]
          exact sound.checked other
      · by_cases same : other = field
        · subst same
          exact Config.check_durable durable checked
        · rw [others other same]
          exact sound.durable other
    · exact .error (.inr ⟨_, rfl⟩)

end ApiStubs.ConfigKey
