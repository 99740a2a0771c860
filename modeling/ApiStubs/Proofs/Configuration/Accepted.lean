import ApiStubs.Proofs.Configuration.Change
import ApiStubs.Proofs.StatusText

/- Which texts are accepted for a key. A change goes well just when the text can be converted and the check of the
   field takes what it is converted to, and neither depends on the value that the field has. Only the seed is read by
   another grammar when there is one than when there is none; where both grammars read a text they read one number. -/

set_option autoImplicit false

namespace ApiStubs

open ApiStubs.Decimal ApiStubs.Text

theorem Text.join_split (separator : Char) (cs : List Char) :
    [separator].intercalate (splitOn separator cs) = cs := by
  induction cs with
  | nil => rfl
  | cons c rest ih =>
      obtain ⟨part, parts, split⟩ : ∃ part parts, splitOn separator rest = part :: parts := by
        cases split : splitOn separator rest with
        | nil => simpa [split] using split_on_length separator rest
        | cons part parts => exact ⟨part, parts, rfl⟩
      rw [split, intercalate_led] at ih
      by_cases same : c = separator
      · rw [splitOn, if_pos same, split, intercalate_led, List.flatMap_cons, List.cons_append, ih, same]
        rfl
      · simp only [splitOn, if_neg same, split, intercalate_led, List.cons_append, ih]

namespace Check

theorem drop_zero_places_free {cs : List Char} (free : '.' ∉ cs) : dropZeroPlaces cs = cs := by
  have nothing : cs.dropWhile (· != '.') = [] := by
    rw [List.dropWhile_eq_nil_iff]
    exact fun c member => by simpa using fun same : c = '.' => free (same ▸ member)
  simp only [dropZeroPlaces, nothing]

-- A number that has places is read by one grammar only.
theorem grammars_agree {text : String} {m n : Int} (integer : integer? text = some m)
    (whole : wholeNumber text = .ok n) : m = n := by
  simp only [integer?, readInteger] at integer
  simp only [wholeNumber] at whole
  cases signed : splitSign (trim isNumberBlank text.toList) with
  | mk negative rest =>
      simp only [signed] at integer whole
      obtain ⟨magnitude, read, rfl⟩ := Option.map_eq_some_iff.mp integer
      have plain : '.' ∉ rest := magnitude_free rfl (by decide) ((read_magnitude_iff _ _).mp read)
      simp only [drop_zero_places_free plain, read] at whole
      split at whole
      · cases whole
      · split at whole
        · exact Except.ok.inj whole
        · cases whole

end Check

namespace Settings

open Check

def written : Value → String
  | .str s => s
  | _ => ""

def number : Value → Int
  | .int n => n
  | _ => 0

def numberOrNone : Value → Option Int
  | .int n => some n
  | _ => none

def ofFields (value : Field → Value) : Settings where
  headerPlaceholder := written (value .headerPlaceholder)
  parameterPlaceholderStem := written (value .parameterPlaceholderStem)
  errorIdentifierHeader := written (value .errorIdentifierHeader)
  errorStatusThreshold := number (value .errorStatusThreshold)
  defaultStatus := number (value .defaultStatus)
  maxReferenceDepth := number (value .maxReferenceDepth)
  maxSchemaDepth := number (value .maxSchemaDepth)
  arrayCardinality := number (value .arrayCardinality)
  mediaType := written (value .mediaType)
  locale := written (value .locale)
  seed := numberOrNone (value .seed)
  dateFormat := written (value .dateFormat)
  dateTimeFormat := written (value .dateTimeFormat)

-- The values that pass the checks of the fields are those of settings.
theorem of_fields_value {value : Field → Value} (passes : ∀ f : Field, ∃ v, f.kind.check v = .ok (value f))
    (f : Field) :
    f.valueIn (ofFields value) = value f := by
  obtain ⟨v, checked⟩ := passes f
  cases f with
  | seed =>
      obtain ⟨n, -, same⟩ := (except_map_ok ..).mp checked
      cases n <;> simp [Field.valueIn, ofFields, ← same, optionalInt, numberOrNone]
  | errorStatusThreshold | defaultStatus | maxReferenceDepth | maxSchemaDepth | arrayCardinality =>
      obtain ⟨n, -, same⟩ := (except_map_ok ..).mp checked
      simp only [Field.valueIn, ofFields, ← same, number]
  | _ =>
      obtain ⟨s, -, same⟩ := (except_map_ok ..).mp checked
      simp only [Field.valueIn, ofFields, ← same, written]

end Settings

namespace Config

open Check

theorem of_entries_complete {entries : Entries} {value : Field → Value}
    (generator : (partOf? entries "generator").isSome = true) (output : (partOf? entries "output").isSome = true)
    (passes : ∀ field : Field, field.check ((field.writtenIn entries).getD (field.valueIn {})) = .ok (value field)) :
    ∃ c, ofEntries entries = .ok c ∧ ∀ field : Field, field.valueIn c = value field := by
  obtain ⟨format, -, same⟩ := (except_map_ok ..).mp (passes .format)
  have fields : ∀ field : Field,
      field.valueIn ⟨Settings.ofFields fun f => value (.generator f), format⟩ = value field := by
    intro field
    cases field with
    | generator f => exact Settings.of_fields_value (fun f => ⟨_, passes (.generator f)⟩) f
    | format => exact same
  exact ⟨_, (of_entries_iff entries _).mpr ⟨generator, output, fun field => fields field ▸ passes field⟩, fields⟩

theorem part_written (c : Config) (field : Field) :
    ∃ inner, c.toEntries.get? field.part = some (.map inner) ∧
      Entries.get? inner field.name = some (field.valueIn c) := by
  cases field with
  | generator f => exact ⟨c.generator.toEntries, rfl, Settings.field_written c.generator f⟩
  | format => exact ⟨_, rfl, rfl⟩

theorem part_of_written {entries : Entries} {field : Field} {v : Value} (written : field.writtenIn entries = some v) :
    (partOf? entries field.part).isSome = true := by
  unfold Field.writtenIn at written
  cases found : partOf? entries field.part with
  | none =>
      rw [found] at written
      cases written
  | some inner => rfl

end Config

namespace ConfigKey

open Config (Field Sound part_written part_of_written)

variable {key text : String} {c d : Config} {field : Field} {v w : Value}

theorem change_complete (named : names key = [field.part, field.name])
    (coerced : coerce key text (field.valueIn c) = .ok v) :
    ∃ entries, change key text c.toEntries = .ok (entries, v) := by
  obtain ⟨inner, isPart, found⟩ := part_written c field
  have last : changeAt key text [field.name] inner = .ok (Entries.put inner (.str field.name) v, v) := by
    rw [changeAt, found]
    split
    · next impossible => cases impossible
    · next other same => exact absurd (Option.some.inj same) (value_unmapped c field other)
    · next current _ same =>
      obtain rfl := Option.some.inj same
      simp only [coerced]
  refine ⟨c.toEntries.put (.str field.part) (.map (Entries.put inner (.str field.name) v)), ?_⟩
  rw [change, named, changeAt]
  · simp only [isPart, last]
  · simp

theorem set_complete (sound : Sound c) (named : names key = [field.part, field.name])
    (coerced : coerce key text (field.valueIn c) = .ok v) (checked : field.check v = .ok w) :
    ∃ changed, set key text c = .ok (changed, v) ∧ Changes key text c field v changed ∧ field.valueIn changed = w := by
  obtain ⟨entries, success⟩ := change_complete named coerced
  obtain ⟨own, same, -, -, written⟩ := returns_result (change_returns key text c) success
  obtain ⟨part, name⟩ : field.part = own.part ∧ field.name = own.name := by simpa [named] using same
  obtain rfl := field_of_part_name part name
  have parts (other : Field) := part_of_written (written other)
  let value (other : Field) : Value := if other = field then w else other.valueIn c
  have passes (other : Field) :
      other.check ((other.writtenIn entries).getD (other.valueIn {})) = .ok (value other) := by
    rw [written other, Option.getD_some]
    by_cases here : other = field
    · simp only [value, if_pos here]
      exact here ▸ checked
    · simp only [value, if_neg here, sound.checked other]
  obtain ⟨changed, read, fields⟩ := Config.of_entries_complete (parts (.generator .seed)) (parts .format) passes
  have here : field.valueIn changed = w := by simpa [value] using fields field
  refine ⟨changed, by simp only [set, success, read], ⟨named, coerced, here ▸ checked, ?_⟩, here⟩
  exact fun other different => by simpa [value, different] using fields other

-- What is kept in a field of a configuration of a text that is given for it.
def Takes (key text : String) (c : Config) (field : Field) (w : Value) : Prop :=
  ∃ v, coerce key text (field.valueIn c) = .ok v ∧ field.check v = .ok w

theorem set_takes (sound : Sound c) {changed : Config} (success : set key text c = .ok (changed, v)) :
    Sound changed ∧ ∃ field : Field, names key = [field.part, field.name] ∧
      Takes key text c field (field.valueIn changed) ∧
      ∀ other : Field, other ≠ field → other.valueIn changed = other.valueIn c := by
  obtain ⟨after, field, changes⟩ := returns_result (set_returns key text c sound) success
  exact ⟨after, field, changes.named, ⟨v, changes.coerced, changes.checked⟩, changes.others⟩

theorem takes_set (sound : Sound c) (named : names key = [field.part, field.name]) (takes : Takes key text c field w) :
    ∃ changed v, set key text c = .ok (changed, v) ∧ field.valueIn changed = w ∧
      ∀ other : Field, other ≠ field → other.valueIn changed = other.valueIn c := by
  obtain ⟨v, coerced, checked⟩ := takes
  obtain ⟨changed, success, changes, kept⟩ := set_complete sound named coerced checked
  exact ⟨changed, v, success, kept, changes.others⟩

-- All fields but the seed have values of one kind.
theorem takes_same (other : field ≠ .generator .seed) (takes : Takes key text c field w) :
    Takes key text d field w := by
  obtain ⟨v, coerced, checked⟩ := takes
  refine ⟨v, ?_, checked⟩
  cases field with
  | format => exact coerced
  | generator f =>
      cases f with
      | seed => exact absurd rfl other
      | _ => exact coerced

theorem coerce_null (null : lower text = "null") (current : Value) : coerce key text current = .ok .null := by
  simp only [coerce, if_pos null]

theorem coerce_absent (given : lower text ≠ "null") : coerce key text .null = .ok (.str text) := by
  simp only [coerce, if_neg given]

theorem coerce_present (given : lower text ≠ "null") (m : Int) :
    coerce key text (.int m) = .ok v ↔ ∃ n, integer? text = some n ∧ v = .int n := by
  simp only [coerce, if_neg given]
  cases integer? text <;> simp [eq_comm]

theorem seed_text_check : (Settings.Kind.wholeOrNull).check (.str text) = .ok w ↔
    ∃ n, Check.wholeNumber text = .ok n ∧ w = .int n := by
  have read : Check.orNull Check.int (.str text) = (Check.wholeNumber text).map some := rfl
  rw [Settings.Kind.check, read]
  cases Check.wholeNumber text <;> simp [Except.map, Settings.optionalInt, eq_comm]

-- The grammar of a seed is chosen by whether there is one.
def Reads (present : Bool) (text : String) (n : Int) : Prop :=
  if present then integer? text = some n else Check.wholeNumber text = .ok n

theorem takes_seed :
    Takes key text c (.generator .seed) w ↔
      lower text = "null" ∧ w = .null ∨
        lower text ≠ "null" ∧ ∃ n, Reads c.generator.seed.isSome text n ∧ w = .int n := by
  unfold Takes
  simp only [Field.valueIn, Settings.Field.valueIn, Field.check, Settings.Field.kind]
  by_cases null : lower text = "null"
  · have kept : Settings.Kind.wholeOrNull.check .null = .ok .null := rfl
    simp [coerce_null null, null, kept, eq_comm]
  · cases c.generator.seed with
    | none => simp [Settings.optionalInt, coerce_absent null, null, seed_text_check, Reads]
    | some m =>
        have kept (n : Int) : Settings.Kind.wholeOrNull.check (.int n) = .ok (.int n) := rfl
        simp only [Settings.optionalInt, coerce_present null, null, false_and, false_or, not_false_iff, true_and, ne_eq,
          Reads, Option.isSome_some, if_true]
        constructor
        · rintro ⟨_, ⟨n, read, rfl⟩, same⟩
          exact ⟨n, read, (Except.ok.inj same).symm⟩
        · rintro ⟨n, read, rfl⟩
          exact ⟨_, ⟨n, read, rfl⟩, kept n⟩

theorem reads_agree {present other : Bool} {m n : Int} (first : Reads present text m) (second : Reads other text n) :
    m = n := by
  cases present <;> cases other
  · exact Except.ok.inj (first.symm.trans second)
  · exact (Check.grammars_agree second first).symm
  · exact Check.grammars_agree first second
  · exact Option.some.inj (first.symm.trans second)

theorem reads_either {present other : Bool} {n : Int}
    (both : (integer? text).isSome = true ↔ ∃ n, Check.wholeNumber text = .ok n) (read : Reads present text n) :
    ∃ m, Reads other text m := by
  have integer : (integer? text).isSome = true := by
    cases present with
    | false => exact both.mpr ⟨n, read⟩
    | true => exact Option.isSome_iff_exists.mpr ⟨n, read⟩
  cases other with
  | false => exact both.mp integer
  | true => exact Option.isSome_iff_exists.mp integer

theorem takes_agree {u : Value} (takes : Takes key text c field w) (also : Takes key text d field u) : w = u := by
  by_cases seed : field = .generator .seed
  · subst seed
    rcases takes_seed.mp takes with ⟨null, rfl⟩ | ⟨given, m, first, rfl⟩
    · rcases takes_seed.mp also with ⟨-, rfl⟩ | ⟨given, -⟩
      · rfl
      · exact absurd null given
    · rcases takes_seed.mp also with ⟨null, -⟩ | ⟨-, n, second, rfl⟩
      · exact absurd null given
      · rw [reads_agree first second]
  · obtain ⟨v, coerced, checked⟩ := takes_same seed takes
    obtain ⟨v', same, again⟩ := also
    cases coerced.symm.trans same
    exact Except.ok.inj (checked.symm.trans again)

theorem names_seed (key : String) : names key = ["generator", "seed"] ↔ key = "generator.seed" := by
  constructor
  · intro named
    have chars := congrArg (List.map String.toList) named
    simp only [names, List.map_map, Function.comp_def, String.toList_ofList, List.map_id'] at chars
    have joined := join_split '.' key.toList
    rw [chars] at joined
    exact String.toList_inj.mp (joined.symm.trans (by decide))
  · rintro rfl
    decide

-- What is accepted once is accepted again unless it is a seed that only the check can read.
def Repeats (key text : String) : Prop :=
  key = "generator.seed" → lower text = "null" ∨ (integer? text).isSome = true

-- Both configurations have a seed, or none has, or it makes no difference.
def ReadAlike (key text : String) (c d : Config) : Prop :=
  key = "generator.seed" → c.generator.seed.isSome = d.generator.seed.isSome ∨ lower text = "null" ∨
    ((integer? text).isSome = true ↔ ∃ n, Check.wholeNumber text = .ok n)

theorem read_alike_symm (alike : ReadAlike key text c d) : ReadAlike key text d c := by
  intro seed
  rcases alike seed with same | either
  · exact .inl same.symm
  · exact .inr either

theorem field_named {other : Field} (named : names key = [field.part, field.name])
    (also : names key = [other.part, other.name]) : other = field := by
  obtain ⟨part, name⟩ : other.part = field.part ∧ other.name = field.name := by simpa [named, eq_comm] using also
  exact field_of_part_name part name

theorem seed_present {n : Int} (kept : Field.valueIn c (.generator .seed) = .int n) :
    c.generator.seed.isSome = true := by
  cases present : c.generator.seed with
  | none => simp [Field.valueIn, Settings.Field.valueIn, present, Settings.optionalInt] at kept
  | some m => rfl

theorem takes_again (named : names key = [field.part, field.name])
    (takes : Takes key text c field (field.valueIn d)) :
    (∃ w, Takes key text d field w) ↔ Repeats key text := by
  by_cases seed : field = .generator .seed
  · subst seed
    have own := (names_seed key).mp named
    rcases takes_seed.mp takes with ⟨null, -⟩ | ⟨given, n, -, kept⟩
    · exact ⟨fun _ _ => .inl null, fun _ => ⟨_, takes_seed.mpr (.inl ⟨null, rfl⟩)⟩⟩
    · have present := seed_present kept
      constructor
      · rintro ⟨w, again⟩ -
        rcases takes_seed.mp again with ⟨null, -⟩ | ⟨-, m, read, -⟩
        · exact .inl null
        · rw [Reads, if_pos present] at read
          exact .inr (Option.isSome_iff_exists.mpr ⟨m, read⟩)
      · intro repeats
        obtain ⟨m, read⟩ := Option.isSome_iff_exists.mp ((repeats own).resolve_left given)
        refine ⟨.int m, takes_seed.mpr (.inr ⟨given, m, ?_, rfl⟩)⟩
        rwa [Reads, if_pos present]
  · have other : key ≠ "generator.seed" := fun same =>
      seed (field_named ((names_seed key).mpr same) named)
    exact ⟨fun _ same => absurd same other, fun _ => ⟨_, takes_same seed takes⟩⟩

theorem takes_alike (alike : ReadAlike key text c d) (named : names key = [field.part, field.name])
    (takes : Takes key text c field w) : ∃ u, Takes key text d field u := by
  by_cases seed : field = .generator .seed
  · subst seed
    rcases takes_seed.mp takes with ⟨null, -⟩ | ⟨given, n, read, -⟩
    · exact ⟨_, takes_seed.mpr (.inl ⟨null, rfl⟩)⟩
    · have readable : ∃ m, Reads d.generator.seed.isSome text m := by
        rcases alike ((names_seed key).mp named) with same | null | both
        · exact ⟨n, same ▸ read⟩
        · exact absurd null given
        · exact reads_either both read
      obtain ⟨m, also⟩ := readable
      exact ⟨_, takes_seed.mpr (.inr ⟨given, m, also, rfl⟩)⟩
  · exact ⟨w, takes_same seed takes⟩

-- Setting a value a second time.
theorem set_again {changed : Config} (sound : Sound c) (success : set key text c = .ok (changed, v)) :
    ((∃ r, set key text changed = .ok r) ↔ Repeats key text) ∧ ∀ r, set key text changed = .ok r → r.1 = changed := by
  obtain ⟨after, field, named, takes, -⟩ := set_takes sound success
  refine ⟨⟨?_, fun repeats => ?_⟩, ?_⟩
  · rintro ⟨⟨more, u⟩, again⟩
    obtain ⟨-, other, also, taken, -⟩ := set_takes after again
    obtain rfl := field_named named also
    exact (takes_again named takes).mp ⟨_, taken⟩
  · obtain ⟨w, taken⟩ := (takes_again named takes).mpr repeats
    obtain ⟨more, u, again, -⟩ := takes_set after named taken
    exact ⟨_, again⟩
  · rintro ⟨more, u⟩ again
    obtain ⟨-, other, also, taken, others⟩ := set_takes after again
    obtain rfl := field_named named also
    refine Config.config_ext fun field => ?_
    by_cases here : field = other
    · subst here
      exact takes_agree taken takes
    · exact others field here

theorem set_alike (first : Sound c) (second : Sound d) (alike : ReadAlike key text c d)
    (success : ∃ r, set key text c = .ok r) : ∃ r, set key text d = .ok r := by
  obtain ⟨⟨changed, v⟩, done⟩ := success
  obtain ⟨-, field, named, takes, -⟩ := set_takes first done
  obtain ⟨u, taken⟩ := takes_alike alike named takes
  obtain ⟨more, w, also, -⟩ := takes_set second named taken
  exact ⟨_, also⟩

theorem set_agree {changed other : Config} {u : Value} (first : Sound c) (second : Sound d)
    (one : set key text c = .ok (changed, v)) (two : set key text d = .ok (other, u)) :
    ∃ field : Field, names key = [field.part, field.name] ∧ field.valueIn changed = field.valueIn other := by
  obtain ⟨-, field, named, takes, -⟩ := set_takes first one
  obtain ⟨-, same, also, taken, -⟩ := set_takes second two
  obtain rfl := field_named named also
  exact ⟨_, named, takes_agree takes taken⟩

end ConfigKey

end ApiStubs
