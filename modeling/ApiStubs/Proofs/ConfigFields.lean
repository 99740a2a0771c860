import ApiStubs.Proofs.Below
import ApiStubs.Proofs.Entries
import ApiStubs.Proofs.Fields
import ApiStubs.Proofs.Returns

/- The fields of a configuration. Each has a name, a kind of value that it takes, and a value in every configuration.
   A configuration is read field by field: what is given for a field has to pass the check of its kind, and what is
   not given is the default. -/

set_option autoImplicit false

namespace ApiStubs

namespace Check

theorem under_ok {α : Type} (name : String) (field : Checked α) (a : α) :
    under name field = .ok a ↔ field = .ok a := by
  cases field <;> simp [under]

theorem both_ok {α β : Type} (first : Checked α) (second : Checked β) (a : α) (b : β) :
    both first second = .ok (a, b) ↔ first = .ok a ∧ second = .ok b := by
  cases first <;> cases second <;> simp [both]

theorem at_least_ok (least : Int) (v : Value) (n : Int) :
    atLeast least v = .ok n ↔ Check.int v = .ok n ∧ least ≤ n := by
  unfold atLeast
  cases Check.int v with
  | error found => simp
  | ok m =>
      by_cases enough : least ≤ m
      · simp only [if_pos enough, Except.ok.injEq]
        exact ⟨fun same => ⟨same, same ▸ enough⟩, And.left⟩
      · simp only [if_neg enough, refuse, reduceCtorEq, Except.ok.injEq, false_iff]
        rintro ⟨rfl, bound⟩
        exact enough bound

theorem at_least_passes {least n : Int} (enough : least ≤ n) : atLeast least (.int n) = .ok n :=
  (at_least_ok least (.int n) n).mpr ⟨rfl, enough⟩

-- A default that passes the check of its field stands for the value that is not there.
theorem optional_read {α : Type} {check : Value → Checked α} (form : α → Value) {absent : α}
    (passes : check (form absent) = .ok absent) (injective : ∀ a b, form a = form b → a = b) (entries : Entries)
    (name : String) (a : α) :
    Check.optional entries name absent check = .ok a ↔
      (check ((entries.get? name).getD (form absent))).map form = .ok (form a) := by
  have kept (result : Checked α) : result.map form = .ok (form a) ↔ result = .ok a := by
    rw [except_map_ok]
    constructor
    · rintro ⟨b, rfl, same⟩
      rw [injective b a same]
    · rintro rfl
      exact ⟨a, rfl, rfl⟩
  rw [Check.optional, kept]
  cases entries.get? name with
  | none => simp [passes]
  | some v => exact under_ok name (check v) a

end Check

namespace Settings

open Check

-- What a field takes: a text, a whole number, one that is not too small, or one that may be left empty.
inductive Kind where
  | text
  | whole
  | atLeast (least : Int)
  | wholeOrNull
deriving DecidableEq

-- What a value is kept as in a field of a kind.
def Kind.check : Kind → Value → Checked Value
  | .text, v => (Check.text v).map .str
  | .whole, v => (Check.int v).map .int
  | .atLeast least, v => (Check.atLeast least v).map .int
  | .wholeOrNull, v => (Check.orNull Check.int v).map optionalInt

inductive Field where
  | headerPlaceholder
  | parameterPlaceholderStem
  | errorIdentifierHeader
  | errorStatusThreshold
  | defaultStatus
  | maxReferenceDepth
  | maxSchemaDepth
  | arrayCardinality
  | mediaType
  | locale
  | seed
  | dateFormat
  | dateTimeFormat
deriving DecidableEq

namespace Field

def name : Field → String
  | headerPlaceholder => "header_placeholder"
  | parameterPlaceholderStem => "parameter_placeholder_prefix"
  | errorIdentifierHeader => "error_identifier_header"
  | errorStatusThreshold => "error_status_threshold"
  | defaultStatus => "default_status"
  | maxReferenceDepth => "max_reference_depth"
  | maxSchemaDepth => "max_schema_depth"
  | arrayCardinality => "array_cardinality"
  | mediaType => "media_type"
  | locale => "locale"
  | seed => "seed"
  | dateFormat => "date_format"
  | dateTimeFormat => "datetime_format"

def kind : Field → Kind
  | errorStatusThreshold | defaultStatus => .whole
  | maxReferenceDepth | maxSchemaDepth => .atLeast 1
  | arrayCardinality => .atLeast 0
  | seed => .wholeOrNull
  | _ => .text

def valueIn (s : Settings) : Field → Value
  | headerPlaceholder => .str s.headerPlaceholder
  | parameterPlaceholderStem => .str s.parameterPlaceholderStem
  | errorIdentifierHeader => .str s.errorIdentifierHeader
  | errorStatusThreshold => .int s.errorStatusThreshold
  | defaultStatus => .int s.defaultStatus
  | maxReferenceDepth => .int s.maxReferenceDepth
  | maxSchemaDepth => .int s.maxSchemaDepth
  | arrayCardinality => .int s.arrayCardinality
  | mediaType => .str s.mediaType
  | locale => .str s.locale
  | seed => optionalInt s.seed
  | dateFormat => .str s.dateFormat
  | dateTimeFormat => .str s.dateTimeFormat

def all : List Field :=
  [headerPlaceholder, parameterPlaceholderStem, errorIdentifierHeader, errorStatusThreshold, defaultStatus,
   maxReferenceDepth, maxSchemaDepth, arrayCardinality, mediaType, locale, seed, dateFormat, dateTimeFormat]

theorem mem_all (f : Field) : f ∈ all := by
  cases f <;> decide

theorem all_iff (holds : Field → Prop) : (∀ f, holds f) ↔ ∀ f ∈ all, holds f :=
  ⟨fun each f _ => each f, fun each f => each f (mem_all f)⟩

theorem name_injective {f g : Field} (same : f.name = g.name) : f = g := by
  have distinct : (all.map name).Nodup := by decide +kernel
  exact List.inj_on_of_nodup_map distinct (mem_all f) (mem_all g) same

end Field

theorem optional_int_injective (a b : Option Int) (same : optionalInt a = optionalInt b) : a = b := by
  cases a <;> cases b <;> simp_all [optionalInt]

theorem optional_int_passes (a : Option Int) : orNull Check.int (optionalInt a) = .ok a := by
  cases a <;> rfl

theorem settings_ext {s t : Settings} (same : ∀ f : Field, f.valueIn s = f.valueIn t) : s = t := by
  have seeds := optional_int_injective _ _ (same .seed)
  rw [Field.all_iff] at same
  simp only [Field.all, List.forall_mem_cons, Field.valueIn, Value.str.injEq, Value.int.injEq] at same
  cases s
  cases t
  simp_all

section

variable (entries : Entries) (name : String)

theorem text_read (absent s : String) :
    Check.optional entries name absent Check.text = .ok s ↔
      Kind.text.check ((entries.get? name).getD (.str absent)) = .ok (.str s) :=
  optional_read .str rfl (fun _ _ same => Value.str.inj same) entries name s

theorem whole_read (absent n : Int) :
    Check.optional entries name absent Check.int = .ok n ↔
      Kind.whole.check ((entries.get? name).getD (.int absent)) = .ok (.int n) :=
  optional_read .int rfl (fun _ _ same => Value.int.inj same) entries name n

theorem at_least_read {least absent : Int} (enough : least ≤ absent) (n : Int) :
    Check.optional entries name absent (atLeast least) = .ok n ↔
      (Kind.atLeast least).check ((entries.get? name).getD (.int absent)) = .ok (.int n) :=
  optional_read .int (at_least_passes enough) (fun _ _ same => Value.int.inj same) entries name n

theorem whole_or_null_read (absent n : Option Int) :
    Check.optional entries name absent (orNull Check.int) = .ok n ↔
      Kind.wholeOrNull.check ((entries.get? name).getD (optionalInt absent)) = .ok (optionalInt n) :=
  optional_read optionalInt (optional_int_passes absent) optional_int_injective entries name n

end

-- Settings are read field by field, whatever else there is in the entries.
theorem of_entries_iff (entries : Entries) (s : Settings) :
    ofEntries entries = .ok s ↔
      ∀ f : Field, f.kind.check ((entries.get? f.name).getD (f.valueIn {})) = .ok (f.valueIn s) := by
  have depth : (1 : Int) ≤ ({} : Settings).maxReferenceDepth := by decide
  have nesting : (1 : Int) ≤ ({} : Settings).maxSchemaDepth := by decide
  have count : (0 : Int) ≤ ({} : Settings).arrayCardinality := by decide
  rw [Field.all_iff]
  cases s
  simp only [ofEntries, except_map_ok, Prod.exists, both_ok, text_read, whole_read, at_least_read _ _ depth,
    at_least_read _ _ nesting, at_least_read _ _ count, whole_or_null_read, Settings.mk.injEq, Field.all,
    List.forall_mem_cons, Field.kind, Field.name, Field.valueIn]
  constructor
  · rintro ⟨_, _, _, _, _, _, _, _, _, _, _, _, _, read,
      rfl, rfl, rfl, rfl, rfl, rfl, rfl, rfl, rfl, rfl, rfl, rfl, rfl⟩
    simpa using read
  · intro read
    refine ⟨_, _, _, _, _, _, _, _, _, _, _, _, _, ?_,
      rfl, rfl, rfl, rfl, rfl, rfl, rfl, rfl, rfl, rfl, rfl, rfl, rfl⟩
    simpa using read

theorem to_entries_fields (s : Settings) : s.toEntries = Field.all.map fun f => (.str f.name, f.valueIn s) :=
  rfl

theorem get_field (fields : List Field) (s : Settings) (f : Field) (member : f ∈ fields) :
    Entries.get? (fields.map fun f => (.str f.name, f.valueIn s)) f.name = some (f.valueIn s) := by
  induction fields with
  | nil => cases member
  | cons first rest ih =>
      rw [List.map_cons, Entries.get_cons]
      by_cases same : first = f
      · simp [same]
      · have differ : first.name ≠ f.name := fun named => same (Field.name_injective named)
        simpa [differ] using ih (List.mem_of_ne_of_mem (Ne.symm same) member)

theorem field_written (s : Settings) (f : Field) : s.toEntries.get? f.name = some (f.valueIn s) :=
  get_field Field.all s f (Field.mem_all f)

theorem written_field {s : Settings} {name : String} {v : Value} (found : s.toEntries.get? name = some v) :
    ∃ f : Field, name = f.name ∧ v = f.valueIn s := by
  have member := Pointer.entry_mem s.toEntries name v found
  rw [to_entries_fields, List.mem_map] at member
  obtain ⟨f, -, same⟩ := member
  cases same
  exact ⟨f, rfl, rfl⟩

-- What passed a check passes it again as it is.
theorem check_again {kind : Kind} {v w : Value} (passes : kind.check v = .ok w) : kind.check w = .ok w := by
  cases kind with
  | text =>
      obtain ⟨s, -, rfl⟩ := (except_map_ok ..).mp passes
      rfl
  | whole =>
      obtain ⟨n, -, rfl⟩ := (except_map_ok ..).mp passes
      rfl
  | atLeast least =>
      obtain ⟨n, bounded, rfl⟩ := (except_map_ok ..).mp passes
      exact (except_map_ok ..).mpr ⟨n, at_least_passes ((at_least_ok ..).mp bounded).2, rfl⟩
  | wholeOrNull =>
      obtain ⟨n, -, rfl⟩ := (except_map_ok ..).mp passes
      exact (except_map_ok ..).mpr ⟨n, optional_int_passes n, rfl⟩

theorem number_or_null_read {v : Value} {n : Int} (read : orNull Check.int v = .ok (some n)) : Check.int v = .ok n := by
  unfold orNull at read
  split at read
  · cases read
  · obtain ⟨m, number, same⟩ := (except_map_ok ..).mp read
    cases same
    exact number

-- A field that keeps a whole number keeps the one that is read from what is given.
theorem number_read {kind : Kind} {v : Value} {n : Int} (passes : kind.check v = .ok (.int n)) :
    Check.int v = .ok n := by
  cases kind with
  | text =>
      obtain ⟨s, -, same⟩ := (except_map_ok ..).mp passes
      cases same
  | whole =>
      obtain ⟨m, read, same⟩ := (except_map_ok ..).mp passes
      cases same
      exact read
  | atLeast least =>
      obtain ⟨m, read, same⟩ := (except_map_ok ..).mp passes
      cases same
      exact ((at_least_ok ..).mp read).1
  | wholeOrNull =>
      obtain ⟨m, read, same⟩ := (except_map_ok ..).mp passes
      cases m with
      | none => cases same
      | some m =>
          cases same
          exact number_or_null_read read

theorem at_least_own {least n : Int} {w : Value} (passes : (Kind.atLeast least).check (.int n) = .ok w) :
    w = .int n := by
  obtain ⟨m, bounded, rfl⟩ := (except_map_ok ..).mp passes
  cases ((at_least_ok ..).mp bounded).1
  rfl

-- The values of settings are of the kinds of their fields, so that a check can only find them too small.
theorem own_check {s : Settings} {f : Field} {w : Value} (passes : f.kind.check (f.valueIn s) = .ok w) :
    w = f.valueIn s := by
  cases f with
  | maxReferenceDepth | maxSchemaDepth | arrayCardinality => exact at_least_own passes
  | seed =>
      obtain ⟨n, read, rfl⟩ := (except_map_ok ..).mp passes
      cases (optional_int_passes s.seed).symm.trans read
      rfl
  | _ =>
      cases passes
      rfl

theorem read_again {entries : Entries} {s : Settings} (read : ofEntries entries = .ok s) (f : Field) :
    f.kind.check (f.valueIn s) = .ok (f.valueIn s) :=
  check_again ((of_entries_iff entries s).mp read f)

theorem bounded_of_check {least n : Int} {v : Value} (passes : (Kind.atLeast least).check v = .ok (.int n)) :
    least ≤ n := by
  obtain ⟨m, bounded, same⟩ := (except_map_ok ..).mp passes
  cases same
  exact ((at_least_ok ..).mp bounded).2

-- Settings whose numbers are large enough.
structure Bounded (s : Settings) : Prop where
  reference : 1 ≤ s.maxReferenceDepth
  nesting : 1 ≤ s.maxSchemaDepth
  count : 0 ≤ s.arrayCardinality

theorem read_bounded {entries : Entries} {s : Settings} (read : ofEntries entries = .ok s) : s.Bounded where
  reference := bounded_of_check (read_again read .maxReferenceDepth)
  nesting := bounded_of_check (read_again read .maxSchemaDepth)
  count := bounded_of_check (read_again read .arrayCardinality)

end Settings

namespace Config

open Check

-- The values of a configuration that have a name: the settings, and the format of the output.
inductive Field where
  | generator (f : Settings.Field)
  | format
deriving DecidableEq

namespace Field

def part : Field → String
  | generator _ => "generator"
  | format => "output"

def name : Field → String
  | generator f => f.name
  | format => "format"

def check : Field → Value → Checked Value
  | generator f, v => f.kind.check v
  | format, v => (OutputFormat.ofValue v).map fun format => .str format.name

def valueIn (c : Config) : Field → Value
  | generator f => f.valueIn c.generator
  | format => .str c.format.name

end Field

-- The mapping under a name; nothing there is an empty one.
def partOf? (entries : Entries) (name : String) : Option Entries :=
  match entries.get? name with
  | none => some []
  | some (.map inner) => some inner
  | some _ => none

-- What is written for a field in a configuration or a part of one.
def Field.writtenIn (entries : Entries) (field : Field) : Option Value :=
  ((partOf? entries field.part).getD []).get? field.name

theorem format_name_injective {f g : OutputFormat} (same : f.name = g.name) : f = g := by
  cases f <;> cases g <;> first | rfl | simp [OutputFormat.name] at same

theorem format_passes (f : OutputFormat) : OutputFormat.ofValue (.str f.name) = .ok f := by
  cases f <;> rfl

-- A configuration has nothing but its fields.
theorem config_ext {c d : Config} (same : ∀ field : Field, field.valueIn c = field.valueIn d) : c = d := by
  have generator : c.generator = d.generator := Settings.settings_ext fun f => same (.generator f)
  have format : c.format = d.format := format_name_injective (Value.str.inj (same .format))
  cases c
  cases d
  simp_all

theorem part_read {α : Type} (check : Entries → Checked α) {absent : α} (empty : check [] = .ok absent)
    (entries : Entries) (name : String) (a : α) :
    Check.optional entries name absent (model check) = .ok a ↔
      ∃ inner, partOf? entries name = some inner ∧ check inner = .ok a := by
  unfold Check.optional partOf?
  cases found : entries.get? name with
  | none => simp [empty]
  | some v =>
      rw [under_ok]
      cases v <;> simp [model, refuse]

theorem format_read (entries : Entries) (f : OutputFormat) :
    Check.optional entries "format" .auto OutputFormat.ofValue = .ok f ↔
      Field.format.check ((entries.get? "format").getD (.str "auto")) = .ok (.str f.name) :=
  optional_read (fun f => .str f.name) rfl
    (fun _ _ same => format_name_injective (Value.str.inj same)) entries "format" f

-- A configuration has two parts, and is read field by field.
theorem of_entries_iff (entries : Entries) (c : Config) :
    ofEntries entries = .ok c ↔
      (partOf? entries "generator").isSome ∧ (partOf? entries "output").isSome ∧
        ∀ field : Field, field.check ((field.writtenIn entries).getD (field.valueIn {})) = .ok (field.valueIn c) := by
  have nothing : Settings.ofEntries [] = .ok {} := rfl
  have generator := part_read Settings.ofEntries nothing entries "generator" c.generator
  have output := part_read (fun output => Check.optional output "format" .auto OutputFormat.ofValue)
    rfl entries "output" c.format
  have whole : ofEntries entries = .ok c ↔
      Check.optional entries "generator" {} Settings.ofValue = .ok c.generator ∧
        Check.optional entries "output" .auto (model fun output =>
          Check.optional output "format" .auto OutputFormat.ofValue) = .ok c.format := by
    cases c
    simp [ofEntries, except_map_ok, both_ok]
  rw [whole, Settings.ofValue, generator, output]
  constructor
  · rintro ⟨⟨inner, isPart, settings⟩, ⟨other, isOther, format⟩⟩
    refine ⟨by simp [isPart], by simp [isOther], fun field => ?_⟩
    cases field with
    | generator f =>
      rw [Field.writtenIn, Field.part, isPart]
      exact (Settings.of_entries_iff inner c.generator).mp settings f
    | format =>
      rw [Field.writtenIn, Field.part, isOther]
      exact (format_read other c.format).mp format
  · rintro ⟨isPart, isOther, fields⟩
    obtain ⟨inner, isPart⟩ := Option.isSome_iff_exists.mp isPart
    obtain ⟨other, isOther⟩ := Option.isSome_iff_exists.mp isOther
    refine ⟨⟨inner, isPart, ?_⟩, ⟨other, isOther, ?_⟩⟩
    · refine (Settings.of_entries_iff inner c.generator).mpr fun f => ?_
      have read := fields (.generator f)
      rwa [Field.writtenIn, Field.part, isPart] at read
    · refine (format_read other c.format).mpr ?_
      have read := fields .format
      rwa [Field.writtenIn, Field.part, isOther] at read

theorem field_written (c : Config) (field : Field) : field.writtenIn c.toEntries = some (field.valueIn c) := by
  cases field with
  | generator f => exact Settings.field_written c.generator f
  | format => rfl

end Config

end ApiStubs
