import ApiStubs.Proofs.Schema.Unfolding

/- Values that conform to a schema. What is drawn for a schema conforms to it, whatever the settings and however
   often the generator has been drawn from. -/

set_option autoImplicit false

namespace ApiStubs.Schema

def AsksIdentifier (schema : Entries) : Prop :=
  schema.get "format" = .str "uuid"

def AsksDate (schema : Entries) : Prop :=
  HasType schema (.str "date") ∨ schema.get "format" = .str "date"

def AsksDateTime (schema : Entries) : Prop :=
  ∃ name ∈ ["datetime", "date-time"], HasType schema (.str name) ∨ schema.get "format" = .str name

def AsksNoForm (schema : Entries) : Prop :=
  ¬ AsksIdentifier schema ∧ ¬ AsksDate schema ∧ ¬ AsksDateTime schema

-- The forms stand before the plain types.
inductive Asks (schema : Entries) : Kind → Prop where
  | identifier (asks : AsksIdentifier schema) : Asks schema .identifier
  | date (other : ¬ AsksIdentifier schema) (asks : AsksDate schema) : Asks schema .date
  | dateTime (other : ¬ AsksIdentifier schema) (day : ¬ AsksDate schema) (asks : AsksDateTime schema) :
      Asks schema .dateTime
  | sentence (unformed : AsksNoForm schema) (type : HasType schema (.str "string")) : Asks schema .sentence
  | number (unformed : AsksNoForm schema)
      (type : HasType schema (.str "integer") ∨ HasType schema (.str "number")) : Asks schema .number
  | truth (unformed : AsksNoForm schema) (type : HasType schema (.str "boolean")) : Asks schema .truth
  | nothing (unformed : AsksNoForm schema)
      (unknown : ∀ name ∈ ["string", "integer", "number", "boolean"], ¬ HasType schema (.str name)) :
      Asks schema .nothing

inductive Kind.Drawn (settings : Settings) : Kind → Value → Prop where
  | identifier (g : Generator) : Drawn settings .identifier (.str g.identifier)
  | date (g : Generator) : Drawn settings .date (.str (g.momentText settings.dateFormat))
  | dateTime (g : Generator) : Drawn settings .dateTime (.str (g.momentText settings.dateTimeFormat))
  | sentence (g : Generator) : Drawn settings .sentence (.str g.sentence)
  | number {n : Int} (least : 0 ≤ n) (most : n ≤ 10000) : Drawn settings .number (.int n)
  | truth (b : Bool) : Drawn settings .truth (.bool b)
  | nothing : Drawn settings .nothing .null

section

variable (settings : Settings) (document : Value)

mutual

inductive Conforms : Value → Value → Prop where
  | plain {schema : Value} (plain : ∀ entries, schema ≠ .map entries) : Conforms schema .null
  | reference {schema : Entries} {pointer target v : Value} (points : schema.get? "$ref" = some pointer)
      (found : Value.resolve document settings.maxReferenceDepth 0 pointer = .ok target)
      (conforms : Conforms target v) : Conforms (.map schema) v
  | object {schema properties entries : Entries} (inline : schema.get? "$ref" = none) (object : IsObject schema)
      (declares : Declares schema properties) (each : ConformsEach properties entries) :
      Conforms (.map schema) (.map entries)
  | array {schema : Entries} {items : List Value} (inline : schema.get? "$ref" = none) (array : IsArray schema)
      (count : items.length = settings.arrayCardinality.toNat)
      (each : ∀ v ∈ items, Conforms (itemsOf schema) v) : Conforms (.map schema) (.list items)
  | member {schema : Entries} {members : List Value} {v : Value} (inline : schema.get? "$ref" = none)
      (object : ¬ IsObject schema) (array : ¬ IsArray schema) (listed : schema.get "enum" = .list members)
      (member : v ∈ members) : Conforms (.map schema) v
  | drawn {schema : Entries} {kind : Kind} {v : Value} (inline : schema.get? "$ref" = none)
      (object : ¬ IsObject schema) (array : ¬ IsArray schema)
      (unlisted : schema.get "enum" = .null ∨ schema.get "enum" = .list []) (asks : Asks schema kind)
      (drawn : kind.Drawn settings v) : Conforms (.map schema) v

-- The same names in the same order; an example that a property declares stands for it as it is.
inductive ConformsEach : Entries → Entries → Prop where
  | nil : ConformsEach [] []
  | declared {name property v : Value} {properties entries : Entries} (declared : exampleOf property = some v)
      (rest : ConformsEach properties entries) :
      ConformsEach ((name, property) :: properties) ((name, v) :: entries)
  | conforming {name property v : Value} {properties entries : Entries} (undeclared : exampleOf property = none)
      (conforms : Conforms property v) (rest : ConformsEach properties entries) :
      ConformsEach ((name, property) :: properties) ((name, v) :: entries)

end

end

theorem date_test_iff (schema : Entries) :
    (typeOf schema == .str "date" || schema.get "format" == .str "date") = true ↔ AsksDate schema := by
  simp [AsksDate, has_type_iff]

theorem date_time_test_iff (schema : Entries) :
    ([Value.str "datetime", .str "date-time"].contains (typeOf schema) ||
      [Value.str "datetime", .str "date-time"].contains (schema.get "format")) = true ↔ AsksDateTime schema := by
  simp only [AsksDateTime, has_type_iff, List.contains_cons, List.contains_nil, Bool.or_eq_true, beq_iff_eq,
    List.mem_cons, List.not_mem_nil, or_false, exists_eq_or_imp, exists_eq_left, Bool.false_eq_true]
  exact or_or_or_comm

theorem asks_kind_of (schema : Entries) : Asks schema (kindOf schema) := by
  simp only [kindOf]
  split
  · next asked => exact .identifier (eq_of_beq asked)
  · next other =>
    have identifier : ¬ AsksIdentifier schema := by simpa [AsksIdentifier] using other
    split
    · next asked => exact .date identifier ((date_test_iff schema).mp asked)
    · next other =>
      have date : ¬ AsksDate schema := by rwa [date_test_iff] at other
      split
      · next asked => exact .dateTime identifier date ((date_time_test_iff schema).mp asked)
      · next other =>
        have dateTime : ¬ AsksDateTime schema := by rwa [date_time_test_iff] at other
        have unformed : AsksNoForm schema := ⟨identifier, date, dateTime⟩
        split
        · next type => exact .sentence unformed ((has_type_iff ..).mpr (by simpa using type))
        · next text =>
          split
          · next type => exact .number unformed (by simpa [has_type_iff] using type)
          · next number =>
            split
            · next type => exact .truth unformed ((has_type_iff ..).mpr (by simpa using type))
            · next truth => exact .nothing unformed (by simp_all [has_type_iff])

theorem number_bounds (g : Generator) : 0 ≤ g.number 0 10000 ∧ g.number 0 10000 ≤ 10000 := by
  have least : 0 ≤ (37 * g.next) % 10001 := Int.emod_nonneg _ (by decide)
  have most : (37 * g.next) % 10001 < 10001 := Int.emod_lt_of_pos _ (by decide)
  have same : g.number 0 10000 = 0 + (37 * g.next) % 10001 := rfl
  omega

theorem kind_value_drawn (settings : Settings) (g : Generator) (kind : Kind) :
    kind.Drawn settings (kind.value settings g) := by
  cases kind with
  | identifier => exact .identifier g
  | date => exact .date g
  | dateTime => exact .dateTime g
  | sentence => exact .sentence g
  | number => exact .number (number_bounds g).1 (number_bounds g).2
  | truth => exact .truth g.coin
  | nothing => exact .nothing

theorem element_mem (g : Generator) (first : Value) (rest : List Value) : g.element first rest ∈ first :: rest := by
  have within : g.place (rest.length + 1) < (first :: rest).length := by
    have positive : ((rest.length + 1 : Nat) : Int) ≠ 0 := by omega
    have least := Int.emod_nonneg g.next positive
    have most := Int.emod_lt_of_pos g.next (show (0 : Int) < (rest.length + 1 : Nat) by omega)
    change (g.next % (rest.length + 1 : Nat)).toNat < rest.length + 1
    omega
  rw [Generator.element, List.getD_eq_getElem?_getD, List.getElem?_eq_getElem within, Option.getD_some]
  exact List.getElem_mem within

section

open Drawing

variable {settings : Settings} {document : Value}

theorem primitive_conforms (schema : Entries) (g h : Generator) (v : Value) (inline : schema.get? "$ref" = none)
    (object : ¬ IsObject schema) (array : ¬ IsArray schema)
    (listed : schema.get "enum" = .null ∨ ∃ members, schema.get "enum" = .list members)
    (drawn : primitive settings schema g = .ok (v, h)) : Conforms settings document (.map schema) v := by
  have ofKind : (schema.get "enum" = .null ∨ schema.get "enum" = .list []) →
      (schema.get "enum").isTrue = false → Conforms settings document (.map schema) v := by
    intro unlisted none
    have value : v = (kindOf schema).value settings g := by
      simp only [primitive, none, Bool.false_eq_true, if_false] at drawn
      cases kind : kindOf schema <;> simp_all [Kind.value]
    rw [value]
    exact .drawn inline object array unlisted (asks_kind_of schema) (kind_value_drawn settings g _)
  rcases listed with absent | ⟨members, listed⟩
  · exact ofKind (.inl absent) (by rw [absent]; rfl)
  · cases members with
    | nil => exact ofKind (.inr listed) (by rw [listed]; rfl)
    | cons first rest =>
        have value : v = g.element first rest := by
          simp only [primitive, listed, Value.isTrue, membersOf] at drawn
          simp_all
        rw [value]
        exact .member inline object array listed (element_mem g first rest)

theorem declared_drawn (levels : Nat) (location : String) (declared schema v : Value) (g h : Generator)
    (success : synthesizeWithin settings document levels location (some declared) schema g = .ok (v, h)) :
    v = declared := by
  cases levels with
  | zero => cases success
  | succ levels =>
      cases success
      rfl

def Answers (settings : Settings) (document : Value) (property entry : Value × Value) : Prop :=
  entry.1 = property.1 ∧ (exampleOf property.2 = some entry.2 ∨
    exampleOf property.2 = none ∧ Conforms settings document property.2 entry.2)

theorem conforms_each (properties entries : Entries)
    (answered : List.Forall₂ (Answers settings document) properties entries) :
    ConformsEach settings document properties entries := by
  induction answered with
  | nil => exact .nil
  | @cons property entry _ _ first _ ih =>
      obtain ⟨name, property⟩ := property
      obtain ⟨other, v⟩ := entry
      obtain ⟨rfl, declared | ⟨undeclared, conforms⟩⟩ := first
      · exact .declared declared ih
      · exact .conforming undeclared conforms ih

theorem property_answers (levels : Nat) (location : String) (property entry : Value × Value) (g h : Generator)
    (conforms : ∀ place v, exampleOf property.2 = none →
      synthesizeWithin settings document levels place none property.2 g = .ok (v, h) →
      Conforms settings document property.2 v)
    (drawn : drawProperty settings document levels location property g = .ok (entry, h)) :
    Answers settings document property entry := by
  obtain ⟨v, _, first, rest⟩ := bind_ok _ _ _ _ _ drawn
  cases rest
  refine ⟨rfl, ?_⟩
  cases declared : exampleOf property.2 with
  | some given =>
      rw [declared] at first
      exact .inl (congrArg some (declared_drawn _ _ _ _ _ _ _ first).symm)
  | none =>
      rw [declared] at first
      exact .inr ⟨rfl, conforms _ v declared first⟩

def ListsMembers (schema : Entries) : Prop :=
  schema.get "enum" = .null ∨ ∃ members, schema.get "enum" = .list members

def AllListed (settings : Settings) (document : Value) (start : Position) : Prop :=
  ∀ schema, Met settings document start ⟨none, .map schema⟩ → ListsMembers schema

-- It is enough that the document and the schema have no other enumerations.
theorem all_listed_of_below (settings : Settings) (document schema : Value)
    (everywhere : ∀ entries, Below document (.map entries) ∨ Below schema (.map entries) → ListsMembers entries) :
    AllListed settings document ⟨none, schema⟩ := by
  intro entries met
  rcases met_below _ _ met with found | inner | empty
  · exact everywhere entries (.inl found)
  · exact everywhere entries (.inr inner)
  · cases empty with
    | self => exact .inl rfl
    | entry member _ => cases member

def listsMembers (schema : Entries) : Bool :=
  match schema.get "enum" with
  | .null | .list _ => true
  | _ => false

theorem lists_members_of_test (schema : Entries) (passes : listsMembers schema = true) : ListsMembers schema := by
  unfold listsMembers at passes
  unfold ListsMembers
  split at passes
  · next null => exact .inl null
  · next members listed => exact .inr ⟨members, listed⟩
  · cases passes

theorem all_listed_of_test (settings : Settings) (document schema : Value)
    (passes : everyMapping listsMembers document = true) (also : everyMapping listsMembers schema = true) :
    AllListed settings document ⟨none, schema⟩ := by
  rw [every_mapping_iff] at passes also
  apply all_listed_of_below
  intro entries stands
  apply lists_members_of_test
  rcases stands with found | inner
  · exact passes entries found
  · exact also entries inner

theorem listed_below (p q : Position) (below : List Position) (listed : AllListed settings document p)
    (children : Children settings document p below) (member : q ∈ below) : AllListed settings document q :=
  fun schema met => listed schema (met_trans p q _ (.child .start children member) met)

-- What is known of the schemas one level further down, for the three forms that have them.
def SoundWithin (settings : Settings) (document : Value) (levels : Nat) : Prop :=
  ∀ location schema v g h, AllListed settings document ⟨none, schema⟩ →
    synthesizeWithin settings document levels location none schema g = .ok (v, h) →
    Conforms settings document schema v

theorem reference_conforms (levels : Nat) (location : String) (schema : Entries) (pointer v : Value) (g h : Generator)
    (deeper : SoundWithin settings document levels) (points : schema.get? "$ref" = some pointer)
    (listed : AllListed settings document ⟨none, .map schema⟩)
    (success : synthesizeWithin settings document (levels + 1) location none (.map schema) g = .ok (v, h)) :
    Conforms settings document (.map schema) v := by
  rw [synthesize_reference _ _ _ _ _ _ points, lift_bind_run] at success
  cases found : Value.resolve document settings.maxReferenceDepth 0 pointer with
  | error e =>
      rw [found] at success
      cases success
  | ok target =>
      rw [found] at success
      have inner := listed_below _ _ _ listed (.reference points found) List.mem_cons_self
      exact .reference points found (deeper _ _ _ _ _ inner success)

theorem object_conforms (levels : Nat) (location : String) (schema : Entries) (v : Value) (g h : Generator)
    (deeper : SoundWithin settings document levels) (inline : schema.get? "$ref" = none) (object : IsObject schema)
    (listed : AllListed settings document ⟨none, .map schema⟩)
    (success : synthesizeWithin settings document (levels + 1) location none (.map schema) g = .ok (v, h)) :
    Conforms settings document (.map schema) v := by
  rw [synthesize_object _ _ _ _ _ inline object, lift_bind_run] at success
  cases declared : propertiesOf schema location with
  | error e =>
      rw [declared] at success
      cases success
  | ok properties =>
      rw [declared] at success
      obtain ⟨entries, _, drawn, done⟩ := bind_ok _ _ _ _ _ success
      cases done
      have declares := (properties_of_iff schema properties location).mp declared
      refine .object inline object declares (conforms_each _ _ ?_)
      refine (map_all_ok _ _ _ _ _ drawn).imp ?_
      rintro property entry ⟨member, before, after, one⟩
      refine property_answers levels location property entry before after ?_ one
      intro place v undeclared inside
      have inner := listed_below _ _ _ listed (.object inline object declares) (List.mem_map_of_mem member)
      rw [Position.ofProperty, undeclared] at inner
      exact deeper _ _ _ _ _ inner inside

theorem array_conforms (levels : Nat) (location : String) (schema : Entries) (v : Value) (g h : Generator)
    (deeper : SoundWithin settings document levels) (inline : schema.get? "$ref" = none) (array : IsArray schema)
    (listed : AllListed settings document ⟨none, .map schema⟩)
    (success : synthesizeWithin settings document (levels + 1) location none (.map schema) g = .ok (v, h)) :
    Conforms settings document (.map schema) v := by
  rw [synthesize_array _ _ _ _ _ inline array] at success
  obtain ⟨items, _, drawn, done⟩ := bind_ok _ _ _ _ _ success
  cases done
  have each : List.Forall₂ (fun _ v => Conforms settings document (itemsOf schema) v)
      (List.replicate settings.arrayCardinality.toNat (itemsOf schema)) items := by
    refine (map_all_ok _ _ _ _ _ drawn).imp ?_
    rintro item v ⟨member, before, after, one⟩
    obtain ⟨many, rfl⟩ := List.mem_replicate.mp member
    have inner := listed_below _ _ _ listed (.array inline array) (List.mem_replicate.mpr ⟨many, rfl⟩)
    exact deeper _ _ _ _ _ inner one
  have count := each.length_eq
  rw [List.length_replicate] at count
  exact .array inline array count.symm (forall_mem_of_related each)

-- By induction on the levels that are left, one case for each form of a schema.
theorem sound_within (levels : Nat) : SoundWithin settings document levels := by
  induction levels with
  | zero =>
      intro location schema v g h listed success
      cases success
  | succ levels ih =>
      intro location schema v g h listed success
      cases schema with
      | map schema =>
          cases points : Entries.get? schema "$ref" with
          | some pointer => exact reference_conforms levels location schema pointer v g h ih points listed success
          | none =>
              by_cases object : IsObject schema
              · exact object_conforms levels location schema v g h ih points object listed success
              · by_cases array : IsArray schema
                · exact array_conforms levels location schema v g h ih points array listed success
                · rw [synthesize_primitive _ _ _ _ _ points object array] at success
                  exact primitive_conforms schema g h v points object array (listed _ .start) success
      | _ =>
          cases success
          exact .plain (fun _ same => by cases same)

end

theorem synthesize_conforms (settings : Settings) (document schema v : Value) (depth : Int) (location : String)
    (g h : Generator) (listed : AllListed settings document ⟨none, schema⟩)
    (success : synthesize settings document depth location none schema g = .ok (v, h)) :
    Conforms settings document schema v :=
  sound_within _ location schema v g h listed success

-- Pets behind a reference, with an example that is null, an enumeration and a date.
def noteSchema : Entries :=
  [(.str "type", .str "string"), (.str "example", .null)]

def sortSchema : Entries :=
  [(.str "enum", .list [.str "cat", .str "dog"])]

def bornSchema : Entries :=
  [(.str "type", .str "string"), (.str "format", .str "date")]

def petSchema : Entries :=
  [(.str "properties", .map [(.str "note", .map noteSchema), (.str "sort", .map sortSchema),
    (.str "born", .map bornSchema)])]

def toPet : Entries :=
  [(.str "$ref", .str "#/pet")]

def petList : Entries :=
  [(.str "type", .list [.str "null", .str "array"]), (.str "items", .map toPet)]

def petDocument : Value :=
  .map [(.str "pet", .map petSchema)]

def pairs : Settings :=
  { arrayCardinality := 2 }

def drawnPet (born : String) : Value :=
  .map [(.str "note", .null), (.str "sort", .str "dog"), (.str "born", .str born)]

theorem pets_listed : AllListed pairs petDocument ⟨none, .map petList⟩ :=
  all_listed_of_test pairs petDocument (.map petList) (by decide +kernel) (by decide +kernel)

theorem pets_conform :
    AllListed pairs petDocument ⟨none, .map petList⟩ ∧
      synthesize pairs petDocument 0 "#" none (.map petList) ⟨"en_US", 7⟩ =
        .ok (.list [drawnPet "2008-09-09", drawnPet "2010-11-11"], ⟨"en_US", 11⟩) ∧
      Conforms pairs petDocument (.map petList) (.list [drawnPet "2008-09-09", drawnPet "2010-11-11"]) := by
  have success : synthesize pairs petDocument 0 "#" none (.map petList) ⟨"en_US", 7⟩ =
      .ok (.list [drawnPet "2008-09-09", drawnPet "2010-11-11"], ⟨"en_US", 11⟩) :=
    to_option_some (by decide +kernel)
  exact ⟨pets_listed, success, synthesize_conforms pairs petDocument _ _ 0 "#" _ _ pets_listed success⟩

end ApiStubs.Schema
