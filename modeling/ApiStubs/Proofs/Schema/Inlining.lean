import ApiStubs.Proofs.Comparison
import ApiStubs.Proofs.Reference
import ApiStubs.Proofs.Schema.Form

/- Schemas written out. A reference in a schema may give way to the schema it leads to, at the root, at a property and
   at the items of an array. What is drawn does not show which of the two is there, except that a property shows the
   example that stands in its own schema and not one behind a reference. -/

set_option autoImplicit false

namespace ApiStubs

def Settings.withDepth (settings : Settings) (depth : Int) : Settings :=
  { settings with maxSchemaDepth := depth }

namespace Schema

section

variable (document : Value) (bound : Int) (suits : Value → Value → Prop)

-- `WrittenOut v w`: in `v` some references, itself among them, have given way to what they lead to; `w` is the
-- outcome. Of a reference that stands for a property, and of what stands there then, `suits` is asked.
mutual

inductive WrittenOut : Value → Value → Prop where
  | kept {v : Value} : WrittenOut v v
  | target {v target w : Value} (refers : v.isReference = true)
      (found : Value.resolved document bound v = .ok target) (inside : WrittenOut target w) : WrittenOut v w
  | parts {schema other : Entries} (each : PartsWrittenOut schema other) : WrittenOut (.map schema) (.map other)

inductive PartWrittenOut : Value → Value → Value → Prop where
  | kept {key v : Value} : PartWrittenOut key v v
  | properties {properties others : Entries} (each : PropertiesWrittenOut properties others) :
      PartWrittenOut (.str "properties") (.map properties) (.map others)
  | items {v w : Value} (items : WrittenOut v w) : PartWrittenOut (.str "items") v w

inductive PartsWrittenOut : Entries → Entries → Prop where
  | nil : PartsWrittenOut [] []
  | cons {key v w : Value} {schema other : Entries} (first : PartWrittenOut key v w)
      (rest : PartsWrittenOut schema other) : PartsWrittenOut ((key, v) :: schema) ((key, w) :: other)

inductive PropertiesWrittenOut : Entries → Entries → Prop where
  | nil : PropertiesWrittenOut [] []
  | cons {name v w : Value} {properties others : Entries} (first : WrittenOut v w)
      (suited : v.isReference = true → suits v w) (rest : PropertiesWrittenOut properties others) :
      PropertiesWrittenOut ((name, v) :: properties) ((name, w) :: others)

end

end

def SameExample (v w : Value) : Prop :=
  exampleOf v = exampleOf w

-- A property before and after: the same name and example, and schemas that are related.
def PropertyPair (each : Value → Value → Prop) (before after : Value × Value) : Prop :=
  before.1 = after.1 ∧ SameExample before.2 after.2 ∧ each before.2 after.2

-- Two schemas that are read alike, up to what is related one level further down.
structure ReadAlike (each : Value → Value → Prop) (schema other : Entries) : Prop where
  reference : schema.get? "$ref" = other.get? "$ref"
  object : IsObject schema ↔ IsObject other
  array : IsArray schema ↔ IsArray other
  drawn : ∀ settings g, primitive settings schema g = primitive settings other g
  properties : (∃ properties others, Declares schema properties ∧ Declares other others ∧
      List.Forall₂ (PropertyPair each) properties others) ∨
    (∀ properties, ¬ Declares schema properties) ∧ ∀ others, ¬ Declares other others
  items : each (schema.get "items") (other.get "items")

inductive Aligned (each : Value → Value → Prop) : Value → Value → Prop where
  | plain {v : Value} (plain : ∀ entries, v ≠ .map entries) : Aligned each v v
  | schema {schema other : Entries} (alike : ReadAlike each schema other) : Aligned each (.map schema) (.map other)

theorem read_alike_flip {each : Value → Value → Prop} {schema other : Entries} (alike : ReadAlike each schema other) :
    ReadAlike (flip each) other schema where
  reference := alike.reference.symm
  object := alike.object.symm
  array := alike.array.symm
  drawn := fun settings g => (alike.drawn settings g).symm
  properties := by
    rcases alike.properties with ⟨properties, others, declares, also, pairs⟩ | ⟨never, nor⟩
    · refine .inl ⟨others, properties, also, declares, pairs.flip.imp ?_⟩
      rintro before after ⟨named, example_, related⟩
      exact ⟨named.symm, example_.symm, related⟩
    · exact .inr ⟨nor, never⟩
  items := alike.items

theorem aligned_flip {each : Value → Value → Prop} {v w : Value} (aligned : Aligned each v w) :
    Aligned (flip each) w v := by
  cases aligned with
  | plain plain => exact .plain plain
  | schema alike => exact .schema (read_alike_flip alike)

section

variable {document : Value} {bound : Int} {suits : Value → Value → Prop}

theorem entries_written_out {schema other : Entries} (each : PartsWrittenOut document bound suits schema other)
    (name : String) :
    Option.Rel (PartWrittenOut document bound suits (.str name)) (schema.get? name) (other.get? name) := by
  cases each with
  | nil => exact .none
  | @cons key v w schema other first rest =>
      by_cases here : key = .str name
      · subst here
        simpa [Entries.get?] using Option.Rel.some first
      · simpa [Entries.get?, here] using entries_written_out rest name

theorem part_cases {name : String} {v w : Value} (part : PartWrittenOut document bound suits (.str name) v w) :
    v = w ∨ (name = "properties" ∧ ∃ properties others, v = .map properties ∧ w = .map others ∧
      PropertiesWrittenOut document bound suits properties others) ∨
    (name = "items" ∧ WrittenOut document bound suits v w) := by
  cases part with
  | kept => exact .inl rfl
  | properties each => exact .inr (.inl ⟨rfl, _, _, rfl, rfl, each⟩)
  | items items => exact .inr (.inr ⟨rfl, items⟩)

theorem other_part_same {schema other : Entries} (each : PartsWrittenOut document bound suits schema other)
    {name : String} (notProperties : name ≠ "properties") (notItems : name ≠ "items") :
    schema.get? name = other.get? name := by
  have found := entries_written_out each name
  generalize schema.get? name = first, other.get? name = second at found
  cases found with
  | none => rfl
  | some part =>
      rcases part_cases part with rfl | ⟨named, -⟩ | ⟨named, -⟩
      · rfl
      · exact absurd named notProperties
      · exact absurd named notItems

theorem same_example {v w : Value} (written : WrittenOut document bound suits v w) (inline : v.isReference = false) :
    SameExample v w := by
  cases written with
  | kept => rfl
  | target refers _ _ =>
      rw [refers] at inline
      cases inline
  | parts each => exact other_part_same each (by decide) (by decide)

theorem property_pairs {properties others : Entries} :
    PropertiesWrittenOut document bound SameExample properties others →
      List.Forall₂ (PropertyPair (WrittenOut document bound SameExample)) properties others
  | .nil => .nil
  | @PropertiesWrittenOut.cons _ _ _ name v w properties others first suited rest => by
      have declared : SameExample v w := by
        cases refers : v.isReference with
        | true => exact suited refers
        | false => exact same_example first refers
      exact .cons ⟨rfl, declared, first⟩ (property_pairs rest)

theorem same_properties (properties : Entries) :
    List.Forall₂ (PropertyPair (WrittenOut document bound SameExample)) properties properties :=
  List.forall₂_same.mpr fun _ _ => ⟨rfl, rfl, .kept⟩

theorem declares_read {schema other : Entries} (same : schema.get "properties" = other.get "properties")
    (properties : Entries) : Declares schema properties ↔ Declares other properties := by
  rw [Declares, Declares, same]

theorem written_out_properties {schema other : Entries}
    (each : PartsWrittenOut document bound SameExample schema other) :
    (∃ properties others, Declares schema properties ∧ Declares other others ∧
      List.Forall₂ (PropertyPair (WrittenOut document bound SameExample)) properties others) ∨
    (∀ properties, ¬ Declares schema properties) ∧ ∀ others, ¬ Declares other others := by
  have found := entries_written_out each "properties"
  by_cases same : schema.get "properties" = other.get "properties"
  · by_cases declared : ∃ properties, Declares schema properties
    · obtain ⟨properties, declares⟩ := declared
      exact .inl ⟨properties, properties, declares, (declares_read same properties).mp declares,
        same_properties properties⟩
    · rw [not_exists] at declared
      exact .inr ⟨declared, fun others declares => declared others ((declares_read same others).mpr declares)⟩
  · unfold Declares
    unfold Entries.get at same ⊢
    generalize schema.get? "properties" = first, other.get? "properties" = second at found same
    cases found with
    | none => exact absurd rfl same
    | some part =>
        rcases part_cases part with rfl | ⟨-, properties, others, rfl, rfl, each⟩ | ⟨named, -⟩
        · exact absurd rfl same
        · exact .inl ⟨properties, others, .inl rfl, .inl rfl, property_pairs each⟩
        · exact absurd named (by decide)

theorem written_out_items {schema other : Entries} (each : PartsWrittenOut document bound suits schema other) :
    WrittenOut document bound suits (schema.get "items") (other.get "items") := by
  have found := entries_written_out each "items"
  unfold Entries.get
  generalize schema.get? "items" = first, other.get? "items" = second at found
  cases found with
  | none => exact .kept
  | some part =>
      rcases part_cases part with rfl | ⟨named, -⟩ | ⟨-, items⟩
      · exact .kept
      · exact absurd named (by decide)
      · exact items

theorem written_out_read {schema other : Entries} (each : PartsWrittenOut document bound SameExample schema other) :
    ReadAlike (WrittenOut document bound SameExample) schema other := by
  have same (name : String) (notProperties : name ≠ "properties") (notItems : name ≠ "items") :
      schema.get name = other.get name := by
    rw [Entries.get, Entries.get, other_part_same each notProperties notItems]
  have typed : typeOf schema = typeOf other := by
    rw [typeOf, typeOf, same "type" (by decide) (by decide)]
  have kind : kindOf schema = kindOf other := by
    simp only [kindOf, typed, same "format" (by decide) (by decide)]
  have holds : (schema.get? "properties").isSome = (other.get? "properties").isSome := by
    have found := entries_written_out each "properties"
    generalize schema.get? "properties" = first, other.get? "properties" = second at found
    cases found <;> rfl
  refine ⟨other_part_same each (by decide) (by decide), ?_, ?_, ?_, written_out_properties each,
    written_out_items each⟩
  · simp only [IsObject, has_type_iff, typed, ← Option.isSome_iff_exists, holds]
  · simp only [IsArray, has_type_iff, typed]
  · intro settings g
    simp only [primitive, same "enum" (by decide) (by decide), kind]

theorem parts_kept (schema : Entries) : PartsWrittenOut document bound suits schema schema := by
  induction schema with
  | nil => exact .nil
  | cons e rest ih => exact .cons .kept ih

-- A reference that was kept is read like any other schema.
theorem written_out_cases {v w : Value} (written : WrittenOut document bound SameExample v w) :
    Aligned (WrittenOut document bound SameExample) v w ∨
      v.isReference = true ∧ ∃ target, Value.resolved document bound v = .ok target ∧
        WrittenOut document bound SameExample target w := by
  cases written with
  | kept =>
      cases v with
      | map schema => exact .inl (.schema (written_out_read (parts_kept schema)))
      | _ => exact .inl (.plain (fun _ same => by cases same))
  | target refers found inside => exact .inr ⟨refers, _, found, inside⟩
  | parts each => exact .inl (.schema (written_out_read each))

theorem written_out_target {v target w : Value} (found : Value.resolved document bound v = .ok target)
    (written : WrittenOut document bound SameExample target w) :
    Aligned (WrittenOut document bound SameExample) target w := by
  rcases written_out_cases written with aligned | ⟨refers, -⟩
  · exact aligned
  · rw [Reference.resolved_ok_not_reference _ _ _ _ found] at refers
    cases refers

end

-- Nothing is said of the second run where the first one fails.
def afterSuccess : Comparison where
  excused := fun _ => True
  alike := fun _ _ => True
  near := fun _ _ => True
  alike_refl := fun _ => trivial
  near_refl := fun _ => trivial
  near_extend := fun _ _ _ _ => trivial
  alike_shape := fun _ _ _ _ _ => trivial
  alike_depth := fun _ _ _ _ => trivial

section

variable (settings : Settings) (document : Value) (depth : Int) (levels others : Nat)

-- What is drawn for `v` within `levels` is drawn for `w` within `others`, the greatest depth being another one.
def DrawsAs (v w : Value) : Prop :=
  ∀ location place, afterSuccess.AgreeFrom Eq Eq (synthesizeWithin settings document levels location none v)
    (synthesizeWithin (settings.withDepth depth) document others place none w)

end

section

variable {settings : Settings} {document : Value} {depth : Int} {levels others : Nat}
  {each : Value → Value → Prop} {schema other : Entries}

theorem empty_drawn (location : String) :
    synthesizeWithin settings document (levels + 1) location none (.map []) = pure .null := by
  rw [synthesize_primitive _ _ _ _ [] rfl (by simp [← is_object_iff]; rfl) (by simp [← is_array_iff]; rfl)]
  rfl

-- An empty schema stands for items that are missing or empty, which makes no difference.
theorem items_drawn (location : String) :
    synthesizeWithin settings document levels location none (itemsOf schema) =
      synthesizeWithin settings document levels location none (schema.get "items") := by
  unfold itemsOf
  generalize schema.get "items" = items
  by_cases filled : items.isTrue = true
  · simp only [if_pos filled]
  · simp only [if_neg filled]
    cases levels with
    | zero => rfl
    | succ levels =>
        rw [empty_drawn]
        cases items with
        | map entries =>
            have none : entries = [] := by simpa [Value.isTrue] using filled
            rw [none, empty_drawn]
        | _ => rfl

theorem pair_draws {before after : Value × Value} (enough : levels ≤ others)
    (deeper : ∀ v w, each v w → DrawsAs settings document depth levels others v w)
    (pair : PropertyPair each before after) (location place : String) :
    afterSuccess.AgreeFrom Eq Eq (drawProperty settings document levels location before)
      (drawProperty (settings.withDepth depth) document others place after) := by
  obtain ⟨name, v⟩ := before
  obtain ⟨_, w⟩ := after
  obtain ⟨rfl, declared, related⟩ := pair
  have value : afterSuccess.AgreeFrom Eq Eq
      (synthesizeWithin settings document levels (propertyLocation location name) (exampleOf v) v)
      (synthesizeWithin (settings.withDepth depth) document others (propertyLocation place name) (exampleOf w) w) := by
    have same : exampleOf v = exampleOf w := declared
    rw [← same]
    cases exampleOf v with
    | none => exact deeper v w related _ _
    | some given =>
        cases levels with
        | zero => exact fun _ _ _ => .excused trivial
        | succ levels =>
            obtain ⟨others, rfl⟩ : ∃ n, others = n + 1 := ⟨others - 1, by omega⟩
            exact agree_state_pure rfl
  exact agree_state_bind value fun a b same => agree_state_pure (by rw [same])

theorem properties_draw {properties more : Entries} (enough : levels ≤ others)
    (deeper : ∀ v w, each v w → DrawsAs settings document depth levels others v w)
    (pairs : List.Forall₂ (PropertyPair each) properties more) (location place : String) :
    afterSuccess.AgreeFrom Eq Eq (properties.mapM (drawProperty settings document levels location))
      (more.mapM (drawProperty (settings.withDepth depth) document others place)) :=
  agree_state_map_all_same pairs fun _ _ pair => pair_draws enough deeper pair location place

theorem items_draw {v w : Value} (deeper : DrawsAs settings document depth levels others v w) (count : Nat)
    (location place : String) :
    afterSuccess.AgreeFrom Eq Eq
      ((List.replicate count v).mapM (synthesizeWithin settings document levels location none))
      ((List.replicate count w).mapM (synthesizeWithin (settings.withDepth depth) document others place none)) := by
  have pairs : List.Forall₂ (fun a b => a = v ∧ b = w) (List.replicate count v) (List.replicate count w) := by
    induction count with
    | zero => exact .nil
    | succ count ih => exact .cons ⟨rfl, rfl⟩ ih
  refine agree_state_map_all_same pairs ?_
  rintro _ _ ⟨rfl, rfl⟩
  exact deeper location place

theorem object_draws_alike (enough : levels ≤ others)
    (deeper : ∀ v w, each v w → DrawsAs settings document depth levels others v w)
    (alike : ReadAlike each schema other) (inline : schema.get? "$ref" = none) (object : IsObject schema) :
    DrawsAs settings document depth (levels + 1) (others + 1) (.map schema) (.map other) := by
  intro location place
  rw [synthesize_object _ _ _ _ _ inline object,
    synthesize_object _ _ _ _ _ (alike.reference ▸ inline) (alike.object.mp object)]
  rcases alike.properties with ⟨properties, more, declares, also, pairs⟩ | ⟨never, -⟩
  · rw [(properties_of_iff schema properties location).mpr declares, (properties_of_iff other more place).mpr also]
    refine agree_lift_bind (.ok pairs) fun properties more pairs => ?_
    exact agree_state_bind (properties_draw enough deeper pairs location place)
      fun a b same => agree_state_pure (by rw [same])
  · cases wrong : propertiesOf schema location with
    | ok properties => exact absurd ((properties_of_iff schema properties location).mp wrong) (never properties)
    | error e =>
        have fails : afterSuccess.Agree (fun _ _ : Entries => False) (.error e) (propertiesOf other place) :=
          .excused trivial
        exact agree_lift_bind fails fun _ _ impossible => impossible.elim

theorem array_draws_alike
    (deeper : DrawsAs settings document depth levels others (schema.get "items") (other.get "items"))
    (alike : ReadAlike each schema other) (inline : schema.get? "$ref" = none) (array : IsArray schema) :
    DrawsAs settings document depth (levels + 1) (others + 1) (.map schema) (.map other) := by
  intro location place
  rw [synthesize_array _ _ _ _ _ inline array,
    synthesize_array _ _ _ _ _ (alike.reference ▸ inline) (alike.array.mp array)]
  have items : DrawsAs settings document depth levels others (itemsOf schema) (itemsOf other) := by
    intro location place
    rw [items_drawn, items_drawn]
    exact deeper location place
  exact agree_state_bind (items_draw items _ _ _) fun a b same => agree_state_pure (by rw [same])

-- Both references lead to the same schema.
theorem reference_draws (deeper : ∀ v, DrawsAs settings document depth levels others v v)
    (alike : ReadAlike each schema other) {pointer : Value} (points : schema.get? "$ref" = some pointer) :
    DrawsAs settings document depth (levels + 1) (others + 1) (.map schema) (.map other) := by
  intro location place
  rw [synthesize_reference _ _ _ _ _ _ points, synthesize_reference _ _ _ _ _ _ (alike.reference ▸ points)]
  refine agree_lift_bind (agree_same _) ?_
  rintro target _ rfl
  exact deeper target _ _

theorem aligned_draws {v w : Value} (enough : levels ≤ others) (refl : ∀ v, each v v)
    (deeper : ∀ v w, each v w → DrawsAs settings document depth levels others v w) (aligned : Aligned each v w) :
    DrawsAs settings document depth (levels + 1) (others + 1) v w := by
  cases aligned with
  | plain plain =>
      intro location place
      rw [synthesize_plain _ _ _ _ _ plain, synthesize_plain _ _ _ _ _ plain]
      exact agree_state_pure rfl
  | @schema schema other alike =>
      cases points : schema.get? "$ref" with
      | some pointer => exact reference_draws (fun v => deeper v v (refl v)) alike points
      | none =>
          by_cases object : IsObject schema
          · exact object_draws_alike enough deeper alike points object
          · by_cases array : IsArray schema
            · exact array_draws_alike (deeper _ _ alike.items) alike points array
            · intro location place
              rw [synthesize_primitive _ _ _ _ _ points object array,
                synthesize_primitive _ _ _ _ _ (alike.reference ▸ points) (mt alike.object.mpr object)
                  (mt alike.array.mpr array)]
              rintro g _ rfl
              have drawn : primitive (settings.withDepth depth) other g = primitive settings schema g :=
                (alike.drawn settings g).symm
              rw [drawn]
              exact agree_imp (agree_same _) fun a b same => by simp [same]

theorem target_drawn (settings : Settings) (levels : Nat) {v target : Value} (refers : v.isReference = true)
    (found : Value.resolved document settings.maxReferenceDepth v = .ok target) (location : String) :
    ∃ place, synthesizeWithin settings document (levels + 1) location none v =
      synthesizeWithin settings document levels place none target := by
  cases v with
  | map schema =>
      obtain ⟨pointer, points⟩ := Option.isSome_iff_exists.mp refers
      have reached : Value.resolve document settings.maxReferenceDepth 0 pointer = .ok target := by
        simpa only [Value.resolved, points] using found
      refine ⟨pointer.display, ?_⟩
      rw [synthesize_reference _ _ _ _ _ _ points, reached]
      rfl
  | _ => cases refers

end

section

variable {settings : Settings} {document : Value}

-- By induction on the levels that are left before references are written out; there are at least as many after it.
theorem written_out_draws (levels others : Nat) (enough : levels ≤ others) {v w : Value}
    (written : WrittenOut document settings.maxReferenceDepth SameExample v w) :
    DrawsAs settings document settings.maxSchemaDepth levels others v w := by
  induction levels generalizing others v w with
  | zero => exact fun _ _ _ _ _ => .excused trivial
  | succ levels ih =>
      obtain ⟨others, rfl⟩ : ∃ n, others = n + 1 := ⟨others - 1, by omega⟩
      have fewer : levels ≤ others := by omega
      rcases written_out_cases written with aligned | ⟨refers, target, found, inside⟩
      · exact aligned_draws fewer (fun _ => .kept) (fun v w => ih others fewer) aligned
      · intro location place
        obtain ⟨reached, same⟩ := target_drawn settings levels refers found location
        rw [same]
        exact ih (others + 1) (by omega) inside reached place

-- The other way round, every level may need one more for a reference that leads to it.
theorem draws_written_out (depth : Int) (levels others : Nat) (enough : 2 * levels ≤ others) {v w : Value}
    (written : WrittenOut document settings.maxReferenceDepth SameExample v w) :
    DrawsAs settings document depth levels others w v := by
  induction levels generalizing others v w with
  | zero => exact fun _ _ _ _ _ => .excused trivial
  | succ levels ih =>
      obtain ⟨others, rfl⟩ : ∃ n, others = n + 2 := ⟨others - 2, by omega⟩
      have below (more : Nat) (many : others ≤ more) {v w : Value}
          (aligned : Aligned (WrittenOut document settings.maxReferenceDepth SameExample) v w) :
          DrawsAs settings document depth (levels + 1) (more + 1) w v :=
        aligned_draws (by omega) (fun _ => .kept) (fun v w => ih more (by omega)) (aligned_flip aligned)
      rcases written_out_cases written with aligned | ⟨refers, target, found, inside⟩
      · exact below (others + 1) (by omega) aligned
      · intro location place
        obtain ⟨reached, same⟩ := target_drawn (settings.withDepth depth) (others + 1) refers found place
        rw [same]
        exact below others (Nat.le_refl _) (written_out_target found inside) location reached

theorem draws_ok {depth : Int} {levels others : Nat} {v w a : Value} {g h : Generator} {location : String}
    (draws : DrawsAs settings document depth levels others v w) (place : String)
    (success : synthesizeWithin settings document levels location none v g = .ok (a, h)) :
    synthesizeWithin (settings.withDepth depth) document others place none w g = .ok (a, h) := by
  obtain ⟨⟨b, k⟩, drawn, rfl, rfl⟩ := agree_ok (draws location place g g rfl) success
  exact drawn

end

theorem written_out_draws_alike (settings : Settings) (document v w : Value)
    (written : WrittenOut document settings.maxReferenceDepth SameExample v w) (depth : Int) (location place : String)
    (g : Generator) :
    (∀ a h, synthesize settings document depth location none v g = .ok (a, h) →
      synthesize settings document depth place none w g = .ok (a, h)) ∧
    ∀ b k, synthesize settings document depth place none w g = .ok (b, k) →
      ∃ enough, ∀ bound, enough ≤ bound →
        synthesize (settings.withDepth bound) document depth location none v g = .ok (b, k) := by
  constructor
  · intro a h success
    exact draws_ok (written_out_draws _ _ (Nat.le_refl _) written) place success
  · intro b k success
    refine ⟨2 * (settings.maxSchemaDepth + 1 - depth).toNat + depth, fun bound large => ?_⟩
    refine draws_ok (draws_written_out bound _ _ ?_ written) location success
    change _ ≤ (bound + 1 - depth).toNat
    omega

-- Owners in a list, each with a name.
def listOf (items : Value) : Value :=
  .map [(.str "type", .str "array"), (.str "items", items)]

def owner (name : Value) : Value :=
  .map [(.str "properties", .map [(.str "name", name)])]

def toOwner : Value :=
  .map [(.str "$ref", .str "#/owner")]

def toName : Value :=
  .map [(.str "$ref", .str "#/name")]

def plainName : Value :=
  .map [(.str "type", .str "string")]

def exampleName : Value :=
  .map [(.str "type", .str "string"), (.str "example", .str "Rex")]

def ownersDocument (name : Value) : Value :=
  .map [(.str "owner", owner toName), (.str "name", name)]

def namedOwner (name : String) : Value :=
  .map [(.str "name", .str name)]

theorem name_written_out {suits : Value → Value → Prop} {name : Value}
    (found : Value.resolved (ownersDocument name) 10 toName = .ok name) (suited : suits toName name) :
    WrittenOut (ownersDocument name) 10 suits (owner toName) (owner name) :=
  .parts (.cons (.properties (.cons (.target rfl found .kept) (fun _ => suited) .nil)) .nil)

theorem owners_written_out :
    WrittenOut (ownersDocument plainName) 10 SameExample (listOf toOwner) (listOf (owner plainName)) := by
  have found : Value.resolved (ownersDocument plainName) 10 toOwner = .ok (owner toName) :=
    to_option_some (by decide +kernel)
  have named : Value.resolved (ownersDocument plainName) 10 toName = .ok plainName :=
    to_option_some (by decide +kernel)
  exact .parts (.cons .kept (.cons (.items (.target rfl found (name_written_out named rfl))) .nil))

def shallowPairs : Settings :=
  { arrayCardinality := 2, maxSchemaDepth := 2 }

def twoOwners : Value :=
  .list [namedOwner "Sentence 7 en_US.", namedOwner "Sentence 8 en_US."]

-- Written out, the schema needs two levels less.
theorem owners_draw_alike :
    WrittenOut (ownersDocument plainName) 10 SameExample (listOf toOwner) (listOf (owner plainName)) ∧
      synthesize shallowPairs (ownersDocument plainName) 0 "#" none (listOf (owner plainName)) ⟨"en_US", 7⟩ =
        .ok (twoOwners, ⟨"en_US", 9⟩) ∧
      ∃ enough, ∀ bound, enough ≤ bound →
        synthesize (shallowPairs.withDepth bound) (ownersDocument plainName) 0 "#" none (listOf toOwner) ⟨"en_US", 7⟩ =
          .ok (twoOwners, ⟨"en_US", 9⟩) := by
  have drawn : synthesize shallowPairs (ownersDocument plainName) 0 "#" none (listOf (owner plainName)) ⟨"en_US", 7⟩ =
      .ok (twoOwners, ⟨"en_US", 9⟩) := to_option_some (by decide +kernel)
  exact ⟨owners_written_out, drawn,
    (written_out_draws_alike shallowPairs (ownersDocument plainName) (listOf toOwner) (listOf (owner plainName))
      owners_written_out 0 "#" "#" ⟨"en_US", 7⟩).2 _ _ drawn⟩

-- The example stands in the schema of the property only once it is written out.
theorem example_behind_reference_unread :
    WrittenOut (ownersDocument exampleName) 10 (fun _ _ => True) (owner toName) (owner exampleName) ∧
      synthesize {} (ownersDocument exampleName) 0 "#" none (owner toName) ⟨"en_US", 0⟩ =
        .ok (namedOwner "Sentence 0 en_US.", ⟨"en_US", 1⟩) ∧
      synthesize {} (ownersDocument exampleName) 0 "#" none (owner exampleName) ⟨"en_US", 0⟩ =
        .ok (namedOwner "Rex", ⟨"en_US", 0⟩) ∧
      namedOwner "Sentence 0 en_US." ≠ namedOwner "Rex" := by
  have found : Value.resolved (ownersDocument exampleName) 10 toName = .ok exampleName :=
    to_option_some (by decide +kernel)
  exact ⟨name_written_out found trivial, to_option_some (by decide +kernel), to_option_some (by decide +kernel),
    by decide +kernel⟩

end Schema

end ApiStubs
