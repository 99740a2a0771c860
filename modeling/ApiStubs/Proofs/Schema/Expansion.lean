import ApiStubs.Proofs.Returns
import ApiStubs.Proofs.Schema.Unfolding
import Mathlib.Logic.Relation

/- The expansion of a schema, stage by stage. A value is drawn only where the whole unfolding fits; where none is, one
   stage is reached at which the drawing breaks off, and everything in front of it fits. -/

set_option autoImplicit false

namespace ApiStubs.Schema

-- A schema about to be expanded: the levels that are left, the place it is named by, and its position.
structure Stage where
  levels : Nat
  place : String
  position : Position

-- The stage at which the expansion of a schema begins.
def Stage.first (settings : Settings) (place : String) (declared : Option Value) (schema : Value) : Stage :=
  ⟨(settings.maxSchemaDepth + 1).toNat, place, ⟨declared, schema⟩⟩

section

variable (settings : Settings) (document : Value)

def Stage.draw (stage : Stage) : Drawing Value :=
  synthesizeWithin settings document stage.levels stage.place stage.position.declared stage.position.schema

inductive Expands : Stage → Stage → Prop where
  | reference {levels : Nat} {place : String} {schema : Entries} {pointer target : Value}
      (points : schema.get? "$ref" = some pointer)
      (found : Value.resolve document settings.maxReferenceDepth 0 pointer = .ok target) :
      Expands ⟨levels + 1, place, ⟨none, .map schema⟩⟩ ⟨levels, pointer.display, ⟨none, target⟩⟩
  | property {levels : Nat} {place : String} {schema front rest : Entries} {property : Value × Value}
      (inline : schema.get? "$ref" = none) (object : IsObject schema)
      (declares : Declares schema (front ++ property :: rest))
      (fitting : ∀ p ∈ front, Fits settings document levels (.ofProperty p)) :
      Expands ⟨levels + 1, place, ⟨none, .map schema⟩⟩
        ⟨levels, propertyLocation place property.1, .ofProperty property⟩
  | items {levels : Nat} {place : String} {schema : Entries} (inline : schema.get? "$ref" = none)
      (array : IsArray schema) (wanted : 0 < settings.arrayCardinality) :
      Expands ⟨levels + 1, place, ⟨none, .map schema⟩⟩
        ⟨levels, Pointer.extendText place "items", ⟨none, itemsOf schema⟩⟩

inductive Stage.Breaks : Stage → Error → Prop where
  | depth {place : String} {position : Position} :
      Breaks ⟨0, place, position⟩ (.schemaDepth settings.maxSchemaDepth (some place))
  | reference {levels : Nat} {place : String} {schema : Entries} {pointer : Value} {e : Error}
      (points : schema.get? "$ref" = some pointer)
      (lost : Value.resolve document settings.maxReferenceDepth 0 pointer = .error e) :
      Breaks ⟨levels + 1, place, ⟨none, .map schema⟩⟩ e
  | properties {levels : Nat} {place : String} {schema : Entries} {v : Value} (inline : schema.get? "$ref" = none)
      (object : IsObject schema) (given : schema.get "properties" = v) (filled : v.isTrue = true)
      (unmapped : ∀ entries, v ≠ .map entries) :
      Breaks ⟨levels + 1, place, ⟨none, .map schema⟩⟩
        (.wrongShape .object (Pointer.extendText place "properties") v.kindName)
  | enumeration {levels : Nat} {place : String} {schema : Entries} (inline : schema.get? "$ref" = none)
      (object : ¬ IsObject schema) (array : ¬ IsArray schema) (filled : (schema.get "enum").isTrue = true)
      (unlisted : membersOf (schema.get "enum") = .error (.defect .notIterable)) :
      Breaks ⟨levels + 1, place, ⟨none, .map schema⟩⟩ (.defect .notIterable)

def Stage.Reaches : Stage → Stage → Prop :=
  Relation.ReflTransGen (Expands settings document)

-- What a stage whose drawing fails comes to.
def Stage.BreaksOff (stage : Stage) (e : Error) : Prop :=
  ∃ last, stage.Reaches settings document last ∧ last.Breaks settings document e

end

section

variable {settings : Settings} {document : Value}

theorem synthesize_first (place : String) (declared : Option Value) (schema : Value) :
    synthesize settings document 0 place declared schema =
      (Stage.first settings place declared schema).draw settings document := by
  simp only [synthesize, Stage.draw, Stage.first, Int.sub_zero]

theorem breaks_depth {stage : Stage} {bound : Int} {location : Option String}
    (breaks : stage.Breaks settings document (.schemaDepth bound location)) :
    stage.levels = 0 ∧ bound = settings.maxSchemaDepth ∧ location = some stage.place := by
  cases breaks with
  | depth => exact ⟨rfl, rfl, rfl⟩
  | reference _ lost =>
      rcases Reference.follow_error _ _ _ _ _ lost with ⟨_, _, other⟩ | ⟨_, other⟩ <;> cases other

theorem breaks_shape {stage : Stage} {expected : Shape} {place kind : String}
    (breaks : stage.Breaks settings document (.wrongShape expected place kind)) :
    ∃ (schema : Entries) (v : Value), stage.position.schema = .map schema ∧ schema.get "properties" = v ∧
      v.isTrue = true ∧ (∀ entries, v ≠ .map entries) ∧ expected = .object ∧
      place = Pointer.extendText stage.place "properties" ∧ kind = v.kindName := by
  cases breaks with
  | reference _ lost =>
      rcases Reference.follow_error _ _ _ _ _ lost with ⟨_, _, other⟩ | ⟨_, other⟩ <;> cases other
  | properties _ _ given filled unmapped => exact ⟨_, _, rfl, given, filled, unmapped, rfl, rfl, rfl⟩

theorem breaks_off_here {stage : Stage} {e : Error} (breaks : stage.Breaks settings document e) :
    stage.BreaksOff settings document e :=
  ⟨stage, .refl, breaks⟩

theorem breaks_off_later {stage next : Stage} {e : Error} (expands : Expands settings document stage next)
    (later : next.BreaksOff settings document e) : stage.BreaksOff settings document e := by
  obtain ⟨last, reached, breaks⟩ := later
  exact ⟨last, .head expands reached, breaks⟩

theorem members_error {v : Value} {e : Error} (failed : membersOf v = .error e) : e = .defect .notIterable := by
  cases v with
  | list _ | set _ | tuple _ | map _ | str _ | bytes _ => cases failed
  | _ =>
      cases failed
      rfl

theorem properties_error {schema : Entries} {place : String} {e : Error}
    (failed : propertiesOf schema place = .error e) :
    (schema.get "properties").isTrue = true ∧ (∀ entries, schema.get "properties" ≠ .map entries) ∧
      e = .wrongShape .object (Pointer.extendText place "properties") (schema.get "properties").kindName := by
  unfold propertiesOf at failed
  split at failed
  · cases failed
  · next unmapped =>
      split at failed
      · next filled =>
          cases failed
          exact ⟨filled, unmapped, rfl⟩
      · cases failed

-- A drawing that succeeds says that the stage fits, one that fails that it breaks off.
def Explained (settings : Settings) (document : Value) (stage : Stage) : Prop :=
  ReturnsFrom (fun _ => Fits settings document stage.levels stage.position)
    (stage.BreaksOff settings document) (stage.draw settings document)

-- A stage that is explained, as one that another stage leads to.
theorem explained_later {stage next : Stage} (expands : Expands settings document stage next)
    (explained : Explained settings document next) :
    ReturnsFrom (fun _ => Fits settings document next.levels next.position) (stage.BreaksOff settings document)
      (next.draw settings document) :=
  fun g => returns_imp (explained g) (fun _ fits => fits) fun _ later => breaks_off_later expands later

variable {levels : Nat} (place : String) {schema : Entries}

theorem reference_explained {pointer : Value} (points : schema.get? "$ref" = some pointer)
    (less : ∀ place position, Explained settings document ⟨levels, place, position⟩) :
    Explained settings document ⟨levels + 1, place, ⟨none, .map schema⟩⟩ := by
  unfold Explained Stage.draw
  rw [synthesize_reference _ _ _ _ _ _ points]
  have target : Returns (fun v => Value.resolve document settings.maxReferenceDepth 0 pointer = .ok v)
      (Stage.BreaksOff settings document ⟨levels + 1, place, ⟨none, .map schema⟩⟩)
      (Value.resolve document settings.maxReferenceDepth 0 pointer) := by
    cases target : Value.resolve document settings.maxReferenceDepth 0 pointer with
    | ok v => exact .ok rfl
    | error e => exact .error (breaks_off_here (.reference points target))
  refine returns_state_bind (returns_state_lift target) fun v found g => ?_
  refine returns_imp (explained_later (.reference points found) (less pointer.display ⟨none, v⟩) g)
    (fun _ fits => ?_) fun _ known => known
  exact (fits_succ_iff levels _ _ (.reference points found)).mp (by simpa using fits)

theorem object_explained (inline : schema.get? "$ref" = none) (object : IsObject schema)
    (less : ∀ place position, Explained settings document ⟨levels, place, position⟩) :
    Explained settings document ⟨levels + 1, place, ⟨none, .map schema⟩⟩ := by
  unfold Explained Stage.draw
  rw [synthesize_object _ _ _ _ _ inline object]
  have declared : Returns (Declares schema) (Stage.BreaksOff settings document ⟨levels + 1, place, ⟨none, .map schema⟩⟩)
      (propertiesOf schema place) := by
    cases read : propertiesOf schema place with
    | ok properties => exact .ok ((properties_of_iff ..).mp read)
    | error e =>
        obtain ⟨filled, unmapped, rfl⟩ := properties_error read
        exact .error (breaks_off_here (.properties inline object rfl filled unmapped))
  refine returns_state_bind (returns_state_lift declared) fun properties declares => ?_
  have each : ∀ front property rest, [] ++ properties = front ++ property :: rest →
      (∀ p ∈ front, Fits settings document levels (.ofProperty p)) →
      ReturnsFrom (fun _ => Fits settings document levels (.ofProperty property))
        (Stage.BreaksOff settings document ⟨levels + 1, place, ⟨none, .map schema⟩⟩)
        (drawProperty settings document levels place property) := by
    intro front property rest split fitting
    rw [List.nil_append] at split
    have expands : Expands settings document ⟨levels + 1, place, ⟨none, .map schema⟩⟩
        ⟨levels, propertyLocation place property.1, .ofProperty property⟩ :=
      .property inline object (split ▸ declares) fitting
    exact returns_state_bind (explained_later expands (less _ _)) fun _ fits => returns_state_pure fits
  refine returns_state_bind (returns_state_map_after [] properties (by simp) each) fun _ fits => returns_state_pure ?_
  exact (fits_succ_iff levels _ _ (.object inline object declares)).mp (List.forall_mem_map.mpr fits)

theorem array_explained (inline : schema.get? "$ref" = none) (array : IsArray schema)
    (less : ∀ place position, Explained settings document ⟨levels, place, position⟩) :
    Explained settings document ⟨levels + 1, place, ⟨none, .map schema⟩⟩ := by
  unfold Explained Stage.draw
  rw [synthesize_array _ _ _ _ _ inline array]
  have each : ∀ item ∈ List.replicate settings.arrayCardinality.toNat (itemsOf schema),
      ReturnsFrom (fun _ => Fits settings document levels ⟨none, item⟩)
        (Stage.BreaksOff settings document ⟨levels + 1, place, ⟨none, .map schema⟩⟩)
        (synthesizeWithin settings document levels (Pointer.extendText place "items") none item) := by
    intro item member
    obtain ⟨counted, rfl⟩ := List.mem_replicate.mp member
    exact explained_later (.items inline array (by omega)) (less _ ⟨none, itemsOf schema⟩)
  refine returns_state_bind (returns_state_map_after [] _ (by simp) fun front item rest split _ =>
    each item (by simp_all)) fun _ fits => returns_state_pure ?_
  refine (fits_succ_iff levels _ _ (.array inline array)).mp fun q member => ?_
  obtain ⟨counted, rfl⟩ := List.mem_replicate.mp member
  exact fits _ (List.mem_replicate.mpr ⟨counted, rfl⟩)

theorem primitive_explained (inline : schema.get? "$ref" = none) (object : ¬ IsObject schema)
    (array : ¬ IsArray schema) : Explained settings document ⟨levels + 1, place, ⟨none, .map schema⟩⟩ := by
  unfold Explained Stage.draw
  rw [synthesize_primitive _ _ _ _ _ inline object array]
  have fits : Fits settings document (levels + 1) ⟨none, .map schema⟩ :=
    (fits_succ_iff levels _ _ (.primitive inline object array)).mp (by simp)
  intro g
  unfold primitive
  split
  · next filled =>
    split
    · exact .ok fits
    · exact .ok fits
    · next e failed =>
        cases members_error failed
        exact .error (breaks_off_here (.enumeration inline object array filled failed))
  · split <;> exact .ok fits

-- By induction on the levels that are left, one case for each form of a schema.
theorem stage_explained (stage : Stage) : Explained settings document stage := by
  obtain ⟨levels, place, position⟩ := stage
  induction levels generalizing place position with
  | zero => exact fun _ => .error (breaks_off_here .depth)
  | succ levels less =>
      obtain ⟨declared, v⟩ := position
      cases declared with
      | some own =>
          exact returns_state_pure ((fits_succ_iff levels ⟨some own, v⟩ _ .declared).mp (by simp))
      | none =>
          by_cases mapped : ∃ schema : Entries, v = .map schema
          · obtain ⟨schema, rfl⟩ := mapped
            cases points : schema.get? "$ref" with
            | some pointer => exact reference_explained place points less
            | none =>
                by_cases object : IsObject schema
                · exact object_explained place points object less
                · by_cases array : IsArray schema
                  · exact array_explained place points array less
                  · exact primitive_explained place points object array
          · have plain : ∀ entries, v ≠ .map entries := fun entries same => mapped ⟨entries, same⟩
            unfold Explained Stage.draw
            rw [synthesize_plain _ _ _ _ v plain]
            exact returns_state_pure ((fits_succ_iff levels ⟨none, v⟩ _ (.plain plain)).mp (by simp))

end

end ApiStubs.Schema
