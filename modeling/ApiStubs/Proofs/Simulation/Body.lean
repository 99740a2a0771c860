import ApiStubs.Proofs.Origin
import ApiStubs.Proofs.Schema.Form
import ApiStubs.Proofs.Simulation.Basic

/- What two descriptions that read alike make of their schemas and contents: what is drawn for a schema agrees level
   by level, and a body is a declared one or drawn. -/

set_option autoImplicit false

namespace ApiStubs

-- The levels that are left differ only where running out of them is excused.
def Fits (c : Comparison) (settings later : Settings) (levels others : Nat) : Prop :=
  levels = others ∧ later.maxSchemaDepth = settings.maxSchemaDepth ∨
    levels ≤ others ∧ ∀ bound location, c.excused (.schemaDepth bound location)

-- An empty content declares no schema, and nothing is drawn for one that is missing.
theorem empty_content (settings : Settings) (document : Value) (location : String)
    (left : 0 ≤ settings.maxSchemaDepth) :
    (do let content ← Shape.objectAt location (.map [])
        Response.bodyOfContent settings document location content : Drawing Value) = pure .null := by
  obtain ⟨levels, count⟩ : ∃ levels, (settings.maxSchemaDepth + 1 - 0).toNat = levels + 1 :=
    ⟨settings.maxSchemaDepth.toNat, by omega⟩
  have drawn : (do let content ← Shape.objectAt location (.map [])
                   Response.bodyOfContent settings document location content : Drawing Value) =
      Schema.synthesizeWithin settings document (settings.maxSchemaDepth + 1 - 0).toNat
        (Pointer.extendText location "schema") none .null := rfl
  rw [drawn, count, Schema.synthesize_plain _ _ _ _ _ (fun _ same => by cases same)]

-- What is drawn for one schema in two runs, up to what `bodies` and `generators` leave open.
def DrawAlike (c : Comparison) (matching : Role → Value → Value → Prop) (settings later : Settings)
    (document changed : Value) (generators : Generator → Generator → Prop) (bodies : Value → Value → Prop) :
    Prop :=
  ∀ location other declared schema, c.near location other → matching .other schema schema →
    c.AgreeFrom generators bodies (Schema.synthesize settings document 0 location declared schema)
      (Schema.synthesize later changed 0 other declared schema)

def DrawWithinAlike (c : Comparison) (matching : Role → Value → Value → Prop) (settings later : Settings)
    (document changed : Value) (levels others : Nat) : Prop :=
  ∀ location other declared schema, c.near location other → matching .other schema schema →
    c.AgreeFrom Eq Eq (Schema.synthesizeWithin settings document levels location declared schema)
      (Schema.synthesizeWithin later changed others other declared schema)

namespace Simulation

variable {c : Comparison} {matching : Role → Value → Value → Prop} {settings later : Settings}
  {document changed : Value} {role : Role} (sim : Simulation c matching settings later document changed)
include sim

section schemas

open Schema

theorem properties_alike {schema : Entries} {location other : String} (near : c.near location other)
    (known : MatchedEntries matching .other schema schema) :
    c.Agree (MatchedEntries matching .other) (propertiesOf schema location) (propertiesOf schema other) := by
  have shape := sim.shaped .other _ _ rfl (sim.read_alike known "properties")
  have named := c.near_extend _ _ "properties" near
  unfold propertiesOf
  generalize schema.get "properties" = v at shape
  have refused : c.Agree (MatchedEntries matching .other)
      (if v.isTrue then .error (.wrongShape .object (Pointer.extendText location "properties") v.kindName)
        else .ok [])
      (if v.isTrue then .error (.wrongShape .object (Pointer.extendText other "properties") v.kindName)
        else .ok []) := by
    split
    · exact .failed (c.alike_shape _ _ _ _ named)
    · exact .ok .nil
  cases v with
  | map entries =>
      cases shape with
      | map each => exact .ok each
      | plain unmapped _ => exact absurd rfl (unmapped entries)
  | _ => exact refused

theorem items_known {schema : Entries} (known : MatchedEntries matching .other schema schema) :
    matching .other (itemsOf schema) (itemsOf schema) := by
  simp only [itemsOf]
  split
  · exact sim.read_alike known "items"
  · exact sim.empty

theorem primitive_same (schema : Entries) : primitive later schema = primitive settings schema := by
  rw [sim.sameSettings]
  rfl

theorem cardinality_same : later.arrayCardinality = settings.arrayCardinality := by
  rw [sim.sameSettings]

theorem property_alike {levels others : Nat} {location other : String} {e f : Value × Value}
    (inner : DrawWithinAlike c matching settings later document changed levels others)
    (near : c.near location other) (pair : e.1 = f.1 ∧ matching .other e.2 f.2) :
    c.AgreeFrom Eq Eq (drawProperty settings document levels location e)
      (drawProperty later changed others other f) := by
  obtain ⟨name, v⟩ := e
  obtain ⟨_, w⟩ := f
  obtain ⟨rfl, known⟩ := pair
  cases sim.inert v w known
  have placed := c.near_extend _ _ name.display (c.near_extend _ _ "properties" near)
  apply agree_state_bind (inner _ _ (exampleOf v) v placed known)
  intro a b same
  exact agree_state_pure (by rw [same])

-- What a schema without a reference asks for, when all that stands one level further down is drawn alike.
theorem parts_alike {schema : Entries} {levels others : Nat} {location other : String}
    (inner : DrawWithinAlike c matching settings later document changed levels others)
    (near : c.near location other) (known : MatchedEntries matching .other schema schema)
    (inline : schema.get? "$ref" = none) :
    c.AgreeFrom Eq Eq (synthesizeWithin settings document (levels + 1) location none (.map schema))
      (synthesizeWithin later changed (others + 1) other none (.map schema)) := by
  by_cases object : IsObject schema
  · rw [synthesize_object _ _ _ _ _ inline object, synthesize_object _ _ _ _ _ inline object]
    have declared := sim.properties_alike near known
    apply agree_lift_bind declared
    intro properties _ named
    have drawn := agree_state_map_all_same named fun e f pair => sim.property_alike inner near pair
    apply agree_state_bind drawn
    intro entries _ same
    exact agree_state_pure (by rw [same])
  · by_cases array : IsArray schema
    · rw [synthesize_array _ _ _ _ _ inline array, synthesize_array _ _ _ _ _ inline array, sim.cardinality_same]
      have items : List.Forall₂ (fun v w => v = w ∧ matching .other v v)
          (List.replicate settings.arrayCardinality.toNat (itemsOf schema))
          (List.replicate settings.arrayCardinality.toNat (itemsOf schema)) := by
        apply List.forall₂_same.mpr
        intro v member
        rw [List.eq_of_mem_replicate member]
        exact ⟨rfl, sim.items_known known⟩
      have placed := c.near_extend _ _ "items" near
      have drawn := agree_state_map_all_same items fun v w both => by
        obtain ⟨rfl, known⟩ := both
        exact inner _ _ none v placed known
      apply agree_state_bind drawn
      intro values _ same
      exact agree_state_pure (by rw [same])
    · rw [synthesize_primitive _ _ _ _ _ inline object array, synthesize_primitive _ _ _ _ _ inline object array,
        sim.primitive_same]
      intro g _ start
      subst start
      exact agree_imp (agree_same _) fun a b same => by simp [same]

-- By induction on the levels of the first run; the second has as many left, or running out is excused.
theorem synthesize_within_alike {levels others : Nat} (fits : Fits c settings later levels others) :
    DrawWithinAlike c matching settings later document changed levels others := by
  induction levels generalizing others with
  | zero =>
      intro location other declared schema near known g _ start
      subst start
      rcases fits with ⟨rfl, bound⟩ | ⟨-, excused⟩
      · apply Comparison.Agree.failed
        rw [bound]
        exact c.alike_depth _ _ _ near
      · exact .excused (excused _ _)
  | succ levels ih =>
      obtain ⟨others, rfl⟩ : ∃ n, others = n + 1 := by
        rcases fits with ⟨rfl, -⟩ | ⟨fewer, -⟩
        · exact ⟨levels, rfl⟩
        · exact ⟨others - 1, by omega⟩
      have inner : DrawWithinAlike c matching settings later document changed levels others := by
        apply ih
        rcases fits with ⟨same, bound⟩ | ⟨fewer, excused⟩
        · exact .inl ⟨by omega, bound⟩
        · exact .inr ⟨by omega, excused⟩
      intro location other declared v near known
      cases declared with
      | some declared =>
          rw [synthesize_declared, synthesize_declared]
          exact agree_state_pure rfl
      | none =>
          cases sim.shaped .other _ _ rfl known with
          | list _ => exact agree_state_pure rfl
          | emptied empty => cases empty
          | plain unmapped _ =>
              rw [synthesize_plain _ _ _ _ _ unmapped, synthesize_plain _ _ _ _ _ unmapped]
              exact agree_state_pure rfl
          | @map schema _ each =>
              cases points : schema.get? "$ref" with
              | some pointer =>
                  have target := sim.resolved .other (by decide) _ _ known
                  simp only [Value.resolved, Value.reference?, points] at target
                  rw [synthesize_reference _ _ _ _ _ _ points, synthesize_reference _ _ _ _ _ _ points]
                  apply agree_lift_bind target
                  intro node _ both
                  cases sim.inert _ _ both.1
                  exact inner _ _ none node (c.near_refl _) both.1
              | none => exact sim.parts_alike inner near each points

theorem synthesize_alike : DrawAlike c matching settings later document changed Eq Eq := by
  intro location other declared schema near known
  have fits : Fits c settings later (settings.maxSchemaDepth + 1 - 0).toNat (later.maxSchemaDepth + 1 - 0).toNat := by
    rcases sim.levels with same | ⟨fewer, excused⟩
    · exact .inl ⟨by rw [same], same⟩
    · exact .inr ⟨by omega, excused⟩
  exact sim.synthesize_within_alike fits location other declared schema near known

end schemas

section bodies

open Response

variable {generators : Generator → Generator → Prop} {bodies : Value → Value → Prop}

theorem body_of_examples_alike {v w : Value} (matched : matching .namedExample v w) :
    c.Agree Eq (bodyOfExamples settings document v) (bodyOfExamples later changed w) := by
  apply agree_bind (sim.resolved .namedExample (by decide) v w matched)
  intro a b both
  cases both.2 with
  | map each => exact .ok (sim.read_same each "value" rfl)
  | list _ => exact .ok rfl
  | plain _ _ => exact agree_same _
  | emptied empty => cases empty

variable (drawn : DrawAlike c matching settings later document changed generators bodies)
  (given : ∀ v, bodies v v)
include drawn given

theorem declared_body_alike {content other : Entries} {location otherLocation : String}
    (near : c.near location otherLocation)
    (own : Option.Rel (matching .other) (content.get? "example") (other.get? "example"))
    (schema : (∃ shown, content.get? "example" = some shown) ∨
      matching .other (content.get "schema") (other.get "schema")) :
    c.AgreeFrom generators bodies (declaredBody settings document location content)
      (declaredBody later changed otherLocation other) := by
  have placed := c.near_extend _ _ "schema" near
  unfold declaredBody
  generalize content.get? "example" = first, other.get? "example" = second at own schema
  cases own with
  | none =>
      have known := schema.resolve_left fun ⟨_, impossible⟩ => nomatch impossible
      generalize content.get "schema" = v, other.get "schema" = w at known
      cases sim.inert v w known
      exact drawn _ _ none _ placed known
  | @some shown _ known =>
      cases sim.inert _ _ known
      cases points : shown.reference? with
      | none =>
          simp only [Option.bind_some, points]
          rw [Schema.declared_regardless _ _ _ _ _ _ .null, Schema.declared_regardless _ _ _ _ _ (other.get "schema") .null]
          exact drawn _ _ (some shown) .null placed (sim.null .other)
      | some pointer =>
          have target := sim.resolved .other (by decide) _ _ known
          simp only [Value.resolved, points] at target
          simp only [Option.bind_some, points]
          apply agree_lift_bind target
          intro node _ both
          cases sim.inert _ _ both.1
          cases Response.valueIn node with
          | some v => exact agree_state_pure (given v)
          | none => exact drawn _ _ none _ (c.near_refl _) both.1

theorem body_of_content_alike {content other : Entries} {location otherLocation : String}
    (near : c.near location otherLocation) (same : SameContent matching content other) :
    c.AgreeFrom generators bodies (bodyOfContent settings document location content)
      (bodyOfContent later changed otherLocation other) := by
  have shape := sim.shaped .namedExamples _ _ rfl same.named
  have declared (unnamed : ¬ ∃ key first rest, content.get "examples" = .map ((key, first) :: rest)) :=
    sim.declared_body_alike drawn given near same.own (same.schema.imp_left fun shown => shown.resolve_left unnamed)
  rw [body_of_content_eq, body_of_content_eq]
  generalize content.get "examples" = v, other.get "examples" = w at shape declared
  cases shape with
  | list _ => exact declared nofun
  | emptied empty => cases empty
  | plain unmapped _ =>
      cases v with
      | map entries => exact absurd rfl (unmapped entries)
      | _ => exact declared nofun
  | map each =>
      cases each with
      | nil => exact declared nofun
      | @cons e f _ _ first _ =>
          exact agree_state_lift (agree_imp (sim.body_of_examples_alike first.2) fun a b same => same ▸ given a)

theorem content_alike {v w : Value} {location otherLocation : String} (near : c.near location otherLocation)
    (matched : matching .content v w) :
    c.AgreeFrom generators bodies
      (do let content ← Shape.objectAt location v
          bodyOfContent settings document location content : Drawing Value)
      (do let content ← Shape.objectAt otherLocation w
          bodyOfContent later changed otherLocation content : Drawing Value) := by
  rcases sim.content v w matched with shape | ⟨content, other, rfl, rfl, same⟩
  · refine agree_lift_bind (object_alike rfl shape near) fun content other each => ?_
    exact sim.body_of_content_alike drawn given near
      ⟨sim.read_alike each "examples", found_alike each "example", .inr (sim.read_alike each "schema")⟩
  · exact sim.body_of_content_alike drawn given near same

theorem body_alike {response other : Entries} {location otherLocation : String}
    (near : c.near location otherLocation) (matched : MatchedEntries matching .response response other) :
    c.AgreeFrom generators bodies (bodyOf settings document location response)
      (bodyOf later changed otherLocation other) := by
  have media : later.mediaType = settings.mediaType := by rw [sim.sameSettings]
  have placed := c.near_extend _ _ "content" near
  have shape := sim.shaped .contents _ _ rfl (sim.read_alike matched "content")
  unfold bodyOf
  rw [media]
  apply agree_lift_bind (object_alike rfl shape placed)
  intro contents others each
  have matched := sim.read_alike each settings.mediaType
  have filled := sim.content_alike drawn given (c.near_extend _ _ settings.mediaType placed) matched
  generalize contents.get settings.mediaType = v, others.get settings.mediaType = w at matched filled
  rcases sim.content v w matched with shape | ⟨content, other, rfl, rfl, -⟩
  case inr => exact filled
  cases shape with
  | map _ => exact filled
  | list _ => exact filled
  | plain _ _ =>
      cases v with
      | null => exact agree_state_pure (given .null)
      | _ => exact filled
  | emptied empty =>
      cases empty
      dsimp only
      rw [empty_content _ _ _ (sim.emptied matched)]
      exact agree_state_pure (given .null)

end bodies

end Simulation

end ApiStubs
