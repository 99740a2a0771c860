import ApiStubs.Proofs.Compile.Reading
import ApiStubs.Proofs.Location

/- The places that failures name. A node of the wrong shape is named by a place that leads to it, and so is the schema
   at which the bound on nesting is exceeded: the one that the schema of a body is expanded to when no level is left. -/

set_option autoImplicit false

namespace ApiStubs

open Json (Plain)
open Schema (Stage)

namespace Compile

def ShapeNamed (settings : Settings) (document : Entries) (expected : Shape) (place kind : String) : Prop :=
  ∃ v, Names settings (.map document) place v ∧ expected.Misfit v ∧ kind = v.kindName

def DepthNamed (settings : Settings) (document : Entries) (bound : Int) (location : Option String) : Prop :=
  bound = settings.maxSchemaDepth ∧ ∃ slot ∈ slots settings document, ∃ first last : Stage,
    slot.Draws settings (.map document) first ∧ first.Reaches settings (.map document) last ∧ last.levels = 0 ∧
      location = some last.place ∧ Names settings (.map document) last.place last.position.schema

def FailureNamed (settings : Settings) (document : Entries) : Error → Prop
  | .wrongShape expected place kind => ShapeNamed settings document expected place kind
  | .schemaDepth bound location => DepthNamed settings document bound location
  | _ => True

section

variable {settings : Settings} {document : Entries}

theorem all_renderable (v : Value) : Renderable (FailureNamed settings document) v :=
  fun _ _ _ => trivial

theorem failure_legible : Legible (.map document) (FailureNamed settings document) where
  unplaced := by
    intro e unplaced
    cases unplaced <;> trivial
  rendered := fun _ => all_renderable _

theorem misfit_named {place : String} {expected : Shape} {v : Value} (leads : Leads settings (.map document) place v)
    (unfit : expected.Misfit v) : ShapeNamed settings document expected place v.kindName :=
  ⟨v, names_of_leads leads, unfit, rfl⟩

theorem broken_named {slot : Slot} (among : slot ∈ slots settings document) {first : Stage}
    (draws : slot.Draws settings (.map document) first)
    (leads : Leads settings (.map document) first.place first.position.schema) {e : Error}
    (breaks : first.BreaksOff settings (.map document) e) : FailureNamed settings document e := by
  obtain ⟨last, reaches, breaks⟩ := breaks
  have there := reaches_leads reaches leads
  cases e with
  | wrongShape expected place kind =>
      obtain ⟨v, stands, unfit, rfl⟩ := misfit_leads breaks there
      exact misfit_named stands unfit
  | schemaDepth bound location =>
      obtain ⟨spent, rfl, rfl⟩ := Schema.breaks_depth breaks
      exact ⟨rfl, slot, among, first, last, draws, reaches, spent, rfl, names_of_leads there⟩
  | _ => trivial

theorem drawn_named (levels : 0 ≤ settings.maxSchemaDepth) {slot : Slot} (among : slot ∈ slots settings document)
    {stage : Stage} (draws : slot.Draws settings (.map document) stage)
    (located : Located settings (.map document) stage.place stage.position.schema) :
    ReturnsFrom (Renderable (FailureNamed settings document)) (FailureNamed settings document)
      (stage.draw settings (.map document)) := by
  intro g
  rcases located with absent | leads
  · obtain ⟨_, _, place, declared, schema, -, rfl⟩ := draws
    cases absent
    obtain ⟨v, success⟩ := absent_drawn levels place declared g
    rw [success]
    exact .ok (all_renderable v)
  · exact returns_imp (Schema.stage_explained stage g) (fun _ _ => all_renderable _) fun _ breaks =>
      broken_named among draws leads breaks

end

theorem failures_name_nodes (generator : Generator) (issued : Nat) (settings : Settings) (specName : String)
    (document : Entries) (e : Error) (levels : 0 ≤ settings.maxSchemaDepth)
    (failed : (compileFrom generator issued settings specName document).outcome = .error e) :
    (∀ expected place kind, e = .wrongShape expected place kind →
      ShapeNamed settings document expected place kind) ∧
    ∀ bound location, e = .schemaDepth bound location → DepthNamed settings document bound location := by
  have reading : Reading settings (.map document) (FailureNamed settings document) (Located settings (.map document)) :=
    located_reading settings failure_legible misfit_named
  have returns := compile_returns generator issued settings specName document reading (fun _ => trivial)
    fun site member => ⟨fun _ => trivial, fun slot among stage draws _ located =>
      drawn_named levels (List.mem_flatMap.mpr ⟨site, member, among⟩) draws located⟩
  have named := returns_known returns failed
  constructor
  · rintro expected place kind rfl
    exact named
  · rintro bound location rfl
    exact named

-- A pet has friends, which are pets again; the name of the property holds a slash.
def friends : Entries :=
  let pet := Value.map [(.str "$ref", .str "#/components/schemas/Pet")]
  let answer := Value.map [(.str "content", .map [(.str "application/json", .map [(.str "schema", pet)])])]
  [(.str "paths", .map [(.str "/pets", .map [(.str "get", .map [(.str "responses", .map [(.str "200", answer)])])])]),
    (.str "components", .map [(.str "schemas", .map [(.str "Pet", .map [(.str "properties", .map
      [(.str "old/friends", .map [(.str "type", .str "array"), (.str "items", pet)])])])])])]

def friendsPlace : String :=
  "#/components/schemas/Pet/properties/old~1friends/items"

theorem friends_direct : Direct (.map friends) :=
  direct_of_test (by decide +kernel) (by decide +kernel)

theorem friends_too_deep :
    compile { maxSchemaDepth := 2 } "pets" friends = .error (.schemaDepth 2 (some friendsPlace)) := by
  decide +kernel

theorem friends_named :
    0 ≤ ({ maxSchemaDepth := 2 } : Settings).maxSchemaDepth ∧
      compile { maxSchemaDepth := 2 } "pets" friends = .error (.schemaDepth 2 (some friendsPlace)) ∧
      ∃ schema, Pointer.lookup (.map friends) (.str friendsPlace) = .ok schema := by
  refine ⟨by decide, friends_too_deep, ?_⟩
  have failures := failures_name_nodes (Generator.start {}) 0 { maxSchemaDepth := 2 } "pets" friends _ (by decide)
    friends_too_deep
  obtain ⟨-, slot, -, first, last, -, -, -, same, names⟩ := failures.2 _ _ rfl
  rw [← Option.some.inj same] at names
  exact ⟨_, names.pointer.resolve_right (direct_undetoured friends_direct _)⟩

-- A path item behind a reference, with parameters that are no list.
def referredItem : Entries :=
  [(.str "paths", .map [(.str "/pets", .map [(.str "$ref", .str "#/components/pathItems/Pets")])]),
    (.str "components", .map [(.str "pathItems", .map [(.str "Pets", .map
      [(.str "parameters", .str "limit"), (.str "get", .map [])])])])]

theorem referred_item_plain : Plain (.map referredItem) := by
  simp [referredItem, Plain, Json.PlainEntries]

theorem referred_item_unnamed :
    Plain (.map referredItem) ∧
      compile {} "pets" referredItem = .error (.wrongShape .list "#/paths/~1pets/parameters" "str") ∧
      ¬ ∃ v, Pointer.lookup (.map referredItem) (.str "#/paths/~1pets/parameters") = .ok v := by
  have lost : (Pointer.lookup (.map referredItem) (.str "#/paths/~1pets/parameters")).toOption = none := by
    decide +kernel
  refine ⟨referred_item_plain, by decide +kernel, ?_⟩
  rintro ⟨v, found⟩
  rw [found] at lost
  cases lost

end Compile

end ApiStubs
