import ApiStubs.Proofs.Compile.Simulation
import ApiStubs.Proofs.Compile.Slots
import ApiStubs.Proofs.Response

/- The compilation as a reading of its document. Each step of it hands on what is known of the nodes that it reads and
   of their places. What may go wrong apart from the reading is said beforehand, for the first server, for every site
   and for every body that is drawn. -/

set_option autoImplicit false

namespace ApiStubs

open Schema (Stage)

variable {α β : Type} {known : Error → Prop} {stands : String → Value → Prop}

namespace Compile

def StepReturns (known : Error → Prop) (good : α → Prop) (step : Step α) : Prop :=
  ReturnsFrom good known (finish step)

theorem step_bind {good : α → Prop} {further : β → Prop} {first : Step α} {next : α → Step β}
    (begins : StepReturns known good first) (goes : ∀ a, good a → StepReturns known further (next a)) :
    StepReturns known further (first >>= next) := by
  unfold StepReturns
  rw [finish_bind]
  exact returns_from_bind begins goes

theorem step_attempt {good : α → Prop} {result : Except Error α} (returns : Returns good known result) :
    StepReturns known good (attempt result) := by
  intro p
  cases returns with
  | ok holds => exact .ok holds
  | error occurs => exact .error occurs

theorem step_pure {good : α → Prop} {a : α} (holds : good a) : StepReturns known good (pure a : Step α) :=
  fun _ => .ok holds

theorem step_modify (change : Progress → Progress) :
    StepReturns known (fun _ => True) (modify change : Step PUnit) :=
  fun _ => .ok trivial

theorem step_drawing {good : α → Prop} {computation : Drawing α} (returns : ReturnsFrom good known computation) :
    StepReturns known good (drawing computation) := by
  intro p
  rw [finish_drawing]
  exact returns_bind (returns p.generator) fun drawn holds => .ok holds

theorem definition_returns (scope : Scope) (status : Int) (statusText : String) (headers : Parameter.Headers)
    {body : Value} (renderable : Renderable known body) :
    StepReturns known (fun _ => True) (definition scope status statusText headers body) := by
  unfold definition
  split
  · exact step_pure trivial
  · have file (name : String) : Returns (fun _ => True) known (BodyFile.ofValue name body) := by
      rw [BodyFile.ofValue]
      cases written : Json.render .document body with
      | ok s => exact .ok trivial
      | error cause => exact .error (renderable .document cause written)
    have named : StepReturns known (fun _ => True) (nextFileName scope.specName statusText) := fun _ => .ok trivial
    exact step_bind named fun name _ => step_bind (step_attempt (file name)) fun _ _ =>
      step_bind (step_modify _) fun _ _ => step_pure trivial

-- What an operation or its path item declares as a parameter.
def Site.Declares (site : Site) (raw : Value) : Prop :=
  raw ∈ itemsOf (site.item.get "parameters") ∨ raw ∈ itemsOf ((entriesOf site.operation).get "parameters")

def Site.Unfit (settings : Settings) (document : Value) (site : Site) : Prop :=
  ∃ raw param, site.Declares raw ∧ Value.resolved document settings.maxReferenceDepth raw = .ok (.map param) ∧
    Parameter.Unfit param

def Slot.place (slot : Slot) : String :=
  responseLocation (Pointer.extendText slot.site.location "responses") slot.key slot.response

def Slot.Draws (settings : Settings) (document : Value) (slot : Slot) (stage : Stage) : Prop :=
  ∃ node, Value.resolved document settings.maxReferenceDepth slot.response = .ok node ∧
    Response.Draws settings document slot.place (entriesOf node) stage

-- What may go wrong at a site apart from the reading is known.
structure Site.Foreseen (settings : Settings) (document : Value) (known : Error → Prop)
    (stands : String → Value → Prop) (site : Site) : Prop where
  unfit : site.Unfit settings document → known (.defect .notHashable)
  draws : ∀ slot ∈ site.slots, ∀ stage, slot.Draws settings document stage →
    (∀ own ∈ stage.position.declared, Part document own) → stands stage.place stage.position.schema →
    ReturnsFrom (Renderable known) known (stage.draw settings document)

section

variable {scope : Scope}

theorem response_returns (reading : Reading scope.settings scope.document known stands) {site : Site}
    (foreseen : site.Foreseen scope.settings scope.document known stands) {operation : Operation}
    (placed : operation.location = Pointer.extendText site.location "responses") {e : Value × Value}
    (among : ⟨site, e.1, e.2⟩ ∈ site.slots) (there : stands (Pointer.extendText operation.location e.1.display) e.2) :
    StepReturns known (fun _ => True) (compileResponse scope operation e.1 e.2) := by
  refine step_bind (step_attempt (Response.status_returns scope.settings reading.toLegible e.1.display)) fun _ _ => ?_
  refine step_bind (step_attempt (returns_exact (reading.resolved there))) fun node target => ?_
  refine step_bind (step_attempt (returns_exact (reading.object target.1))) fun response shaped => ?_
  cases object_at_ok shaped.2
  refine step_bind (step_attempt (Response.headers_returns reading shaped.1)) fun headers _ => ?_
  have body := Response.body_returns reading _ shaped.1 reading.rendered fun stage drawn =>
    foreseen.draws _ among stage ⟨node, target.2, by simpa only [Slot.place, responseLocation, ← placed] using drawn⟩
  exact step_bind (step_drawing body) fun _ renderable =>
    step_bind (definition_returns scope _ _ headers renderable) fun _ _ => step_modify _

theorem responses_returns (reading : Reading scope.settings scope.document known stands) {site : Site}
    (foreseen : site.Foreseen scope.settings scope.document known stands) {operation : Operation}
    (placed : operation.location = Pointer.extendText site.location "responses") (entries : Entries)
    (among : ∀ e ∈ entries, ⟨site, e.1, e.2⟩ ∈ site.slots)
    (there : ∀ e ∈ entries, stands (Pointer.extendText operation.location e.1.display) e.2) :
    StepReturns known (fun _ => True) (compileResponses scope operation entries) := by
  induction entries with
  | nil => exact step_pure trivial
  | cons entry rest ih =>
      obtain ⟨first, others⟩ := List.forall_mem_cons.mp there
      obtain ⟨slot, slots⟩ := List.forall_mem_cons.mp among
      exact step_bind (response_returns reading foreseen placed slot first) fun _ _ => ih slots others

theorem operation_returns (reading : Reading scope.settings scope.document known stands) (site : Site)
    (foreseen : site.Foreseen scope.settings scope.document known stands) (shared : List Value)
    (own : shared = itemsOf (site.item.get "parameters")) (given : ∀ v ∈ shared, Part scope.document v)
    (there : stands site.location site.operation) :
    StepReturns known (fun _ => True)
      (compileOperation scope site.path shared site.location site.method site.operation) := by
  refine step_bind (step_attempt (returns_exact (reading.object there))) fun operation shaped => ?_
  cases object_at_ok shaped.2
  have declared := reading.field shaped.1 "parameters" (by decide)
  refine step_bind (step_attempt (returns_exact (reading.list declared))) fun items listed => ?_
  cases list_at_ok listed.2
  have parts := List.forall_mem_append.mpr ⟨given, reading.items_part listed.1⟩
  have merged : Returns (fun found => ∀ p ∈ found, Part scope.document (.map p)) known
      (Parameter.merge scope.settings scope.document shared
        (itemsOf ((entriesOf site.operation).get "parameters"))) := by
    refine Parameter.merge_into_returns scope.settings reading.toLegible _ [] parts (by simp) ?_
    intro raw member param resolved broken
    refine foreseen.unfit ⟨raw, param, ?_, resolved, broken⟩
    exact (List.mem_append.mp member).imp_left fun inside => own ▸ inside
  refine step_bind (step_attempt merged) fun found inside => ?_
  have parameters : ∀ v ∈ found.map Value.map, Part scope.document v := by simpa using inside
  refine step_bind (step_modify _) fun _ _ => ?_
  have text := PathTemplate.fill_returns scope.settings reading.toLegible site.path _ parameters
  refine step_bind (step_attempt text) fun _ _ => ?_
  have required := Parameter.required_headers_returns scope.settings reading.toLegible _ [] parameters
  refine step_bind (step_attempt required) fun _ _ => ?_
  have answers := reading.field shaped.1 "responses" (by decide)
  refine step_bind (step_attempt (returns_exact (reading.object answers))) fun responses declares => ?_
  cases object_at_ok declares.2
  refine responses_returns reading foreseen rfl _ (fun e member => List.mem_map_of_mem member) fun e member => ?_
  exact reading.member declares.1 member (Pointer.inner_further (Pointer.inner_named _ "responses" (by decide)) _)

theorem method_named {key : Value} (method : isMethod key = true) : key.display ≠ "" := by
  intro empty
  rw [isMethod, empty] at method
  revert method
  decide

theorem operations_returns (reading : Reading scope.settings scope.document known stands) (path : String)
    (item : Entries) (shared : List Value) (own : shared = itemsOf (item.get "parameters"))
    (given : ∀ v ∈ shared, Part scope.document v) (entries : Entries)
    (there : ∀ e ∈ entries, e.1.display ≠ "" →
      stands (Pointer.extendText (Pointer.extendText "#/paths" path) e.1.display) e.2)
    (foreseen : ∀ site ∈ itemSites path item entries, site.Foreseen scope.settings scope.document known stands) :
    StepReturns known (fun _ => True)
      (compileOperations scope path shared (Pointer.extendText "#/paths" path) entries) := by
  induction entries with
  | nil => exact step_pure trivial
  | cons entry rest ih =>
      obtain ⟨first, others⟩ := List.forall_mem_cons.mp there
      by_cases method : isMethod entry.1 = true
      · simp only [itemSites, List.filter_cons, method, if_true, List.map_cons, List.forall_mem_cons] at foreseen
        simp only [compileOperations, method, if_true]
        exact step_bind (operation_returns reading ⟨path, item, entry.1, entry.2⟩ foreseen.1 shared own given
          (first (method_named method))) fun _ _ => ih others foreseen.2
      · simp only [itemSites, List.filter_cons, method] at foreseen
        simp only [compileOperations, method]
        exact ih others foreseen

theorem path_returns (reading : Reading scope.settings scope.document known stands) {paths : Entries}
    (there : EntriesAt stands "#/paths" paths) {e : Value × Value} (listed : e ∈ paths)
    (foreseen : ∀ site ∈ pathSites scope.settings scope.document e,
      site.Foreseen scope.settings scope.document known stands) :
    StepReturns known (fun _ => True) (compilePath scope e.1 e.2) := by
  obtain ⟨key, raw⟩ := e
  cases key with
  | str path =>
      have rooted : Pointer.Inner "#/paths" := ⟨'p', by decide, by decide⟩
      have named := reading.member there listed (Pointer.inner_further rooted path)
      refine step_bind (step_attempt (returns_exact (reading.resolved named))) fun node target => ?_
      refine step_bind (step_attempt (returns_exact (reading.object target.1))) fun item shaped => ?_
      cases object_at_ok shaped.2
      -- From here on the item is named by its path, also if it was referred to.
      have placed : EntriesAt stands (Pointer.extendText "#/paths" path) (entriesOf node) := by
        have whole := reading.pathItem (stands_of_member there listed) listed target.2
        cases node with
        | map entries => exact .inr whole
        | _ => exact .inl rfl
      have declared := reading.field placed "parameters" (by decide)
      refine step_bind (step_attempt (returns_exact (reading.list declared))) fun shared items => ?_
      cases list_at_ok items.2
      simp only [pathSites, target.2] at foreseen
      exact operations_returns reading path _ _ rfl (reading.items_part items.1) _
        (fun e member named => reading.member placed member (Pointer.inner_named _ _ named)) foreseen
  | _ => exact step_attempt (.error (reading.unplaced _ (.path _)))

variable (scope) in
theorem paths_returns (reading : Reading scope.settings scope.document known stands) {paths : Entries}
    (there : EntriesAt stands "#/paths" paths) (entries : Entries) (among : ∀ e ∈ entries, e ∈ paths)
    (foreseen : ∀ site ∈ entries.flatMap (pathSites scope.settings scope.document),
      site.Foreseen scope.settings scope.document known stands) :
    StepReturns known (fun _ => True) (compilePaths scope entries) := by
  induction entries with
  | nil => exact step_pure trivial
  | cons entry rest ih =>
      obtain ⟨first, others⟩ := List.forall_mem_cons.mp among
      simp only [List.flatMap_cons, List.forall_mem_append] at foreseen
      exact step_bind (path_returns reading there first foreseen.1) fun _ _ => ih others foreseen.2

end

-- The first server has a URL that is refused.
def RefusedUrl (document : Entries) : Prop :=
  ∃ (server : Entries) (rest : List Value) (url : String),
    document.get "servers" = .list (.map server :: rest) ∧ server.get "url" = .str url ∧ Url.path? url = none

theorem listed_of_cons {location : String} {v first : Value} {rest : List Value}
    (listed : Shape.listAt location v = .ok (first :: rest)) : v = .list (first :: rest) := by
  cases v <;> simp_all [Shape.listAt]

theorem mapped_of_found {location name : String} {v found : Value} {entries : Entries}
    (shaped : Shape.objectAt location v = .ok entries) (given : entries.get name = found) (present : found ≠ .null) :
    v = .map entries := by
  cases v with
  | null =>
      cases shaped
      exact absurd given.symm present
  | map own =>
      cases shaped
      rfl
  | _ => cases shaped

theorem base_path_returns (settings : Settings) (document : Entries)
    (reading : Reading settings (.map document) known stands)
    (refused : RefusedUrl document → known (.defect .badUrl)) : Returns (fun _ => True) known (basePath document) := by
  have servers := reading.field (.inr reading.root) "servers" (by decide)
  refine returns_bind (returns_exact (reading.list servers)) fun servers listed => ?_
  cases servers with
  | nil => exact .ok trivial
  | cons first rest =>
      have there := reading.first (listed.1.resolve_left (by simp))
      refine returns_bind (returns_exact (reading.object there)) fun server shaped => ?_
      simp only
      split
      · next filled =>
          split
          · next url given =>
              split
              · exact .ok trivial
              · next failed =>
                  have mapped := mapped_of_found shaped.2 given (by simp)
                  have servers := listed_of_cons listed.2
                  exact .error (refused ⟨server, rest, url, mapped ▸ servers, given, failed⟩)
          · next other =>
              have url := reading.field shaped.1 "url" (by decide)
              refine .error (reading.misfit url ⟨fun null => ?_, other⟩)
              rw [null] at filled
              cases filled
      · exact .ok trivial

theorem document_returns (settings : Settings) (specName : String) (document : Entries)
    (reading : Reading settings (.map document) known stands)
    (refused : RefusedUrl document → known (.defect .badUrl))
    (foreseen : ∀ site ∈ sites settings document, site.Foreseen settings (.map document) known stands) :
    StepReturns known (fun _ => True) (compileDocument settings specName document) := by
  refine step_bind (step_attempt (base_path_returns settings document reading refused)) fun base _ => ?_
  have paths := reading.field (.inr reading.root) "paths" (by decide)
  refine step_bind (step_attempt (returns_exact (reading.object paths))) fun entries shaped => ?_
  cases object_at_ok shaped.2
  exact paths_returns ⟨settings, .map document, specName, base⟩ reading shaped.1 _ (fun _ member => member) foreseen

-- A compilation that is read ends well or with what is known.
theorem compile_returns (generator : Generator) (issued : Nat) (settings : Settings) (specName : String)
    (document : Entries) (reading : Reading settings (.map document) known stands)
    (refused : RefusedUrl document → known (.defect .badUrl))
    (foreseen : ∀ site ∈ sites settings document, site.Foreseen settings (.map document) known stands) :
    Returns (fun _ => True) known (compileFrom generator issued settings specName document).outcome := by
  have returns := document_returns settings specName document reading refused foreseen (Progress.start generator issued)
  cases finished : finish (compileDocument settings specName document) (Progress.start generator issued) with
  | ok r =>
      rw [compile_from_finished finished]
      exact .ok trivial
  | error e =>
      rw [compile_from_failed finished]
      exact .error (returns_known returns finished)

end Compile

end ApiStubs
