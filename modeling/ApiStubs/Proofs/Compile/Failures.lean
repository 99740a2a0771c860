import ApiStubs.Proofs.Batch.Attempt
import ApiStubs.Proofs.Compile.Reading

/- Failures of a compilation. Whatever the source and its document hold, the exit code of a failure is never that of
   a success: a code of its own could be, and no step of a compilation fails with one. -/

set_option autoImplicit false

namespace ApiStubs

variable {α : Type}

def Error.Counts (e : Error) : Prop :=
  e.exitCode ≠ 0

def Error.hasOwnCode : Error → Bool
  | .stated _ _ (some _) => true
  | _ => false

theorem Error.counts {e : Error} (general : e.hasOwnCode = false) : e.Counts := by
  have code : e.exitCode = (e.category.map Category.exitCode).getD 1 := by
    cases e with
    | stated category message own =>
        cases own with
        | none => rfl
        | some code => cases general
    | _ => rfl
  rw [Error.Counts, code]
  cases e.category with
  | none => decide
  | some category => cases category <;> decide

abbrev Counted (result : Except Error α) : Prop :=
  Returns (fun _ => True) Error.Counts result

theorem counted_ok (a : α) : Counted (.ok a) :=
  .ok trivial

theorem counted_error {e : Error} (general : e.hasOwnCode = false) : Counted (.error e : Except Error α) :=
  .error (Error.counts general)

namespace Value

theorem walk_counted (pointer : String) (segments : List String) (node : Value) :
    Counted (Pointer.walk pointer node segments) := by
  induction segments generalizing node with
  | nil => exact counted_ok node
  | cons segment rest ih =>
      rw [Pointer.walk]
      split
      · exact ih _
      · exact counted_error rfl

theorem lookup_counted (document pointer : Value) : Counted (Pointer.lookup document pointer) := by
  unfold Pointer.lookup
  split
  · split
    · exact walk_counted _ _ _
    · exact counted_error rfl
  · exact counted_error rfl

theorem follow_counted (document : Value) (bound : Int) (hops : Nat) (pointer : Value) :
    Counted (follow document bound hops pointer) := by
  induction hops generalizing pointer with
  | zero => exact counted_error rfl
  | succ hops ih =>
      rw [follow]
      have target := lookup_counted document pointer
      split
      · next e failed => exact .error (returns_known target failed)
      · split
        · exact ih _
        · exact counted_ok _

theorem resolved_counted (document : Value) (bound : Int) (node : Value) : Counted (resolved document bound node) := by
  unfold resolved
  split
  · exact follow_counted ..
  · exact counted_ok _

end Value

open Value (resolved_counted)

namespace Shape

theorem object_counted (location : String) (v : Value) : Counted (objectAt location v) := by
  unfold objectAt
  split
  · exact counted_ok _
  · exact counted_ok _
  · exact counted_error rfl

theorem list_counted (location : String) (v : Value) : Counted (listAt location v) := by
  unfold listAt
  split
  · exact counted_ok _
  · exact counted_ok _
  · exact counted_error rfl

end Shape

namespace Parameter

variable (settings : Settings) (document : Value)

theorem first_counted (examples : Value) : Counted (firstNamed settings document examples) := by
  unfold firstNamed
  split
  · refine returns_bind (resolved_counted ..) fun node _ => ?_
    split <;> exact counted_ok _
  · exact counted_ok _

theorem example_counted (param : Entries) : Counted (exampleOf settings document param) := by
  unfold exampleOf
  split
  · exact counted_ok _
  · refine returns_bind (first_counted settings document _) fun named _ => ?_
    split
    · exact counted_ok _
    · refine returns_bind (resolved_counted ..) fun node _ => ?_
      split <;> exact counted_ok _

theorem text_counted (v : Value) : Counted (exampleText v) := by
  unfold exampleText
  split
  · exact counted_ok _
  · exact counted_ok _
  · exact counted_ok _
  · split
    · exact counted_ok _
    · exact counted_error rfl

theorem placeholder_counted (declared : Option Value) : Counted (textOrPlaceholder settings declared) := by
  unfold textOrPlaceholder
  split
  · exact counted_ok _
  · exact counted_ok _
  · exact text_counted _

theorem merge_counted (merged : List Entries) (raws : List Value) :
    Counted (mergeInto settings document merged raws) := by
  induction raws generalizing merged with
  | nil => exact counted_ok merged
  | cons raw rest ih =>
      refine returns_bind (resolved_counted ..) fun node _ => ?_
      split
      · simp only
        split
        · exact ih _
        · exact counted_error rfl
      · exact ih _

theorem required_counted (headers : Headers) (raws : List Value) :
    Counted (requiredHeaders settings document headers raws) := by
  induction raws generalizing headers with
  | nil => exact counted_ok headers
  | cons raw rest ih =>
      refine returns_bind (resolved_counted ..) fun node _ => ?_
      split
      · split
        · split
          · split
            · exact counted_error rfl
            · exact returns_bind (example_counted ..) fun declared _ =>
                returns_bind (placeholder_counted ..) fun text _ => ih _
          · exact counted_error rfl
        · exact ih _
      · exact ih _

end Parameter

namespace PathTemplate

variable (settings : Settings) (document : Value)

theorem filling_counted (param : Entries) (name : List Char) : Counted (filling settings document param name) := by
  refine returns_bind (Parameter.example_counted settings document param) fun declared _ => ?_
  split
  · split <;> exact counted_ok _
  · split <;> exact counted_ok _
  · exact returns_bind (Parameter.text_counted _) fun _ _ => counted_ok _

theorem pieces_counted (path : String) (parameters : List Value) (pieces : List Piece) :
    Counted (fillPieces settings document path parameters pieces).1 := by
  induction pieces with
  | nil => exact counted_ok _
  | cons piece rest ih =>
      cases piece with
      | literal c => exact returns_map ih fun _ _ => trivial
      | placeholder name =>
          unfold fillPieces
          split
          · next param _ =>
            have filled := filling_counted settings document param name
            split
            · next e failure => exact .error (returns_known filled failure)
            · exact returns_map ih fun _ _ => trivial
          · exact returns_map ih fun _ _ => trivial

theorem fill_counted (path : String) (parameters : List Value) :
    Counted (fill settings document path parameters).1 := by
  have nodes : Returns (List.Forall₂ (fun _ _ => True) parameters) Error.Counts
      (parameters.mapM (Value.resolved document settings.maxReferenceDepth)) :=
    returns_map_all fun _ _ => resolved_counted ..
  unfold fill
  split
  · next e failure => exact .error (returns_known nodes failure)
  · exact returns_map (pieces_counted ..) fun _ _ => trivial

end PathTemplate

namespace Schema

variable (settings : Settings) (document : Value)

theorem members_counted (v : Value) : Counted (membersOf v) := by
  unfold membersOf
  split <;> first | exact counted_ok _ | exact counted_error rfl

theorem properties_counted (schema : Entries) (location : String) : Counted (propertiesOf schema location) := by
  unfold propertiesOf
  split
  · exact counted_ok _
  · split
    · exact counted_error rfl
    · exact counted_ok _

theorem primitive_counted (schema : Entries) (g : Generator) : Counted (primitive settings schema g) := by
  unfold primitive
  split
  · have members := members_counted (schema.get "enum")
    split
    · exact counted_ok _
    · exact counted_ok _
    · next e failure => exact .error (returns_known members failure)
  · split <;> exact counted_ok _

abbrev CountedFrom {β : Type} (drawing : Drawing β) : Prop :=
  ReturnsFrom (fun _ => True) Error.Counts drawing

variable {settings document} in
theorem object_counted {levels : Nat}
    (less : ∀ location declared v, CountedFrom (synthesizeWithin settings document levels location declared v))
    (location : String) {schema : Entries} (inline : schema.get? "$ref" = none) (object : IsObject schema) :
    CountedFrom (synthesizeWithin settings document (levels + 1) location none (.map schema)) := by
  rw [synthesize_object _ _ _ _ _ inline object]
  refine returns_state_bind (returns_state_lift (properties_counted schema location)) fun properties _ => ?_
  have each : ∀ property ∈ properties, CountedFrom (drawProperty settings document levels location property) :=
    fun property _ => returns_state_bind (less _ _ _) fun _ _ => returns_state_pure trivial
  exact returns_state_bind (returns_state_map_all each) fun _ _ => returns_state_pure trivial

-- By induction on the levels that are left, one case for each form of a schema.
theorem synthesize_counted (levels : Nat) (location : String) (declared : Option Value) (v : Value) :
    CountedFrom (synthesizeWithin settings document levels location declared v) := by
  induction levels generalizing location declared v with
  | zero =>
      intro g
      unfold synthesizeWithin
      exact counted_error rfl
  | succ levels less =>
      cases declared with
      | some own =>
          rw [synthesize_declared]
          exact returns_state_pure trivial
      | none =>
          by_cases mapped : ∃ schema : Entries, v = .map schema
          · obtain ⟨schema, rfl⟩ := mapped
            cases points : schema.get? "$ref" with
            | some pointer =>
                rw [synthesize_reference _ _ _ _ _ _ points]
                exact returns_state_bind (returns_state_lift (Value.follow_counted ..)) fun target _ =>
                  less _ none target
            | none =>
                by_cases object : IsObject schema
                · exact object_counted less location points object
                · by_cases array : IsArray schema
                  · rw [synthesize_array _ _ _ _ _ points array]
                    exact returns_state_bind (returns_state_map_all fun item _ => less _ none item) fun _ _ =>
                      returns_state_pure trivial
                  · rw [synthesize_primitive _ _ _ _ _ points object array]
                    exact primitive_counted settings schema
          · rw [synthesize_plain _ _ _ _ v fun entries same => mapped ⟨entries, same⟩]
            exact returns_state_pure trivial

end Schema

namespace Response

variable (settings : Settings) (document : Value)

theorem status_counted (key : String) : Counted (statusOf settings key) := by
  rcases status_of_cases settings key with ⟨status, means⟩ | failed
  · rw [status_of_means means]
    exact counted_ok _
  · rw [failed]
    exact counted_error rfl

theorem add_counted (headers : Parameter.Headers) (entries : Entries) :
    Counted (addHeaders settings document headers entries) := by
  induction entries generalizing headers with
  | nil => exact counted_ok headers
  | cons e rest ih =>
      have given (header : Value) : Counted (headerExample settings document header) := by
        unfold headerExample
        split
        · exact Parameter.example_counted ..
        · exact counted_ok _
      exact returns_bind (resolved_counted ..) fun header _ => returns_bind (given header) fun declared _ =>
        returns_bind (Parameter.placeholder_counted settings declared) fun text _ => ih _

theorem headers_counted (location : String) (response : Entries) :
    Counted (headersOf settings document location response) :=
  returns_bind (Shape.object_counted ..) fun declared _ => add_counted settings document [] declared

theorem content_counted (location : String) (content : Entries) :
    Schema.CountedFrom (bodyOfContent settings document location content) := by
  unfold bodyOfContent
  split
  · refine returns_state_lift (returns_bind (resolved_counted ..) fun node _ => ?_)
    split <;> exact counted_ok _
  · simp only
    split
    · refine returns_state_bind (returns_state_lift (Value.follow_counted ..)) fun target _ => ?_
      split
      · exact returns_state_pure trivial
      · exact Schema.synthesize_counted settings document _ _ _ _
    · exact Schema.synthesize_counted settings document _ _ _ _

theorem body_counted (location : String) (response : Entries) :
    Schema.CountedFrom (bodyOf settings document location response) := by
  refine returns_state_bind (returns_state_lift (Shape.object_counted ..)) fun contents _ => ?_
  split
  · exact returns_state_pure trivial
  · exact returns_state_bind (returns_state_lift (Shape.object_counted ..)) fun content _ =>
      content_counted settings document _ content

end Response

namespace Compile

variable {β : Type}

abbrev StepCounted (step : Step β) : Prop :=
  StepReturns Error.Counts (fun _ => True) step

theorem definition_counted (scope : Scope) (status : Int) (statusText : String) (headers : Parameter.Headers)
    (body : Value) : StepCounted (definition scope status statusText headers body) := by
  unfold definition
  split
  · exact step_pure trivial
  · have named : StepCounted (nextFileName scope.specName statusText) := fun _ => .ok trivial
    have file (name : String) : Counted (BodyFile.ofValue name body) := by
      unfold BodyFile.ofValue
      split
      · exact counted_ok _
      · exact counted_error rfl
    exact step_bind named fun name _ => step_bind (step_attempt (file name)) fun _ _ =>
      step_bind (step_modify _) fun _ _ => step_pure trivial

variable (scope : Scope)

theorem response_counted (operation : Operation) (key raw : Value) :
    StepCounted (compileResponse scope operation key raw) := by
  refine step_bind (step_attempt (Response.status_counted ..)) fun _ _ => ?_
  refine step_bind (step_attempt (resolved_counted ..)) fun node _ => ?_
  refine step_bind (step_attempt (Shape.object_counted ..)) fun response _ => ?_
  refine step_bind (step_attempt (Response.headers_counted ..)) fun headers _ => ?_
  refine step_bind (step_drawing (Response.body_counted _ _ _ response)) fun body _ => ?_
  exact step_bind (definition_counted scope _ _ headers body) fun _ _ => step_modify _

theorem responses_counted (operation : Operation) (entries : Entries) :
    StepCounted (compileResponses scope operation entries) := by
  induction entries with
  | nil => exact step_pure trivial
  | cons e rest ih => exact step_bind (response_counted scope operation e.1 e.2) fun _ _ => ih

theorem operation_counted (path : String) (shared : List Value) (location : String) (method raw : Value) :
    StepCounted (compileOperation scope path shared location method raw) := by
  refine step_bind (step_attempt (Shape.object_counted ..)) fun operation _ => ?_
  refine step_bind (step_attempt (Shape.list_counted ..)) fun own _ => ?_
  refine step_bind (step_attempt (Parameter.merge_counted ..)) fun merged _ => ?_
  refine step_bind (step_modify _) fun _ _ => ?_
  refine step_bind (step_attempt (PathTemplate.fill_counted ..)) fun text _ => ?_
  refine step_bind (step_attempt (Parameter.required_counted ..)) fun required _ => ?_
  exact step_bind (step_attempt (Shape.object_counted ..)) fun responses _ =>
    responses_counted scope _ responses

theorem operations_counted (path : String) (shared : List Value) (location : String) (entries : Entries) :
    StepCounted (compileOperations scope path shared location entries) := by
  induction entries with
  | nil => exact step_pure trivial
  | cons e rest ih =>
      by_cases method : isMethod e.1 = true
      · simp only [compileOperations, method, if_true]
        exact step_bind (operation_counted scope path shared _ e.1 e.2) fun _ _ => ih
      · simp only [compileOperations, method]
        exact ih

theorem path_counted (key raw : Value) : StepCounted (compilePath scope key raw) := by
  unfold compilePath
  simp only
  split
  · refine step_bind (step_attempt (resolved_counted ..)) fun node _ => ?_
    refine step_bind (step_attempt (Shape.object_counted ..)) fun item _ => ?_
    exact step_bind (step_attempt (Shape.list_counted ..)) fun shared _ =>
      operations_counted scope _ shared _ item
  · exact fun _ => .error (Error.counts rfl)

theorem paths_counted (entries : Entries) : StepCounted (compilePaths scope entries) := by
  induction entries with
  | nil => exact step_pure trivial
  | cons e rest ih => exact step_bind (path_counted scope e.1 e.2) fun _ _ => ih

theorem base_counted (document : Entries) : Counted (basePath document) := by
  refine returns_bind (Shape.list_counted ..) fun servers _ => ?_
  split
  · exact counted_ok _
  · refine returns_bind (Shape.object_counted ..) fun server _ => ?_
    simp only
    split
    · split
      · split
        · exact counted_ok _
        · exact counted_error rfl
      · exact counted_error rfl
    · exact counted_ok _

theorem compile_counted (generator : Generator) (issued : Nat) (settings : Settings) (specName : String)
    (document : Entries) : Counted (compileFrom generator issued settings specName document).outcome := by
  have steps : StepCounted (compileDocument settings specName document) :=
    step_bind (step_attempt (base_counted document)) fun base _ =>
      step_bind (step_attempt (Shape.object_counted ..)) fun paths _ => paths_counted _ paths
  have returns := steps (Progress.start generator issued)
  cases finished : finish (compileDocument settings specName document) (Progress.start generator issued) with
  | ok r =>
      rw [compile_from_finished finished]
      exact counted_ok _
  | error e =>
      rw [compile_from_failed finished]
      exact .error (returns_known returns finished)

end Compile

namespace Description

theorem object_counted (v : Value) : Counted (requireObject v) := by
  unfold requireObject
  split <;> first | exact counted_ok _ | exact counted_error rfl

theorem yaml_counted (notes : List String) (content : String) : Counted (readYaml notes content) := by
  unfold readYaml
  split
  · exact object_counted _
  · exact counted_error rfl
  · exact counted_error rfl

theorem parse_counted (form : Form) (content : String) : Counted (parse form content) := by
  unfold parse
  split
  · exact yaml_counted ..
  · split
    · exact object_counted _
    · exact counted_error rfl
    · simp only
      split
      · exact counted_error rfl
      · exact yaml_counted ..

theorem version_counted (document : Entries) : Counted (versionOf document) := by
  unfold versionOf
  split
  · exact counted_error rfl
  · split
    · exact counted_error rfl
    · split
      · exact counted_ok _
      · exact counted_error rfl

end Description

namespace Source

theorem file_counted (store : Store) (directory : Place) (p : Path) : Counted (readFile store directory p) := by
  unfold readFile
  split
  · exact counted_error rfl
  · exact counted_error rfl
  · split
    · have content : Counted (readContent store directory p) := by
        unfold readContent
        split
        · exact counted_error rfl
        · split
          · exact counted_ok _
          · exact counted_error rfl
      exact returns_bind content fun _ _ => counted_ok _
    · exact counted_error rfl

theorem read_counted (host : Host) (store : Store) (source : String) : Counted (read host store source) := by
  have input (given : Input) : Counted (readInput given) := by
    unfold readInput
    split
    · exact counted_error rfl
    · exact counted_error rfl
    · split
      · exact counted_error rfl
      · exact counted_ok _
  have page (reply : Reply) : Counted (readPage source reply) := by
    unfold readPage
    split
    · exact counted_error rfl
    · split
      · exact counted_ok _
      · exact counted_error rfl
  unfold read
  split
  · exact returns_bind (input host.input) fun _ _ => counted_ok _
  · split
    · exact page _
    · exact file_counted ..

theorem load_counted (host : Host) (store : Store) (source : String) : Counted (load host store source) := by
  refine returns_bind (read_counted host store source) fun content _ => ?_
  simp only
  split
  · exact counted_error rfl
  · exact Description.parse_counted ..

end Source

theorem Batch.compiled_counted (fresh : Settings → Generator) (host : Host) (store : Store) (issued : Nat)
    (source specName : String) (settings : Settings) :
    Counted (compiledFrom fresh host store issued source specName settings) :=
  returns_bind (Source.load_counted host store source) fun document _ =>
    returns_bind (Description.version_counted document) fun _ _ =>
      Compile.compile_counted (fresh settings) issued settings specName document

end ApiStubs
