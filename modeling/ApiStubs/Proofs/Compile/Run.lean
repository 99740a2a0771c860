import ApiStubs.Compile
import ApiStubs.Proofs.Ran

/- What the steps of a compilation do when they go well, each taken from one progress to another. -/

set_option autoImplicit false

namespace ApiStubs.Compile

open ApiStubs.Text
open Parameter (Headers)

theorem ran_attempt {α : Type} (result : Except Error α) (a : α) (p q : Progress) :
    Ran (attempt result) p a q ↔ result = .ok a ∧ p = q :=
  ran_result result a p q

def Progress.reported (p : Progress) (found : List Unresolved) : Progress :=
  { p with
    warnings := p.warnings ++ found
    records := p.records ++ found.map unresolvedRecord }

def Progress.stubbed (p : Progress) (request : RequestMatcher) (response : ResponseDefinition) : Progress :=
  { p with
    issued := p.issued + 1
    stubs := p.stubs ++ [⟨"id-" ++ Decimal.natText (p.issued + 1), request, response⟩]
    records := p.records ++ [mappedRecord request.method request.urlPattern response.status] }

def Progress.filed (p : Progress) (stem : String) (file : BodyFile) : Progress :=
  { p with
    uses := countUse p.uses stem
    files := p.files ++ [file] }

theorem ran_report (found : List Unresolved) (p q : Progress) (u : Unit) :
    Ran (report found) p u q ↔ q = p.reported found :=
  ran_modify _ p q u

theorem ran_add_stub (request : RequestMatcher) (response : ResponseDefinition) (p q : Progress) (u : Unit) :
    Ran (addStub request response) p u q ↔ q = p.stubbed request response :=
  ran_modify _ p q u

theorem ran_drawing {α : Type} (computation : Drawing α) (a : α) (p q : Progress) :
    Ran (drawing computation) p a q ↔
      ∃ generator, computation p.generator = .ok (a, generator) ∧ q = { p with generator := generator } := by
  simp only [drawing, ran_bind, ran_get, ran_attempt, ran_set, ran_pure]
  constructor
  · rintro ⟨_, _, ⟨rfl, rfl⟩, ⟨_, generator⟩, _, ⟨drawn, rfl⟩, _, _, rfl, rfl, rfl⟩
    exact ⟨generator, drawn, rfl⟩
  · rintro ⟨generator, drawn, rfl⟩
    exact ⟨p, p, ⟨rfl, rfl⟩, (a, generator), p, ⟨drawn, rfl⟩, ⟨⟩, _, rfl, rfl, rfl⟩

theorem ran_next_file_name (specName statusText name : String) (p q : Progress) :
    Ran (nextFileName specName statusText) p name q ↔
      name = fileName (stemOf specName statusText) (usesOf p.uses (stemOf specName statusText) + 1) ∧
        q = { p with uses := countUse p.uses (stemOf specName statusText) } := by
  simp only [nextFileName, ran_bind, ran_get, ran_set, ran_pure]
  constructor
  · rintro ⟨_, _, ⟨rfl, rfl⟩, _, _, rfl, rfl, rfl⟩
    exact ⟨rfl, rfl⟩
  · rintro ⟨rfl, rfl⟩
    exact ⟨p, p, ⟨rfl, rfl⟩, ⟨⟩, _, rfl, rfl, rfl⟩

def Scope.stem (scope : Scope) (statusText : String) : String :=
  stemOf scope.specName statusText

def Scope.nextName (scope : Scope) (p : Progress) (statusText : String) : String :=
  fileName (scope.stem statusText) (usesOf p.uses (scope.stem statusText) + 1)

theorem ran_definition_null (scope : Scope) (status : Int) (statusText : String) (headers : Headers)
    (answer : ResponseDefinition) (p q : Progress) :
    Ran (definition scope status statusText headers .null) p answer q ↔
      answer = ⟨status, orNone headers, none⟩ ∧ q = p := by
  simp only [definition, ran_pure, eq_comm]

theorem ran_definition_body (scope : Scope) (status : Int) (statusText : String) (headers : Headers)
    (body : Value) (answer : ResponseDefinition) (p q : Progress) (present : body ≠ .null) :
    Ran (definition scope status statusText headers body) p answer q ↔
      ∃ file, BodyFile.ofValue (scope.nextName p statusText) body = .ok file ∧
        answer = ⟨status, some (withContentType scope.settings headers), some (scope.nextName p statusText)⟩ ∧
        q = p.filed (scope.stem statusText) file := by
  have unfolded : definition scope status statusText headers body = (do
      let name ← nextFileName scope.specName statusText
      addFile (← attempt (BodyFile.ofValue name body))
      return ⟨status, some (withContentType scope.settings headers), some name⟩) := by
    unfold definition
    split
    · contradiction
    · rfl
  simp only [unfolded, ran_bind, ran_next_file_name, ran_attempt, addFile, ran_modify, ran_pure]
  constructor
  · rintro ⟨_, _, ⟨rfl, rfl⟩, file, _, ⟨written, rfl⟩, _, _, rfl, rfl, rfl⟩
    exact ⟨file, written, rfl, rfl⟩
  · rintro ⟨file, written, rfl, rfl⟩
    exact ⟨_, _, ⟨rfl, rfl⟩, file, _, ⟨written, rfl⟩, ⟨⟩, _, rfl, rfl, rfl⟩

def responseLocation (location : String) (key raw : Value) : String :=
  raw.targetLocation (Pointer.extendText location key.display)

theorem ran_compile_response (scope : Scope) (operation : Operation) (key raw : Value) (p q : Progress) (u : Unit) :
    Ran (compileResponse scope operation key raw) p u q ↔
      ∃ status node response headers body generator answer middle,
        Response.statusOf scope.settings key.display = .ok status ∧
        Value.resolved scope.document scope.settings.maxReferenceDepth raw = .ok node ∧
        Shape.objectAt (responseLocation operation.location key raw) node = .ok response ∧
        Response.headersOf scope.settings scope.document (responseLocation operation.location key raw) response =
          .ok headers ∧
        Response.bodyOf scope.settings scope.document (responseLocation operation.location key raw) response
          p.generator = .ok (body, generator) ∧
        Ran (definition scope status key.display headers body) { p with generator := generator } answer middle ∧
        q = middle.stubbed ⟨operation.method, operation.url,
          requestHeaders scope.settings status key.display operation.requiredHeaders⟩ answer := by
  simp only [compileResponse, ran_bind, ran_attempt, ran_drawing, ran_add_stub, responseLocation]
  constructor
  · rintro ⟨status, _, ⟨known, rfl⟩, node, _, ⟨resolved, rfl⟩, response, _, ⟨shaped, rfl⟩, headers, _,
      ⟨declared, rfl⟩, body, _, ⟨generator, drawn, rfl⟩, answer, middle, defined, rfl⟩
    exact ⟨status, node, response, headers, body, generator, answer, middle, known, resolved, shaped, declared,
      drawn, defined, rfl⟩
  · rintro ⟨status, node, response, headers, body, generator, answer, middle, known, resolved, shaped, declared,
      drawn, defined, rfl⟩
    exact ⟨status, p, ⟨known, rfl⟩, node, p, ⟨resolved, rfl⟩, response, p, ⟨shaped, rfl⟩, headers, p,
      ⟨declared, rfl⟩, body, _, ⟨generator, drawn, rfl⟩, answer, middle, defined, rfl⟩

theorem ran_compile_responses_cons (scope : Scope) (operation : Operation) (key raw : Value) (rest : Entries)
    (p r : Progress) (u : Unit) :
    Ran (compileResponses scope operation ((key, raw) :: rest)) p u r ↔
      ∃ q, Ran (compileResponse scope operation key raw) p () q ∧
        Ran (compileResponses scope operation rest) q u r := by
  simp only [compileResponses, ran_bind]
  exact ⟨fun ⟨_, q, first, others⟩ => ⟨q, first, others⟩, fun ⟨q, first, others⟩ => ⟨(), q, first, others⟩⟩

theorem ran_compile_operation (scope : Scope) (path : String) (shared : List Value) (location : String)
    (method raw : Value) (p q : Progress) (u : Unit) :
    Ran (compileOperation scope path shared location method raw) p u q ↔
      ∃ operation own merged text required responses,
        Shape.objectAt location raw = .ok operation ∧
        Shape.listAt (Pointer.extendText location "parameters") (operation.get "parameters") = .ok own ∧
        Parameter.merge scope.settings scope.document shared own = .ok merged ∧
        (PathTemplate.fill scope.settings scope.document path (merged.map Value.map)).1 = .ok text ∧
        Parameter.requiredHeaders scope.settings scope.document [] (merged.map Value.map) = .ok required ∧
        Shape.objectAt (Pointer.extendText location "responses") (operation.get "responses") = .ok responses ∧
        Ran (compileResponses scope ⟨asciiUpper method.display, scope.basePath ++ text, required,
            Pointer.extendText location "responses"⟩ responses)
          (p.reported (PathTemplate.fill scope.settings scope.document path (merged.map Value.map)).2) u q := by
  simp only [compileOperation, ran_bind, ran_attempt, ran_report]
  constructor
  · rintro ⟨operation, _, ⟨shaped, rfl⟩, own, _, ⟨listed, rfl⟩, merged, _, ⟨done, rfl⟩, _, _, rfl, text, _,
      ⟨filled, rfl⟩, required, _, ⟨matched, rfl⟩, responses, _, ⟨declared, rfl⟩, rest⟩
    exact ⟨operation, own, merged, text, required, responses, shaped, listed, done, filled, matched, declared, rest⟩
  · rintro ⟨operation, own, merged, text, required, responses, shaped, listed, done, filled, matched, declared, rest⟩
    exact ⟨operation, p, ⟨shaped, rfl⟩, own, p, ⟨listed, rfl⟩, merged, p, ⟨done, rfl⟩, (), _, rfl, text, _,
      ⟨filled, rfl⟩, required, _, ⟨matched, rfl⟩, responses, _, ⟨declared, rfl⟩, rest⟩

theorem ran_compile_operations_cons (scope : Scope) (path : String) (shared : List Value) (location : String)
    (key raw : Value) (rest : Entries) (p r : Progress) (u : Unit) :
    Ran (compileOperations scope path shared location ((key, raw) :: rest)) p u r ↔
      ∃ q, (if isMethod key then
          Ran (compileOperation scope path shared (Pointer.extendText location key.display) key raw) p () q
        else q = p) ∧ Ran (compileOperations scope path shared location rest) q u r := by
  by_cases method : isMethod key
  · simp only [compileOperations, if_pos method, ran_bind]
    exact ⟨fun ⟨_, q, first, others⟩ => ⟨q, first, others⟩, fun ⟨q, first, others⟩ => ⟨(), q, first, others⟩⟩
  · simp only [compileOperations, if_neg method, exists_eq_left]

theorem ran_compile_path (scope : Scope) (key raw : Value) (p q : Progress) (u : Unit) :
    Ran (compilePath scope key raw) p u q ↔
      ∃ path node item shared, key = .str path ∧
        Value.resolved scope.document scope.settings.maxReferenceDepth raw = .ok node ∧
        Shape.objectAt (raw.targetLocation (Pointer.extendText "#/paths" path)) node = .ok item ∧
        Shape.listAt (Pointer.extendText (Pointer.extendText "#/paths" path) "parameters")
          (item.get "parameters") = .ok shared ∧
        Ran (compileOperations scope path shared (Pointer.extendText "#/paths" path) item) p u q := by
  cases key with
  | str path =>
      simp only [compilePath, ran_bind, ran_attempt, Value.display]
      constructor
      · rintro ⟨node, _, ⟨resolved, rfl⟩, item, _, ⟨shaped, rfl⟩, shared, _, ⟨listed, rfl⟩, rest⟩
        exact ⟨path, node, item, shared, rfl, resolved, shaped, listed, rest⟩
      · rintro ⟨_, node, item, shared, same, resolved, shaped, listed, rest⟩
        cases same
        exact ⟨node, p, ⟨resolved, rfl⟩, item, p, ⟨shaped, rfl⟩, shared, p, ⟨listed, rfl⟩, rest⟩
  | _ => simp [compilePath, ran_throw]

theorem ran_compile_paths_cons (scope : Scope) (key raw : Value) (rest : Entries) (p r : Progress) (u : Unit) :
    Ran (compilePaths scope ((key, raw) :: rest)) p u r ↔
      ∃ q, Ran (compilePath scope key raw) p () q ∧ Ran (compilePaths scope rest) q u r := by
  simp only [compilePaths, ran_bind]
  exact ⟨fun ⟨_, q, first, others⟩ => ⟨q, first, others⟩, fun ⟨q, first, others⟩ => ⟨(), q, first, others⟩⟩

theorem ran_compile_document (settings : Settings) (specName : String) (document : Entries) (p q : Progress)
    (u : Unit) :
    Ran (compileDocument settings specName document) p u q ↔
      ∃ base paths, basePath document = .ok base ∧
        Shape.objectAt "#/paths" (document.get "paths") = .ok paths ∧
        Ran (compilePaths ⟨settings, .map document, specName, base⟩ paths) p u q := by
  simp only [compileDocument, ran_bind, ran_attempt]
  constructor
  · rintro ⟨base, _, ⟨based, rfl⟩, paths, _, ⟨shaped, rfl⟩, rest⟩
    exact ⟨base, paths, based, shaped, rest⟩
  · rintro ⟨base, paths, based, shaped, rest⟩
    exact ⟨base, p, ⟨based, rfl⟩, paths, p, ⟨shaped, rfl⟩, rest⟩

theorem compile_from_ok_iff (generator : Generator) (issued : Nat) (settings : Settings) (specName : String)
    (document : Entries) (c : Compilation) :
    (compileFrom generator issued settings specName document).outcome = .ok c ↔
      ∃ p, Ran (compileDocument settings specName document) (Progress.start generator issued) () p ∧
        c = p.result specName := by
  unfold compileFrom Ran
  cases (compileDocument settings specName document).run.run (Progress.start generator issued) with
  | mk outcome progress =>
      cases outcome with
      | error e =>
          constructor
          · intro failed
            cases failed
          · rintro ⟨p, failed, -⟩
            cases failed
      | ok u =>
          constructor
          · intro same
            cases same
            exact ⟨progress, rfl, rfl⟩
          · rintro ⟨p, same, rfl⟩
            cases same
            rfl

end ApiStubs.Compile
