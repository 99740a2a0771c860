import ApiStubs.Proofs.Compile.Slots
import ApiStubs.Proofs.Headers
import Mathlib

/- What the stubs of a compilation say. There is one stub for every slot of the document, in the order of the
   slots. The bodies that the slots come out with are drawn one after the other from a single generator; all
   else that a stub says depends on its own slot only. -/

set_option autoImplicit false

namespace ApiStubs.Compile

open ApiStubs.Text
open Parameter (Headers)

def Slot.location (slot : Slot) : String :=
  responseLocation (Pointer.extendText slot.site.location "responses") slot.key slot.response

def Slot.content (scope : Scope) (slot : Slot) : Except Error Entries := do
  let node ← Value.resolved scope.document scope.settings.maxReferenceDepth slot.response
  Shape.objectAt slot.location node

def Slot.body (scope : Scope) (slot : Slot) : Drawing Value := fun generator =>
  match slot.content scope with
  | .ok response => Response.bodyOf scope.settings scope.document slot.location response generator
  | .error e => .error e

def capitalMethods : List String :=
  ["GET", "PUT", "POST", "DELETE", "OPTIONS", "HEAD", "PATCH", "TRACE"]

structure Describes (scope : Scope) (slot : Slot) (body : Value) (stub : Stub) : Prop where
  method : stub.request.method = asciiUpper slot.site.method.display
  known : stub.request.method ∈ capitalMethods
  url : ∃ merged text, slot.site.merged scope = .ok merged ∧ (slot.site.filled scope merged).1 = .ok text ∧
    stub.request.urlPattern = scope.basePath ++ text
  status : Response.statusOf scope.settings slot.key.display = .ok stub.response.status
  errorRequest : scope.settings.errorStatusThreshold ≤ stub.response.status →
    stub.request.headers = [(scope.settings.errorIdentifierHeader, slot.key.display)]
  plainRequest : ¬ scope.settings.errorStatusThreshold ≤ stub.response.status →
    ∃ merged, slot.site.merged scope = .ok merged ∧
      Parameter.requiredHeaders scope.settings scope.document [] (merged.map Value.map) =
        .ok stub.request.headers
  response : ∃ content headers, slot.content scope = .ok content ∧
    Response.headersOf scope.settings scope.document slot.location content = .ok headers ∧
    stub.response.headers =
      if body ≠ .null then some (Parameter.overDefault "Content-Type" scope.settings.mediaType headers)
      else if headers = [] then none else some headers
  file : stub.response.bodyFileName.isSome = true ↔ body ≠ .null

theorem ascii_upper_lower (s : String) : asciiUpper (asciiLower s) = asciiUpper s := by
  simp only [asciiUpper, asciiLower, String.toList_ofList, List.map_map]
  congr 2
  funext c
  exact Char.toUpper_toLower_eq_toUpper c

theorem method_capital (key : Value) (method : isMethod key = true) :
    asciiUpper key.display ∈ capitalMethods := by
  have listed : asciiLower key.display ∈ methods := by simpa [isMethod] using method
  rw [← ascii_upper_lower]
  have each : ∀ m ∈ methods, asciiUpper m ∈ capitalMethods := by decide +kernel
  exact each _ listed

theorem or_none_eq (headers : Headers) : orNone headers = if headers = [] then none else some headers := by
  cases headers <;> rfl

theorem definition_frame (scope : Scope) (status : Int) (statusText : String) (headers : Headers)
    (body : Value) (answer : ResponseDefinition) (p q : Progress)
    (ran : Ran (definition scope status statusText headers body) p answer q) :
    q.generator = p.generator ∧ q.stubs = p.stubs ∧ q.warnings = p.warnings := by
  by_cases null : body = .null
  · subst null
    obtain ⟨-, rfl⟩ := (ran_definition_null ..).mp ran
    exact ⟨rfl, rfl, rfl⟩
  · obtain ⟨file, -, -, rfl⟩ := (ran_definition_body _ _ _ _ _ _ _ _ null).mp ran
    exact ⟨rfl, rfl, rfl⟩

theorem definition_answer (scope : Scope) (status : Int) (statusText : String) (headers : Headers)
    (body : Value) (answer : ResponseDefinition) (p q : Progress) (distinct : headers.names.Nodup)
    (ran : Ran (definition scope status statusText headers body) p answer q) :
    answer.status = status ∧ (answer.headers =
      if body ≠ .null then some (Parameter.overDefault "Content-Type" scope.settings.mediaType headers)
      else if headers = [] then none else some headers) ∧ (answer.bodyFileName.isSome = true ↔ body ≠ .null) := by
  by_cases null : body = .null
  · subst null
    obtain ⟨rfl, -⟩ := (ran_definition_null ..).mp ran
    simp [or_none_eq]
  · obtain ⟨file, -, rfl, -⟩ := (ran_definition_body _ _ _ _ _ _ _ _ null).mp ran
    simp [null, with_content_type_eq _ _ distinct]

theorem compile_response_describes (scope : Scope) (slot : Slot) (operation : Operation) (p q : Progress)
    (prepared : slot.site.Prepares scope operation)
    (ran : Ran (compileResponse scope operation slot.key slot.response) p () q) :
    q.warnings = p.warnings ∧ ∃ body stub, slot.body scope p.generator = .ok (body, q.generator) ∧
      Describes scope slot body stub ∧ q.stubs = p.stubs ++ [stub] := by
  obtain ⟨method, merged, text, required, done, filled, matched, rfl⟩ := prepared
  obtain ⟨status, node, response, headers, body, generator, answer, middle, known, resolved, shaped, declared,
    drawn, defined, rfl⟩ := (ran_compile_response ..).mp ran
  have content : slot.content scope = .ok response := by
    simp only [Slot.content, except_bind_ok]
    exact ⟨node, resolved, shaped⟩
  have distinct := Response.headers_of_distinct _ _ _ _ _ declared
  obtain ⟨statusEq, headersEq, fileIff⟩ := definition_answer _ _ _ _ _ _ _ _ distinct defined
  obtain ⟨sameGenerator, sameStubs, sameWarnings⟩ := definition_frame _ _ _ _ _ _ _ _ defined
  refine ⟨sameWarnings, body, _, ?_, ?_, congrArg (· ++ [_]) sameStubs⟩
  · simp only [Slot.body, content, Progress.stubbed, sameGenerator]
    exact drawn
  · constructor
    · rfl
    · exact method_capital slot.site.method method
    · exact ⟨merged, text, done, filled, rfl⟩
    · rw [statusEq]
      exact known
    · intro above
      rw [statusEq] at above
      simp only [requestHeaders, if_pos above]
    · intro below
      rw [statusEq] at below
      refine ⟨merged, done, ?_⟩
      simpa only [requestHeaders, if_neg below] using matched
    · exact ⟨response, headers, content, declared, headersEq⟩
    · exact fileIff

theorem draw_cons {α β : Type} (draw : α → Drawing β) (a : α) (rest : List α) (b : β) (bs : List β)
    (g h k : Generator) (first : draw a g = .ok (b, h)) (others : rest.mapM draw h = .ok (bs, k)) :
    (a :: rest).mapM draw g = .ok (b :: bs, k) := by
  rw [List.mapM_cons]
  change (draw a g >>= fun r => (rest.mapM draw >>= fun bs => pure (r.1 :: bs)) r.2) = _
  rw [first]
  change (rest.mapM draw h >>= fun r => Except.ok (b :: r.1, r.2)) = _
  rw [others]
  rfl

-- By induction on the walk. Only an answer takes a slot, and it takes one draw and adds one stub.
theorem visits_describe (scope : Scope) (slots : List Slot) (found : List Unresolved) (p q : Progress)
    (visited : Visits scope slots found p q) :
    q.warnings = p.warnings ++ found ∧ ∃ bodies stubs,
      slots.mapM (Slot.body scope) p.generator = .ok (bodies, q.generator) ∧ q.stubs = p.stubs ++ stubs ∧
      bodies.length = slots.length ∧
      List.Forall₂ (fun pair stub => Describes scope pair.1 pair.2 stub) (slots.zip bodies) stubs := by
  induction visited with
  | done => exact ⟨(List.append_nil _).symm, [], [], rfl, (List.append_nil _).symm, rfl, .nil⟩
  | report _ ih =>
      obtain ⟨warned, rest⟩ := ih
      exact ⟨by rw [warned, Progress.reported, List.append_assoc], rest⟩
  | answer prepared first _ ih =>
      obtain ⟨warned, bodies, stubs, drawn, added, count, described⟩ := ih
      obtain ⟨sameWarnings, body, stub, one, describes, appended⟩ :=
        compile_response_describes _ _ _ _ _ prepared first
      refine ⟨by rw [warned, sameWarnings], body :: bodies, stub :: stubs, draw_cons _ _ _ _ _ _ _ _ one drawn,
        ?_, congrArg (· + 1) count, .cons describes described⟩
      rw [added, appended, List.append_assoc, List.singleton_append]

theorem compile_stubs_describe_slots (generator : Generator) (issued : Nat) (settings : Settings) (specName : String)
    (document : Entries) (c : Compilation)
    (success : (compileFrom generator issued settings specName document).outcome = .ok c) :
    ∃ base bodies last, basePath document = .ok base ∧
      (slots settings document).mapM (Slot.body ⟨settings, .map document, specName, base⟩) generator =
        .ok (bodies, last) ∧
      c.stubs.length = (slots settings document).length ∧
      List.Forall₂ (fun pair stub => Describes ⟨settings, .map document, specName, base⟩ pair.1 pair.2 stub)
        ((slots settings document).zip bodies) c.stubs ∧
      c.warnings = (sites settings document).flatMap
        (Site.unresolved ⟨settings, .map document, specName, base⟩) := by
  obtain ⟨base, p, based, visited, rfl⟩ := compile_from_visits _ _ _ _ _ _ success
  obtain ⟨warned, bodies, stubs, drawn, added, paired, described⟩ := visits_describe _ _ _ _ _ visited
  have all : p.stubs = stubs := by simpa [Progress.start] using added
  have count : stubs.length = (slots settings document).length := by
    simp [← described.length_eq, paired]
  have told : p.warnings = (sites settings document).flatMap
      (Site.unresolved ⟨settings, .map document, specName, base⟩) := by simpa [Progress.start] using warned
  exact ⟨base, bodies, p.generator, based, drawn, by rw [← count, ← all, Progress.result],
    by rw [Progress.result, all]; exact described, told⟩

-- A shared parameter, an operation behind a reference, keys that are no methods, and a text used twice.
def shop : Entries :=
  let body := Value.map [(.str "application/json", .map [(.str "example", .list [.int 1])])]
  let answers := Value.map [(.str "200", .map [(.str "content", body)]),
    (.str "default", .map [(.str "headers", .map [(.str "Retry", .map [(.str "example", .int 5)])])])]
  [(.str "servers", .list [.map [(.str "url", .str "https://shop.test/v1/")]]),
    (.str "paths", .map [
      (.str "/pets/{id}/{page}", .map [
        (.str "parameters", .list [.map [(.str "name", .str "id"), (.str "in", .str "path"),
          (.str "example", .int 7)]]),
        (.str "GET", .map [
          (.str "parameters", .list [.map [(.str "name", .str "X-Key"), (.str "in", .str "header"),
            (.str "required", .bool true)]]),
          (.str "responses", answers)]),
        (.str "x-note", .int 1)]),
      (.str "/pets", .map [(.str "$ref", .str "#/item")])]),
    (.str "item", .map [(.str "post", .map [(.str "responses", answers)])])]

def shopStubs : Compilation :=
  let key := ("X-Key", "example-header-value")
  let content := ("Content-Type", "application/json")
  let error := ("X-Error-Identifier", "default")
  ⟨"shop", [
    ⟨"id-1", ⟨"GET", "/v1/pets/7/{page}", [key]⟩, ⟨200, some [content], some "shop-response-200.json"⟩⟩,
    ⟨"id-2", ⟨"GET", "/v1/pets/7/{page}", [error]⟩, ⟨500, some [("Retry", "5")], none⟩⟩,
    ⟨"id-3", ⟨"POST", "/v1/pets", []⟩, ⟨200, some [content], some "shop-response-200-2.json"⟩⟩,
    ⟨"id-4", ⟨"POST", "/v1/pets", [error]⟩, ⟨500, some [("Retry", "5")], none⟩⟩],
    [⟨"shop-response-200.json", "[\n  1\n]".toUTF8⟩, ⟨"shop-response-200-2.json", "[\n  1\n]".toUTF8⟩],
    [⟨"/pets/{id}/{page}", "page"⟩]⟩

theorem shop_compiles : compile {} "shop" shop = .ok shopStubs := by
  have compiled : (compile {} "shop" shop).toOption = some shopStubs := by decide +kernel
  revert compiled
  cases compile {} "shop" shop with
  | error e => exact fun impossible => by cases impossible
  | ok c => exact fun same => congrArg Except.ok (Option.some.inj same)

theorem shop_stubs_describe_slots :
    compile {} "shop" shop = .ok shopStubs ∧
      ∃ base bodies last, basePath shop = .ok base ∧
        (slots {} shop).mapM (Slot.body ⟨{}, .map shop, "shop", base⟩) (Generator.start {}) =
          .ok (bodies, last) ∧
        shopStubs.stubs.length = (slots {} shop).length ∧
        List.Forall₂ (fun pair stub => Describes ⟨{}, .map shop, "shop", base⟩ pair.1 pair.2 stub)
          ((slots {} shop).zip bodies) shopStubs.stubs ∧
        shopStubs.warnings = (sites {} shop).flatMap (Site.unresolved ⟨{}, .map shop, "shop", base⟩) :=
  ⟨shop_compiles, compile_stubs_describe_slots (Generator.start {}) 0 {} "shop" shop shopStubs shop_compiles⟩

end ApiStubs.Compile
