import ApiStubs.Proofs.Compile.Identifiers
import ApiStubs.Proofs.Compile.Output

/- The name of a description. It leads the names of the body files and stands nowhere else: under two names the same
   stubs come out, and the same files, the names of which go on alike behind the name. The uses of a stem are counted
   alike under both, since either name makes different stems of different status texts. -/

set_option autoImplicit false

namespace ApiStubs

open ApiStubs.Decimal

-- Two file names that go on alike, each behind a name of its own.
def SameEnding (a b name other : String) : Prop :=
  ∃ ending, name = a ++ ending ∧ other = b ++ ending

structure ResponseDefinition.SameButFile (a b : String) (first second : ResponseDefinition) : Prop where
  status : first.status = second.status
  headers : first.headers = second.headers
  file : Option.Rel (SameEnding a b) first.bodyFileName second.bodyFileName

structure Stub.SameButFile (a b : String) (first second : Stub) : Prop where
  id : first.id = second.id
  request : first.request = second.request
  response : first.response.SameButFile a b second.response

structure BodyFile.SameButName (a b : String) (first second : BodyFile) : Prop where
  name : SameEnding a b first.name second.name
  content : first.content = second.content

-- Every stub with a body file names the file that stands at its turn.
def Compilation.Paired (c : Compilation) : Prop :=
  (c.stubs.filterMap fun stub => stub.response.bodyFileName) = c.files.map BodyFile.name

structure Compilation.SameButName (a b : String) (first second : Compilation) : Prop where
  stubs : List.Forall₂ (Stub.SameButFile a b) first.stubs second.stubs
  files : List.Forall₂ (BodyFile.SameButName a b) first.files second.files
  warnings : first.warnings = second.warnings

namespace Compile

theorem stem_injective {name s t : String} (same : stemOf name s = stemOf name t) : s = t := by
  have chars := congrArg String.toList same
  simp only [stemOf, String.toList_append, List.append_cancel_left_eq] at chars
  exact String.toList_inj.mp chars

theorem file_name_ending (name text : String) (use : Nat) :
    fileName (stemOf name text) use = name ++ fileName (stemOf "" text) use := by
  apply String.toList_inj.mp
  simp [file_name_chars, stemOf]

-- Two compilations under the names `a` and `b`, in step.
structure SameButName (a b : String) (p q : Progress) : Prop where
  generator : p.generator = q.generator
  issued : p.issued = q.issued
  uses : ∀ text, usesOf p.uses (stemOf a text) = usesOf q.uses (stemOf b text)
  stubs : List.Forall₂ (Stub.SameButFile a b) p.stubs q.stubs
  files : List.Forall₂ (BodyFile.SameButName a b) p.files q.files
  warnings : p.warnings = q.warnings

theorem uses_counted {a b : String} {uses others : List (String × Nat)}
    (same : ∀ text, usesOf uses (stemOf a text) = usesOf others (stemOf b text)) (used text : String) :
    usesOf (countUse uses (stemOf a used)) (stemOf a text) =
      usesOf (countUse others (stemOf b used)) (stemOf b text) := by
  by_cases here : text = used
  · subst here
    rw [uses_of_count_self, uses_of_count_self, same]
  · have first : stemOf a text ≠ stemOf a used := fun stems => here (stem_injective stems)
    have second : stemOf b text ≠ stemOf b used := fun stems => here (stem_injective stems)
    rw [uses_of_count_other _ _ _ first, uses_of_count_other _ _ _ second, same]

theorem next_name_ending (a b statusText : String) :
    exact.AgreeRun (SameButName a b) (SameEnding a b) (nextFileName a statusText) (nextFileName b statusText) := by
  intro p q same
  have ending : SameEnding a b (fileName (stemOf a statusText) (usesOf p.uses (stemOf a statusText) + 1))
      (fileName (stemOf b statusText) (usesOf q.uses (stemOf b statusText) + 1)) := by
    rw [same.uses]
    exact ⟨_, file_name_ending a statusText _, file_name_ending b statusText _⟩
  exact .ok ⟨ending, ⟨same.generator, same.issued, uses_counted same.uses statusText, same.stubs, same.files,
    same.warnings⟩⟩

theorem body_file_renamed {a b name other : String} (ending : SameEnding a b name other) (body : Value) :
    exact.Agree (BodyFile.SameButName a b) (BodyFile.ofValue name body) (BodyFile.ofValue other body) := by
  unfold BodyFile.ofValue
  cases Json.render .document body with
  | ok s => exact .ok ⟨ending, rfl⟩
  | error cause => exact .failed rfl

theorem add_file_renamed {a b : String} {file other : BodyFile} (same : file.SameButName a b other) :
    exact.AgreeRun (SameButName a b) Eq (addFile file) (addFile other) := by
  intro p q alike
  have files := List.rel_append alike.files (.cons same .nil)
  exact .ok ⟨rfl, ⟨alike.generator, alike.issued, alike.uses, alike.stubs, files, alike.warnings⟩⟩

theorem definition_renamed (scope : Scope) (b : String) (status : Int) (statusText : String)
    (headers : Parameter.Headers) (body : Value) :
    exact.AgreeRun (SameButName scope.specName b) (ResponseDefinition.SameButFile scope.specName b)
      (definition scope status statusText headers body)
      (definition { scope with specName := b } status statusText headers body) := by
  unfold definition
  split
  · exact agree_run_pure ⟨rfl, rfl, .none⟩
  · refine agree_run_bind (next_name_ending _ _ _) fun name other ending => ?_
    refine agree_attempt_bind (body_file_renamed ending _) fun file renamed same => ?_
    exact agree_run_bind (add_file_renamed same) fun _ _ _ => agree_run_pure ⟨rfl, rfl, .some ending⟩

theorem add_stub_renamed {a b : String} (request : RequestMatcher) {response other : ResponseDefinition}
    (same : response.SameButFile a b other) :
    exact.AgreeRun (SameButName a b) Eq (addStub request response) (addStub request other) := by
  intro p q alike
  have issued : p.issued + 1 = q.issued + 1 := by rw [alike.issued]
  have stubs := List.rel_append alike.stubs
    (.cons (show Stub.SameButFile a b ⟨"id-" ++ natText (p.issued + 1), request, response⟩
      ⟨"id-" ++ natText (q.issued + 1), request, other⟩ from ⟨by rw [issued], rfl, same⟩) .nil)
  exact .ok ⟨rfl, ⟨alike.generator, issued, alike.uses, stubs, alike.files, alike.warnings⟩⟩

theorem answer_renamed (scope : Scope) (b : String) (request : RequestMatcher) (status : Int) (statusText : String)
    (headers : Parameter.Headers) (location : String) (response : Entries) :
    exact.AgreeRun (SameButName scope.specName b) Eq (answer scope request status statusText headers location response)
      (answer { scope with specName := b } request status statusText headers location response) := by
  have drawn : exact.AgreeRun (SameButName scope.specName b) Eq
      (drawing (Response.bodyOf scope.settings scope.document location response))
      (drawing (Response.bodyOf scope.settings scope.document location response)) :=
    agree_drawing_same _ (fun _ _ same => same.generator)
      fun _ _ _ same => ⟨rfl, same.issued, same.uses, same.stubs, same.files, same.warnings⟩
  refine agree_run_bind drawn fun body _ same => ?_
  subst same
  refine agree_run_bind (definition_renamed scope b status statusText headers body) fun first second same => ?_
  exact add_stub_renamed request same

theorem follows_renamed (scope : Scope) (b : String) :
    Follows exact (fun _ v w => v = w) (SameButName scope.specName b) scope { scope with specName := b } := by
  refine follows_answers scope b ?_ (answer_renamed scope b)
  intro p q found same
  have warnings : p.warnings ++ found = q.warnings ++ found := by rw [same.warnings]
  exact ⟨same.generator, same.issued, same.uses, same.stubs, same.files, warnings⟩

theorem outcome_renamed (generator : Generator) (issued : Nat) (settings : Settings) (a b : String)
    (document : Entries) :
    exact.Agree (Compilation.SameButName a b) (compileFrom generator issued settings a document).outcome
      (compileFrom generator issued settings b document).outcome := by
  have follows (base : String) : Follows exact (fun _ v w => v = w) (SameButName a b)
      ⟨settings, .map document, a, base⟩ ⟨settings, .map document, b, base⟩ :=
    follows_renamed ⟨settings, .map document, a, base⟩ b
  have agree := document_alike follows (matched_same .document document) (Progress.start generator issued)
    (Progress.start generator issued) ⟨rfl, rfl, fun _ => rfl, .nil, .nil, rfl⟩
  rw [outcome_finish, outcome_finish]
  exact agree_map agree fun _ _ both => ⟨both.2.stubs, both.2.files, both.2.warnings⟩

theorem failure_renamed (generator : Generator) (issued : Nat) (settings : Settings) (a b : String) (document : Entries)
    (e : Error) (failed : (compileFrom generator issued settings a document).outcome = .error e) :
    (compileFrom generator issued settings b document).outcome = .error e := by
  rcases agree_error (outcome_renamed generator issued settings a b document) failed with excused | ⟨f, second, same⟩
  · exact excused.elim
  · cases (show e = f from same)
    exact second

theorem compiled_paired {generator : Generator} {issued : Nat} {settings : Settings} {specName : String}
    {document : Entries} {c : Compilation}
    (success : (compileFrom generator issued settings specName document).outcome = .ok c) :
    c.name = specName ∧ c.Paired := by
  obtain ⟨base, p, named, rfl⟩ := compiled_named success
  exact ⟨rfl, named.paired⟩

theorem name_leads_file_names (generator : Generator) (issued : Nat) (settings : Settings) (document : Entries)
    (a b : String) :
    (∀ e, (compileFrom generator issued settings a document).outcome = .error e ↔
      (compileFrom generator issued settings b document).outcome = .error e) ∧
    (∀ c, (compileFrom generator issued settings a document).outcome = .ok c →
      ∃ d, (compileFrom generator issued settings b document).outcome = .ok d ∧ c.name = a ∧ d.name = b ∧
        Compilation.SameButName a b c d ∧ c.Paired ∧ d.Paired) ∧
    (∀ e, compileStubs generator issued settings document = .error e ↔
      (compileFrom generator issued settings a document).outcome = .error e) ∧
    ∀ c, (compileFrom generator issued settings a document).outcome = .ok c →
      ∃ stubs, compileStubs generator issued settings document = .ok stubs ∧
        List.Forall₂ (Stub.SameButFile a "spec") c.stubs stubs := by
  have failures (name other : String) (e : Error) := failure_renamed generator issued settings name other document e
  refine ⟨fun e => ⟨failures a b e, failures b a e⟩, ?_, ?_, ?_⟩
  · intro c success
    obtain ⟨d, second, same⟩ := agree_ok (outcome_renamed generator issued settings a b document) success
    obtain ⟨named, paired⟩ := compiled_paired success
    obtain ⟨alsoNamed, alsoPaired⟩ := compiled_paired second
    exact ⟨d, second, named, alsoNamed, same, paired, alsoPaired⟩
  · intro e
    rw [compileStubs]
    constructor
    · intro failed
      cases unnamed : (compileFrom generator issued settings "spec" document).outcome with
      | ok d => simp [unnamed, Except.map] at failed
      | error f =>
          rw [unnamed] at failed
          cases failed
          exact failures "spec" a e unnamed
    · intro failed
      rw [failures a "spec" e failed]
      rfl
  · intro c success
    obtain ⟨d, second, same⟩ := agree_ok (outcome_renamed generator issued settings a "spec" document) success
    refine ⟨d.stubs, ?_, same.stubs⟩
    rw [compileStubs, second]
    rfl

-- A name that ends as a file name does.
theorem shop_under_another_name :
    compile {} "shop" shop = .ok shopStubs ∧
      (∃ d, compile {} "shop-response-200-2" shop = .ok d ∧
        Compilation.SameButName "shop" "shop-response-200-2" shopStubs d ∧ shopStubs.Paired ∧ d.Paired) ∧
      ∃ stubs, compileStubs (Generator.start {}) 0 {} shop = .ok stubs ∧
        List.Forall₂ (Stub.SameButFile "shop" "spec") shopStubs.stubs stubs := by
  obtain ⟨-, named, -, unnamed⟩ := name_leads_file_names (Generator.start {}) 0 {} shop "shop" "shop-response-200-2"
  obtain ⟨d, compiled, -, -, same, paired⟩ := named shopStubs shop_compiles
  exact ⟨shop_compiles, ⟨d, compiled, same, paired⟩, unnamed shopStubs shop_compiles⟩

end Compile

end ApiStubs
