import ApiStubs.Proofs.Compile.Bounds

/- Identifiers. They count on from what was issued before a compilation, and nothing else in the compilation hangs on
   that: from two counts the same stubs come out, under other identifiers. -/

set_option autoImplicit false

namespace ApiStubs

def Stub.SameButIdentifier (a b : Stub) : Prop :=
  a.request = b.request ∧ a.response = b.response

structure Compilation.SameButIdentifiers (a b : Compilation) : Prop where
  name : a.name = b.name
  stubs : List.Forall₂ Stub.SameButIdentifier a.stubs b.stubs
  files : a.files = b.files
  warnings : a.warnings = b.warnings

namespace Stub

-- An identifier is a text, which can always be written.
theorem form_alike {a b : Stub} (same : a.SameButIdentifier b) (layout : Json.Layout) (level : Nat) :
    (Json.valueForm layout level a.toValue).map (fun _ => ()) =
      (Json.valueForm layout level b.toValue).map fun _ => () := by
  simp only [toValue, same.1, same.2, Json.valueForm, Json.entriesForm, Json.keyText, bind, Except.bind]
  cases Json.valueForm layout (level + 1) b.request.toValue with
  | error cause => rfl
  | ok request => cases Json.valueForm layout (level + 1) b.response.toValue <;> rfl

theorem forms_alike {as bs : List Stub} (same : List.Forall₂ SameButIdentifier as bs) (layout : Json.Layout)
    (level : Nat) :
    (Json.itemsForm layout level (as.map toValue)).map (fun _ => ()) =
      (Json.itemsForm layout level (bs.map toValue)).map fun _ => () := by
  induction same with
  | nil => rfl
  | @cons a b as bs first _ ih =>
      have head := form_alike first layout level
      simp only [List.map_cons, Json.itemsForm, bind, Except.bind]
      generalize Json.valueForm layout level a.toValue = x, Json.valueForm layout level b.toValue = y at head
      generalize Json.itemsForm layout level (as.map toValue) = xs, Json.itemsForm layout level (bs.map toValue) = ys
        at ih
      cases x <;> cases y <;> cases head
      · rfl
      · cases xs <;> cases ys <;> cases ih <;> rfl

theorem document_text_alike {as bs : List Stub} (same : List.Forall₂ SameButIdentifier as bs) :
    exact.Agree (fun _ _ => True) (documentText as) (documentText bs) := by
  have items := forms_alike same .document 2
  simp only [documentText, documentOf, Json.render, Json.valueForm, Json.entriesForm, Json.keyText, bind, Except.bind]
  generalize Json.itemsForm .document 2 (as.map toValue) = x, Json.itemsForm .document 2 (bs.map toValue) = y at items
  cases x <;> cases y <;> cases items
  · exact .failed rfl
  · exact .ok trivial

end Stub

namespace Compile

structure SameButIssued (p q : Progress) : Prop where
  generator : p.generator = q.generator
  uses : p.uses = q.uses
  stubs : List.Forall₂ Stub.SameButIdentifier p.stubs q.stubs
  files : p.files = q.files
  warnings : p.warnings = q.warnings

theorem matched_same (role : Role) (entries : Entries) : MatchedEntries (fun _ v w => v = w) role entries entries :=
  List.forall₂_same.mpr fun _ _ => ⟨rfl, rfl⟩

theorem matched_itself {role : Role} {entries others : Entries}
    (matched : MatchedEntries (fun _ v w => v = w) role entries others) : entries = others := by
  have same := matched.imp fun _ _ both => Prod.ext both.1 both.2
  rwa [List.forall₂_eq_eq_eq] at same

theorem reads_reseeded (settings later : Settings) (document : Value)
    (drawing : later = { settings with locale := later.locale, seed := later.seed }) :
    Simulation exact (fun _ v w => v = w) settings later document document where
  sameSettings := by rw [drawing]
  inert := fun _ _ same => same
  null := fun _ => rfl
  empty := rfl
  emptied := fun same => by cases same
  shaped := by
    rintro role v _ - rfl
    exact same_shape_refl role v fun _ _ _ => rfl
  content := by
    rintro v _ rfl
    exact .inl (same_shape_refl _ v fun _ _ _ => rfl)
  resolved := by
    rintro role - v _ rfl
    have bound : later.maxReferenceDepth = settings.maxReferenceDepth := by rw [drawing]
    rw [bound]
    refine agree_imp (agree_same _) ?_
    rintro node _ rfl
    exact ⟨rfl, same_shape_refl role node fun _ _ _ => rfl⟩
  located := by
    rintro role v _ location _ rfl rfl
    rfl
  nameless := by
    intro entries others matched
    rw [matched_itself matched]
    rfl
  levels := .inl (by rw [drawing])

theorem reads_itself (settings : Settings) (document : Value) :
    Simulation exact (fun _ v w => v = w) settings settings document document :=
  reads_reseeded settings settings document rfl

theorem next_name_same (specName statusText : String) :
    exact.AgreeRun SameButIssued Eq (nextFileName specName statusText) (nextFileName specName statusText) := by
  intro p q same
  have name : fileName (stemOf specName statusText) (usesOf p.uses (stemOf specName statusText) + 1) =
      fileName (stemOf specName statusText) (usesOf q.uses (stemOf specName statusText) + 1) := by rw [same.uses]
  have uses : countUse p.uses (stemOf specName statusText) = countUse q.uses (stemOf specName statusText) := by
    rw [same.uses]
  exact .ok ⟨name, ⟨same.generator, uses, same.stubs, same.files, same.warnings⟩⟩

theorem add_file_same (file : BodyFile) : exact.AgreeRun SameButIssued Eq (addFile file) (addFile file) := by
  intro p q same
  have files : p.files ++ [file] = q.files ++ [file] := by rw [same.files]
  exact .ok ⟨rfl, ⟨same.generator, same.uses, same.stubs, files, same.warnings⟩⟩

theorem definition_same (scope : Scope) (status : Int) (statusText : String) (headers : Parameter.Headers)
    (body : Value) :
    exact.AgreeRun SameButIssued Eq (definition scope status statusText headers body)
      (definition scope status statusText headers body) := by
  unfold definition
  split
  · exact agree_run_pure rfl
  · refine agree_run_bind (next_name_same _ _) fun name _ same => ?_
    subst same
    refine agree_attempt_bind (agree_same _) fun file _ same => ?_
    subst same
    exact agree_run_bind (add_file_same file) fun _ _ _ => agree_run_pure rfl

theorem add_stub_same (request : RequestMatcher) (response : ResponseDefinition) :
    exact.AgreeRun SameButIssued Eq (addStub request response) (addStub request response) := by
  intro p q same
  have stubs := List.rel_append same.stubs
    (.cons (show Stub.SameButIdentifier ⟨"id-" ++ Decimal.natText (p.issued + 1), request, response⟩
      ⟨"id-" ++ Decimal.natText (q.issued + 1), request, response⟩ from ⟨rfl, rfl⟩) .nil)
  exact .ok ⟨rfl, ⟨same.generator, same.uses, stubs, same.files, same.warnings⟩⟩

theorem answer_same (scope : Scope) (request : RequestMatcher) (status : Int) (statusText : String)
    (headers : Parameter.Headers) (location : String) (response : Entries) :
    exact.AgreeRun SameButIssued Eq (answer scope request status statusText headers location response)
      (answer scope request status statusText headers location response) := by
  have drawn : exact.AgreeRun SameButIssued Eq
      (drawing (Response.bodyOf scope.settings scope.document location response))
      (drawing (Response.bodyOf scope.settings scope.document location response)) :=
    agree_drawing_same _ (fun _ _ same => same.generator)
      fun _ _ _ same => ⟨rfl, same.uses, same.stubs, same.files, same.warnings⟩
  refine agree_run_bind drawn fun body _ same => ?_
  subst same
  refine agree_run_bind (definition_same scope status statusText headers body) fun definition _ same => ?_
  subst same
  exact add_stub_same request definition

-- Under one name or under two, one description is read in one way.
theorem follows_answers {states : Progress → Progress → Prop} (scope : Scope) (specName : String)
    (reported : ∀ p q found, states p q → states (p.reported found) (q.reported found))
    (answered : ∀ request status statusText headers location response,
      exact.AgreeRun states Eq (answer scope request status statusText headers location response)
        (answer { scope with specName := specName } request status statusText headers location response)) :
    Follows exact (fun _ v w => v = w) states scope { scope with specName := specName } where
  reads := reads_itself scope.settings scope.document
  based := rfl
  reported := reported
  answered := by
    intro request status statusText headers location other response changed near each
    cases matched_itself each
    cases (show location = other from near)
    exact answered request status statusText headers location response

theorem follows_itself (scope : Scope) : Follows exact (fun _ v w => v = w) SameButIssued scope scope := by
  refine follows_answers scope scope.specName ?_ (answer_same scope)
  intro p q found same
  have warnings : p.warnings ++ found = q.warnings ++ found := by rw [same.warnings]
  exact ⟨same.generator, same.uses, same.stubs, same.files, warnings⟩

theorem identifiers_only (generator : Generator) (issued other : Nat) (settings : Settings) (specName : String)
    (document : Entries) :
    exact.Agree Compilation.SameButIdentifiers (compileFrom generator issued settings specName document).outcome
      (compileFrom generator other settings specName document).outcome := by
  have follows (base : String) := follows_itself ⟨settings, .map document, specName, base⟩
  have agree := document_alike follows (matched_same .document document) (Progress.start generator issued)
    (Progress.start generator other) ⟨rfl, rfl, .nil, rfl, rfl⟩
  rw [outcome_finish, outcome_finish]
  exact agree_map agree fun _ _ both => ⟨rfl, both.2.stubs, both.2.files, both.2.warnings⟩

end Compile

end ApiStubs
