import ApiStubs.Proofs.Compile.Identifiers
import ApiStubs.Proofs.Compile.Refusal
import ApiStubs.Proofs.Origin
import ApiStubs.Proofs.Schema.Chance

/- What chance decides in a compilation. Two compilations that differ in what is drawn fail alike, or have the same
   stubs up to the answers of those responses for which it is left open whether there is a body at all; when there are
   none, only the contents of the body files differ. -/

set_option autoImplicit false

namespace ApiStubs

open Json (Formed Plain)
open Schema (AnyGenerators)

-- The same answer, but for whether there is a body, and what follows from that.
structure ResponseDefinition.SameButBody (a b : ResponseDefinition) : Prop where
  status : a.status = b.status
  headers : a.bodyFileName.isSome = b.bodyFileName.isSome → a.headers = b.headers

structure Stub.SameButBody (a b : Stub) : Prop where
  id : a.id = b.id
  request : a.request = b.request
  response : a.response.SameButBody b.response

namespace Response

-- The body is drawn for an enumeration that lists null beside other values.
def UndecidedBody (settings : Settings) (document : Value) (response : Entries) : Prop :=
  ∃ location place schema, originOf settings document location response = .ok (.drawn place none schema) ∧
    Schema.Undecided document settings.maxReferenceDepth schema

theorem agree_returns {c : Comparison} {α : Type} {generators : Generator → Generator → Prop} {results : α → α → Prop}
    {good : α → Prop} {known : Error → Prop} {drawing : Drawing α}
    (agree : c.AgreeFrom generators results drawing drawing) (returns : ReturnsFrom good known drawing) :
    c.AgreeFrom generators (fun a b => results a b ∧ good a ∧ good b) drawing drawing := by
  intro g h start
  have both := agree g h start
  have first := returns g
  have second := returns h
  generalize drawing g = x, drawing h = y at both first second
  cases both with
  | ok related =>
      cases first with
      | ok holds =>
          cases second with
          | ok also => exact .ok ⟨⟨related.1, holds, also⟩, related.2⟩
  | failed alike => exact .failed alike
  | excused excused => exact .excused excused

theorem document_foreseen {document : Value} (formed : Formed document) : Schema.Foreseen document fun _ => True :=
  ⟨formed, fun _ _ => trivial, fun _ _ _ => trivial⟩

-- Both bodies can be written, and one is null only if the other is.
def BodiesAlike (decided : Prop) (a b : Value) : Prop :=
  (decided → (a = .null ↔ b = .null)) ∧ Formed a ∧ Formed b

theorem body_alike {c : Comparison} {settings : Settings} {document : Value} {decided : Prop} (location : String)
    {response : Entries} (formed : Formed document) (part : Part document (.map response))
    (decides : decided → ¬ UndecidedBody settings document response) :
    c.AgreeFrom AnyGenerators (BodiesAlike decided) (bodyOf settings document location response)
      (bodyOf settings document location response) := by
  have reading : Reading settings document (fun _ => True) fun _ v => Part document v :=
    part_reading settings formed fun _ _ => trivial
  have returns := body_returns reading location (.inr part) (part_formed formed) fun stage _ given there =>
    Schema.draws_within settings (document_foreseen formed) stage.levels stage.place _ _ given there
  refine agree_returns ?_ returns
  rw [body_of_origin]
  refine agree_lift_bind (agree_known _) fun origin _ both => ?_
  obtain ⟨rfl, known⟩ := both
  cases origin with
  | given v => exact agree_state_pure fun _ => Iff.rfl
  | drawn place declared schema =>
      intro g h start
      refine agree_imp (Schema.draws_alike place declared schema g h start) fun _ _ both => ⟨fun holds => ?_, both.2⟩
      refine both.1 fun none undecided => decides holds ?_
      subst none
      exact ⟨location, place, schema, known, undecided⟩

end Response

namespace Compile

def Slot.Undecided (settings : Settings) (document : Value) (slot : Slot) : Prop :=
  ∃ node, Value.resolved document settings.maxReferenceDepth slot.response = .ok node ∧
    Response.UndecidedBody settings document (entriesOf node)

-- Two compilations up to what is left open; if all is decided, up to the contents of the files.
structure Alike (decided : Prop) (p q : Progress) : Prop where
  issued : p.issued = q.issued
  records : p.records = q.records
  warnings : p.warnings = q.warnings
  stubs : List.Forall₂ Stub.SameButBody p.stubs q.stubs
  uses : decided → p.uses = q.uses
  same : decided → p.stubs = q.stubs
  files : decided → p.files.map BodyFile.name = q.files.map BodyFile.name

def AnswersAlike (decided : Prop) (a b : ResponseDefinition) : Prop :=
  a.SameButBody b ∧ (decided → a = b)

theorem finish_of_ran {α : Type} {step : Step α} {p q : Progress} {a : α} (ran : Ran step p a q) :
    finish step p = .ok (a, q) := by
  unfold finish
  rw [ran]

section

variable {decided : Prop} {scope : Scope}

theorem report_alike (found : List Unresolved) : exact.AgreeRun (Alike decided) Eq (report found) (report found) := by
  intro p q alike
  have records : p.records ++ found.map unresolvedRecord = q.records ++ found.map unresolvedRecord := by
    rw [alike.records]
  have warnings : p.warnings ++ found = q.warnings ++ found := by rw [alike.warnings]
  exact .ok ⟨rfl, ⟨alike.issued, records, warnings, alike.stubs, alike.uses, alike.same, alike.files⟩⟩

theorem stub_alike (request : RequestMatcher) {a b : ResponseDefinition} (answers : AnswersAlike decided a b) :
    exact.AgreeRun (Alike decided) Eq (addStub request a) (addStub request b) := by
  intro p q alike
  have issued : p.issued + 1 = q.issued + 1 := by rw [alike.issued]
  have records : p.records ++ [mappedRecord request.method request.urlPattern a.status] =
      q.records ++ [mappedRecord request.method request.urlPattern b.status] := by
    rw [alike.records, answers.1.status]
  have here : Stub.SameButBody ⟨"id-" ++ Decimal.natText (p.issued + 1), request, a⟩
      ⟨"id-" ++ Decimal.natText (q.issued + 1), request, b⟩ := ⟨by rw [alike.issued], rfl, answers.1⟩
  have same : decided → p.stubs ++ [⟨"id-" ++ Decimal.natText (p.issued + 1), request, a⟩] =
      q.stubs ++ [⟨"id-" ++ Decimal.natText (q.issued + 1), request, b⟩] := fun holds => by
    rw [alike.same holds, alike.issued, answers.2 holds]
  exact .ok ⟨rfl, ⟨issued, records, alike.warnings, List.rel_append alike.stubs (.cons here .nil), alike.uses, same,
    alike.files⟩⟩

variable (scope) in
theorem definition_filed (status : Int) (statusText : String) (headers : Parameter.Headers) {body : Value}
    (formed : Formed body) (present : body ≠ .null) (p : Progress) :
    ∃ content, finish (definition scope status statusText headers body) p =
      .ok (⟨status, some (withContentType scope.settings headers), some (scope.nextName p statusText)⟩,
        p.filed (scope.stem statusText) ⟨scope.nextName p statusText, content⟩) := by
  obtain ⟨s, written⟩ := Json.formed_written .document formed
  refine ⟨s.toUTF8, finish_of_ran ((ran_definition_body _ _ _ _ _ _ _ _ present).mpr ⟨_, ?_, rfl, rfl⟩)⟩
  rw [BodyFile.ofValue, written]

theorem definition_unfiled (status : Int) (statusText : String) (headers : Parameter.Headers) (p : Progress) :
    finish (definition scope status statusText headers .null) p = .ok (⟨status, orNone headers, none⟩, p) :=
  rfl

theorem filed_alike {p q : Progress} (alike : Alike decided p q) (stem name other : String) (content more : ByteArray)
    (names : decided → name = other) :
    Alike decided (p.filed stem ⟨name, content⟩) (q.filed stem ⟨other, more⟩) where
  issued := alike.issued
  records := alike.records
  warnings := alike.warnings
  stubs := alike.stubs
  uses := fun holds => by simp only [Progress.filed, alike.uses holds]
  same := alike.same
  files := fun holds => by simp [Progress.filed, alike.files holds, names holds]

-- A file in one of the two only, when there may be one or not.
theorem left_filed {p q : Progress} (alike : Alike decided p q) (never : ¬ decided) (stem : String) (file : BodyFile) :
    Alike decided (p.filed stem file) q :=
  ⟨alike.issued, alike.records, alike.warnings, alike.stubs, fun holds => absurd holds never,
    fun holds => absurd holds never, fun holds => absurd holds never⟩

theorem right_filed {p q : Progress} (alike : Alike decided p q) (never : ¬ decided) (stem : String)
    (file : BodyFile) : Alike decided p (q.filed stem file) :=
  ⟨alike.issued, alike.records, alike.warnings, alike.stubs, fun holds => absurd holds never,
    fun holds => absurd holds never, fun holds => absurd holds never⟩

theorem definition_alike (status : Int) (statusText : String) (headers : Parameter.Headers) {a b : Value}
    (bodies : Response.BodiesAlike decided a b) :
    exact.AgreeRun (Alike decided) (AnswersAlike decided) (definition scope status statusText headers a)
      (definition scope status statusText headers b) := by
  obtain ⟨null, first, second⟩ := bodies
  intro p q alike
  by_cases left : a = .null
  · subst left
    by_cases right : b = .null
    · subst right
      exact .ok ⟨⟨⟨rfl, fun _ => rfl⟩, fun _ => rfl⟩, alike⟩
    · obtain ⟨content, filed⟩ := definition_filed scope status statusText headers second right q
      have never : ¬ decided := fun holds => right ((null holds).mp rfl)
      rw [definition_unfiled, filed]
      exact .ok ⟨⟨⟨rfl, fun same => by cases same⟩, fun holds => absurd holds never⟩, right_filed alike never _ _⟩
  · obtain ⟨content, filed⟩ := definition_filed scope status statusText headers first left p
    by_cases right : b = .null
    · subst right
      have never : ¬ decided := fun holds => left ((null holds).mpr rfl)
      rw [definition_unfiled, filed]
      exact .ok ⟨⟨⟨rfl, fun same => by cases same⟩, fun holds => absurd holds never⟩, left_filed alike never _ _⟩
    · obtain ⟨more, also⟩ := definition_filed scope status statusText headers second right q
      have names : decided → scope.nextName p statusText = scope.nextName q statusText := fun holds => by
        rw [Scope.nextName, alike.uses holds]
        rfl
      rw [filed, also]
      exact .ok ⟨⟨⟨rfl, fun _ => rfl⟩, fun holds => by rw [names holds]⟩, filed_alike alike _ _ _ _ _ names⟩

theorem answer_alike (request : RequestMatcher) (status : Int) (statusText : String) (headers : Parameter.Headers)
    (location : String) {response : Entries} (formed : Formed scope.document)
    (part : Part scope.document (.map response))
    (decides : decided → ¬ Response.UndecidedBody scope.settings scope.document response) :
    exact.AgreeRun (Alike decided) Eq (answer scope request status statusText headers location response)
      (answer scope request status statusText headers location response) := by
  have body := Response.body_alike (c := exact) location formed part decides
  have kept : ∀ (p q : Progress) (g h : Generator), Alike decided p q → AnyGenerators g h →
      Alike decided { p with generator := g } { q with generator := h } := fun _ _ _ _ alike _ =>
    ⟨alike.issued, alike.records, alike.warnings, alike.stubs, alike.uses, alike.same, alike.files⟩
  refine agree_run_bind (agree_drawing body (fun _ _ _ => trivial) kept) fun a b bodies => ?_
  exact agree_run_bind (definition_alike status statusText headers bodies) fun _ _ answers =>
    stub_alike request answers

theorem response_alike (site : Site) (operation : Operation) (key : Value) {raw : Value}
    (formed : Formed scope.document) (part : Part scope.document raw)
    (decides : decided → ¬ Slot.Undecided scope.settings scope.document ⟨site, key, raw⟩) :
    exact.AgreeRun (Alike decided) Eq (compileResponse scope operation key raw)
      (compileResponse scope operation key raw) := by
  rw [compile_response_eq]
  refine agree_attempt_bind (agree_same _) fun status _ same => ?_
  subst same
  refine agree_attempt_bind (agree_known _) fun node _ both => ?_
  obtain ⟨rfl, resolved⟩ := both
  refine agree_attempt_bind (agree_known _) fun response _ both => ?_
  obtain ⟨rfl, shaped⟩ := both
  refine agree_attempt_bind (agree_same _) fun headers _ same => ?_
  subst same
  refine answer_alike _ status key.display headers _ formed (part_object (part_resolved part resolved) shaped) ?_
  intro holds undecided
  cases object_at_ok shaped
  exact decides holds ⟨node, resolved, undecided⟩

theorem responses_alike (site : Site) (operation : Operation) (entries : Entries) (formed : Formed scope.document)
    (parts : ∀ e ∈ entries, Part scope.document e.2)
    (decides : decided → ∀ slot ∈ entrySlots site entries, ¬ slot.Undecided scope.settings scope.document) :
    exact.AgreeRun (Alike decided) Eq (compileResponses scope operation entries)
      (compileResponses scope operation entries) := by
  induction entries with
  | nil => exact agree_run_pure rfl
  | cons entry rest ih =>
      obtain ⟨first, others⟩ := List.forall_mem_cons.mp parts
      have here : decided → ¬ Slot.Undecided scope.settings scope.document ⟨site, entry.1, entry.2⟩ := fun holds =>
        (List.forall_mem_cons.mp (decides holds)).1
      exact agree_run_bind (response_alike site operation entry.1 formed first here) fun _ _ _ =>
        ih others fun holds => (List.forall_mem_cons.mp (decides holds)).2

theorem operation_alike (site : Site) (location : String) (shared : List Value) (formed : Formed scope.document)
    (part : Part scope.document site.operation)
    (decides : decided → ∀ slot ∈ site.slots, ¬ slot.Undecided scope.settings scope.document) :
    exact.AgreeRun (Alike decided) Eq (compileOperation scope site.path shared location site.method site.operation)
      (compileOperation scope site.path shared location site.method site.operation) := by
  refine agree_attempt_bind (agree_known _) fun operation _ both => ?_
  obtain ⟨rfl, shaped⟩ := both
  refine agree_attempt_bind (agree_same _) fun own _ same => ?_
  subst same
  refine agree_attempt_bind (agree_same _) fun merged _ same => ?_
  subst same
  refine agree_run_bind (report_alike _) fun _ _ _ => ?_
  refine agree_attempt_bind (agree_same _) fun text _ same => ?_
  subst same
  refine agree_attempt_bind (agree_same _) fun required _ same => ?_
  subst same
  refine agree_attempt_bind (agree_known _) fun responses _ both => ?_
  obtain ⟨rfl, listed⟩ := both
  have there := part_object (part_get (part_object part shaped) "responses") listed
  cases object_at_ok shaped
  cases object_at_ok listed
  exact responses_alike site _ _ formed (fun _ member => part_entry there member) decides

theorem operations_alike (path : String) (item : Entries) (location : String) (shared : List Value)
    (entries : Entries) (formed : Formed scope.document) (parts : ∀ e ∈ entries, Part scope.document e.2)
    (decides : decided → ∀ slot ∈ (itemSites path item entries).flatMap Site.slots,
      ¬ slot.Undecided scope.settings scope.document) :
    exact.AgreeRun (Alike decided) Eq (compileOperations scope path shared location entries)
      (compileOperations scope path shared location entries) := by
  induction entries with
  | nil => exact agree_run_pure rfl
  | cons entry rest ih =>
      obtain ⟨first, others⟩ := List.forall_mem_cons.mp parts
      by_cases method : isMethod entry.1 = true
      · simp only [itemSites, List.filter_cons, method, if_true, List.map_cons, List.flatMap_cons,
          List.forall_mem_append] at decides
        simp only [compileOperations, method, if_true]
        exact agree_run_bind (operation_alike ⟨path, item, entry.1, entry.2⟩ _ shared formed first
          fun holds => (decides holds).1) fun _ _ _ => ih others fun holds => (decides holds).2
      · simp only [itemSites, List.filter_cons, method] at decides
        simp only [compileOperations, method]
        exact ih others decides

theorem path_alike (key : Value) {raw : Value} (formed : Formed scope.document) (part : Part scope.document raw)
    (decides : decided → ∀ slot ∈ (pathSites scope.settings scope.document (key, raw)).flatMap Site.slots,
      ¬ slot.Undecided scope.settings scope.document) :
    exact.AgreeRun (Alike decided) Eq (compilePath scope key raw) (compilePath scope key raw) := by
  cases key with
  | str path =>
      refine agree_attempt_bind (agree_known _) fun node _ both => ?_
      obtain ⟨rfl, resolved⟩ := both
      refine agree_attempt_bind (agree_known _) fun item _ both => ?_
      obtain ⟨rfl, shaped⟩ := both
      refine agree_attempt_bind (agree_same _) fun shared _ same => ?_
      subst same
      have there := part_object (part_resolved part resolved) shaped
      cases object_at_ok shaped
      simp only [pathSites, resolved] at decides
      exact operations_alike path _ _ shared _ formed (fun _ member => part_entry there member) decides
  | _ => exact fun _ _ _ => .failed rfl

variable (scope) in
theorem paths_alike (entries : Entries) (formed : Formed scope.document)
    (parts : ∀ e ∈ entries, Part scope.document e.2)
    (decides : decided →
      ∀ slot ∈ (entries.flatMap (pathSites scope.settings scope.document)).flatMap Site.slots,
        ¬ slot.Undecided scope.settings scope.document) :
    exact.AgreeRun (Alike decided) Eq (compilePaths scope entries) (compilePaths scope entries) := by
  induction entries with
  | nil => exact agree_run_pure rfl
  | cons entry rest ih =>
      obtain ⟨first, others⟩ := List.forall_mem_cons.mp parts
      simp only [List.flatMap_cons, List.flatMap_append, List.forall_mem_append] at decides
      exact agree_run_bind (path_alike entry.1 formed first fun holds => (decides holds).1) fun _ _ _ =>
        ih others fun holds => (decides holds).2

end

end Compile

end ApiStubs
