import ApiStubs.Proofs.Compile.Run
import ApiStubs.Proofs.Simulation.Body
import ApiStubs.Proofs.Simulation.Parameter

/- Two compilations side by side. Where the two descriptions read alike, the compilations take the same steps up to
   the answers they give; an answer is agreed on by itself, so that what two runs may differ in is said once, for the
   answers and the progress, and not for every step. -/

set_option autoImplicit false

namespace ApiStubs.Compile

open ApiStubs.Text
open Parameter (Headers)

-- What is left of compiling a response when its headers are known.
def answer (scope : Scope) (request : RequestMatcher) (status : Int) (statusText : String) (headers : Headers)
    (location : String) (response : Entries) : Step Unit := do
  let body ← drawing (Response.bodyOf scope.settings scope.document location response)
  let definition ← definition scope status statusText headers body
  addStub request definition

theorem compile_response_eq (scope : Scope) (operation : Operation) (key raw : Value) :
    compileResponse scope operation key raw = (do
      let status ← attempt (Response.statusOf scope.settings key.display)
      let node ← attempt (Value.resolved scope.document scope.settings.maxReferenceDepth raw)
      let response ← attempt (Shape.objectAt (responseLocation operation.location key raw) node)
      let headers ← attempt (Response.headersOf scope.settings scope.document
        (responseLocation operation.location key raw) response)
      answer scope ⟨operation.method, operation.url,
        requestHeaders scope.settings status key.display operation.requiredHeaders⟩ status key.display headers
        (responseLocation operation.location key raw) response) :=
  rfl

structure Follows (c : Comparison) (matching : Role → Value → Value → Prop)
    (states : Progress → Progress → Prop) (scope later : Scope) : Prop where
  reads : Simulation c matching scope.settings later.settings scope.document later.document
  based : later.basePath = scope.basePath
  reported : ∀ p q found, states p q → states (p.reported found) (q.reported found)
  answered : ∀ request status statusText headers location other response changed, c.near location other →
    MatchedEntries matching .response response changed →
    c.AgreeRun states Eq (answer scope request status statusText headers location response)
      (answer later request status statusText headers other changed)

section

variable {c : Comparison} {matching : Role → Value → Value → Prop} {states : Progress → Progress → Prop}
  {scope later : Scope} {α β γ δ : Type}

theorem agree_attempt_bind {results : α → β → Prop} {further : γ → δ → Prop} {first : Except Error α}
    {second : Except Error β} {next : α → Step γ} {other : β → Step δ} (agree : c.Agree results first second)
    (goes : ∀ a b, results a b → c.AgreeRun states further (next a) (other b)) :
    c.AgreeRun states further (attempt first >>= next) (attempt second >>= other) :=
  agree_run_bind (agree_run_result agree) goes

theorem finish_noted (noted : Except Error α × List Unresolved) (next : α → Step β) (p : Progress) :
    finish (report noted.2 >>= fun _ => attempt noted.1 >>= next) p =
      together noted >>= fun both => finish (next both.1) (p.reported both.2) := by
  obtain ⟨result, found⟩ := noted
  cases result <;> rfl

-- What is reported and what fails come together: after an excused failure the reports may differ.
theorem agree_noted {results : β → γ → Prop} {noted other : Except Error α × List Unresolved}
    {next : α → Step β} {nextOther : α → Step γ} (agree : c.Agree Eq (together noted) (together other))
    (reported : ∀ p q found, states p q → states (p.reported found) (q.reported found))
    (goes : ∀ a, c.AgreeRun states results (next a) (nextOther a)) :
    c.AgreeRun states results (report noted.2 >>= fun _ => attempt noted.1 >>= next)
      (report other.2 >>= fun _ => attempt other.1 >>= nextOther) := by
  intro p q start
  rw [finish_noted, finish_noted]
  apply agree_bind agree
  intro both _ same
  subst same
  exact goes both.1 _ _ (reported p q both.2 start)

namespace Follows

variable (follows : Follows c matching states scope later)
include follows

theorem status_same (key : String) :
    Response.statusOf later.settings key = Response.statusOf scope.settings key := by
  rw [follows.reads.sameSettings]
  rfl

theorem wanted_same (status : Int) (statusText : String) (required : Headers) :
    requestHeaders later.settings status statusText required =
      requestHeaders scope.settings status statusText required := by
  rw [follows.reads.sameSettings]
  rfl

theorem response_alike {method url location other : String} {required : Headers} {key raw changed : Value}
    (near : c.near location other) (matched : matching .response raw changed) :
    c.AgreeRun states Eq (compileResponse scope ⟨method, url, required, location⟩ key raw)
      (compileResponse later ⟨method, url, required, other⟩ key changed) := by
  have placed := follows.reads.located _ _ _ _ _ matched (c.near_extend _ _ key.display near)
  rw [compile_response_eq, compile_response_eq, follows.status_same]
  apply agree_attempt_bind (agree_same _)
  intro status _ same
  subst same
  apply agree_attempt_bind (follows.reads.resolved _ (by decide) _ _ matched)
  intro node _ both
  apply agree_attempt_bind (object_alike rfl both.2 placed)
  intro response _ each
  apply agree_attempt_bind (follows.reads.headers_alike placed each)
  intro headers _ same
  subst same
  rw [follows.wanted_same]
  exact follows.answered _ _ _ _ _ _ _ _ placed each

theorem responses_alike {method url location other : String} {required : Headers} {entries others : Entries}
    (near : c.near location other) (matched : MatchedEntries matching .responses entries others) :
    c.AgreeRun states Eq (compileResponses scope ⟨method, url, required, location⟩ entries)
      (compileResponses later ⟨method, url, required, other⟩ others) := by
  induction matched with
  | nil => exact agree_run_pure rfl
  | @cons e f _ _ first _ ih =>
      obtain ⟨key, raw⟩ := e
      obtain ⟨_, changed⟩ := f
      obtain ⟨rfl, matched⟩ := first
      exact agree_run_bind (follows.response_alike near matched) fun _ _ _ => ih

theorem operation_alike {path location other : String} {shared sharedOthers : List Value}
    {method raw changed : Value} (near : c.near location other)
    (ofPath : List.Forall₂ (matching .parameter) shared sharedOthers) (matched : matching .operation raw changed) :
    c.AgreeRun states Eq (compileOperation scope path shared location method raw)
      (compileOperation later path sharedOthers other method changed) := by
  have shape := follows.reads.shaped _ _ _ rfl matched
  apply agree_attempt_bind (object_alike rfl shape near)
  intro operation others each
  have own := follows.reads.shaped .parameters _ _ rfl (follows.reads.read_alike each "parameters")
  apply agree_attempt_bind (list_alike rfl own (c.near_extend _ _ "parameters" near))
  intro _ _ listed
  apply agree_attempt_bind (follows.reads.merge_alike ofPath listed)
  intro merged mergedOthers same
  have parameters : List.Forall₂ (matching .parameter) (merged.map Value.map) (mergedOthers.map Value.map) := by
    rw [List.forall₂_map_left_iff, List.forall₂_map_right_iff]
    exact same.imp fun _ _ both => both.1
  apply agree_noted (follows.reads.fill_alike parameters path) follows.reported
  intro text
  apply agree_attempt_bind (follows.reads.required_headers_alike [] parameters)
  intro required _ same
  subst same
  have placed := c.near_extend _ _ "responses" near
  have responses := follows.reads.shaped .responses _ _ rfl (follows.reads.read_alike each "responses")
  apply agree_attempt_bind (object_alike rfl responses placed)
  intro _ _ each
  rw [follows.based]
  exact follows.responses_alike placed each

theorem operations_alike {path location other : String} {shared sharedOthers : List Value}
    {entries others : Entries} (near : c.near location other)
    (ofPath : List.Forall₂ (matching .parameter) shared sharedOthers)
    (matched : MatchedEntries matching .item entries others) :
    c.AgreeRun states Eq (compileOperations scope path shared location entries)
      (compileOperations later path sharedOthers other others) := by
  induction matched with
  | nil => exact agree_run_pure rfl
  | @cons e f _ _ first _ ih =>
      obtain ⟨key, raw⟩ := e
      obtain ⟨_, changed⟩ := f
      obtain ⟨rfl, matched⟩ := first
      unfold compileOperations
      by_cases method : isMethod key = true
      · have operation : Role.under .item key = .operation := by
          have apart : key ≠ .str "parameters" := by
            rintro rfl
            revert method
            decide
          simp only [Role.under, if_neg apart, if_pos method]
        simp only [method, if_true]
        rw [operation] at matched
        have placed := c.near_extend _ _ key.display near
        exact agree_run_bind (follows.operation_alike placed ofPath matched) fun _ _ _ => ih
      · simp only [method]
        exact ih

theorem path_alike {key raw changed : Value} (matched : matching .item raw changed) :
    c.AgreeRun states Eq (compilePath scope key raw) (compilePath later key changed) := by
  cases key with
  | str path =>
      have placed := follows.reads.located _ _ _ _ _ matched (c.near_refl (Pointer.extendText "#/paths" path))
      apply agree_attempt_bind (follows.reads.resolved _ (by decide) _ _ matched)
      intro node _ both
      apply agree_attempt_bind (object_alike rfl both.2 placed)
      intro item others each
      have shared := follows.reads.shaped .parameters _ _ rfl (follows.reads.read_alike each "parameters")
      apply agree_attempt_bind (list_alike rfl shared (c.near_refl _))
      intro _ _ listed
      exact follows.operations_alike (c.near_refl _) listed each
  | _ => exact fun _ _ _ => .failed (c.alike_refl _)

theorem paths_alike {entries others : Entries} (matched : MatchedEntries matching .paths entries others) :
    c.AgreeRun states Eq (compilePaths scope entries) (compilePaths later others) := by
  induction matched with
  | nil => exact agree_run_pure rfl
  | @cons e f _ _ first _ ih =>
      obtain ⟨key, raw⟩ := e
      obtain ⟨_, changed⟩ := f
      obtain ⟨rfl, matched⟩ := first
      exact agree_run_bind (follows.path_alike matched) fun _ _ _ => ih

end Follows

theorem base_path_alike {settings next : Settings} {document changed : Value} {entries others : Entries}
    (reads : Simulation c matching settings next document changed)
    (matched : MatchedEntries matching .document entries others) :
    c.Agree Eq (basePath entries) (basePath others) := by
  have servers := reads.shaped .servers _ _ rfl (reads.read_alike matched "servers")
  apply agree_bind (list_alike rfl servers (c.near_refl _))
  intro _ _ listed
  cases listed with
  | nil => exact .ok rfl
  | cons first _ =>
      have shape := reads.shaped .server _ _ rfl first
      apply agree_bind (object_alike rfl shape (c.near_refl _))
      intro server other each
      rw [reads.read_same each "url" rfl]
      exact agree_same _

theorem document_alike {settings next : Settings} {specName otherName : String} {document changed : Entries}
    (follows : ∀ base, Follows c matching states ⟨settings, .map document, specName, base⟩
      ⟨next, .map changed, otherName, base⟩)
    (matched : MatchedEntries matching .document document changed) :
    c.AgreeRun states Eq (compileDocument settings specName document) (compileDocument next otherName changed) := by
  have reads := (follows "").reads
  apply agree_attempt_bind (base_path_alike reads matched)
  intro base _ same
  subst same
  have paths := reads.shaped .paths _ _ rfl (reads.read_alike matched "paths")
  apply agree_attempt_bind (object_alike rfl paths (c.near_refl _))
  intro _ _ each
  exact (follows base).paths_alike each

theorem finish_drawing (computation : Drawing α) (p : Progress) :
    finish (drawing computation) p =
      computation p.generator >>= fun drawn => .ok (drawn.1, { p with generator := drawn.2 }) := by
  have read : finish (drawing computation) p = finish (attempt (computation p.generator) >>= fun drawn =>
      set { p with generator := drawn.2 } >>= fun _ => pure drawn.1) p := rfl
  rw [read]
  cases computation p.generator <;> rfl

theorem agree_drawing {results : α → β → Prop} {generators : Generator → Generator → Prop}
    {first : Drawing α} {second : Drawing β} (agree : c.AgreeFrom generators results first second)
    (read : ∀ p q, states p q → generators p.generator q.generator)
    (kept : ∀ p q g h, states p q → generators g h →
      states { p with generator := g } { q with generator := h }) :
    c.AgreeRun states results (drawing first) (drawing second) := by
  intro p q start
  rw [finish_drawing, finish_drawing]
  exact agree_bind (agree _ _ (read p q start)) fun r s both => .ok ⟨both.1, kept p q _ _ start both.2⟩

theorem agree_drawing_same (computation : Drawing α) (read : ∀ p q, states p q → p.generator = q.generator)
    (kept : ∀ p q generator, states p q →
      states { p with generator := generator } { q with generator := generator }) :
    c.AgreeRun states Eq (drawing computation) (drawing computation) := by
  have drawn : c.AgreeFrom Eq Eq computation computation := by
    rintro g _ rfl
    exact agree_imp (agree_same _) fun r s same => same ▸ ⟨rfl, rfl⟩
  refine agree_drawing drawn read ?_
  rintro p q g _ start rfl
  exact kept p q g start

-- Two runs that may differ in nothing but their failures.
theorem follows_simulation {settings next : Settings} {document changed : Value} (specName base : String)
    (reads : Simulation c matching settings next document changed) :
    Follows c matching Eq ⟨settings, document, specName, base⟩ ⟨next, changed, specName, base⟩ where
  reads := reads
  based := rfl
  reported := fun p q found same => by rw [same]
  answered := by
    intro request status statusText headers location other response edited near each
    have body := reads.body_alike reads.synthesize_alike (fun _ => rfl) near each
    have read : ∀ p q : Progress, p = q → p.generator = q.generator := fun _ _ same => by rw [same]
    have kept : ∀ (p q : Progress) (g h : Generator), p = q → g = h →
        { p with generator := g } = { q with generator := h } := fun _ _ _ _ same drawn => by rw [same, drawn]
    apply agree_run_bind (agree_drawing body read kept)
    intro v _ same
    subst same
    have defined : definition ⟨next, changed, specName, base⟩ status statusText headers v =
        definition ⟨settings, document, specName, base⟩ status statusText headers v := by
      rw [reads.sameSettings]
      rfl
    rw [defined]
    exact agree_run_same _

theorem outcome_finish (generator : Generator) (issued : Nat) (settings : Settings) (specName : String)
    (document : Entries) :
    (compileFrom generator issued settings specName document).outcome =
      (finish (compileDocument settings specName document) (Progress.start generator issued)).map fun r =>
        r.2.result specName := by
  unfold finish compileFrom
  cases (compileDocument settings specName document).run.run (Progress.start generator issued) with
  | mk outcome progress => cases outcome <;> rfl

theorem compile_from_finished {generator : Generator} {issued : Nat} {settings : Settings} {specName : String}
    {document : Entries} {r : Unit × Progress}
    (finished : finish (compileDocument settings specName document) (Progress.start generator issued) = .ok r) :
    compileFrom generator issued settings specName document = ⟨.ok (r.2.result specName), r.2.records, r.2.issued⟩ := by
  unfold finish at finished
  unfold compileFrom
  cases run : (compileDocument settings specName document).run.run (Progress.start generator issued) with
  | mk outcome progress =>
      rw [run] at finished
      cases outcome with
      | ok _ =>
          cases finished
          rfl
      | error e => cases finished

theorem compile_from_failed {generator : Generator} {issued : Nat} {settings : Settings} {specName : String}
    {document : Entries} {e : Error}
    (failed : finish (compileDocument settings specName document) (Progress.start generator issued) = .error e) :
    (compileFrom generator issued settings specName document).outcome = .error e := by
  unfold finish at failed
  unfold compileFrom
  cases run : (compileDocument settings specName document).run.run (Progress.start generator issued) with
  | mk outcome progress =>
      rw [run] at failed
      cases outcome with
      | ok _ => cases failed
      | error f =>
          cases failed
          rfl

theorem compile_from_alike {settings next : Settings} {document changed : Entries} (generator : Generator)
    (issued : Nat) (specName : String) (reads : Simulation c matching settings next (.map document) (.map changed))
    (matched : MatchedEntries matching .document document changed) :
    c.Agree
      (fun _ _ => compileFrom generator issued next specName changed =
        compileFrom generator issued settings specName document)
      (compileFrom generator issued settings specName document).outcome
      (compileFrom generator issued next specName changed).outcome := by
  have agree := document_alike (fun base => follows_simulation specName base reads) matched
    (Progress.start generator issued) _ rfl
  cases first : finish (compileDocument settings specName document) (Progress.start generator issued) with
  | ok r =>
      obtain ⟨s, second, -, ended⟩ := agree_ok agree first
      rw [compile_from_finished first, compile_from_finished second, ended]
      exact .ok rfl
  | error e =>
      rw [compile_from_failed first]
      rcases agree_error agree first with excused | ⟨f, second, alike⟩
      · exact .excused excused
      · rw [compile_from_failed second]
        exact .failed alike

-- Read alike up to nothing at all, two descriptions come out the same.
theorem outcome_same {settings : Settings} {document changed : Entries} (generator : Generator) (issued : Nat)
    (specName : String) (reads : Simulation exact matching settings settings (.map document) (.map changed))
    (matched : MatchedEntries matching .document document changed) :
    (compileFrom generator issued settings specName changed).outcome =
      (compileFrom generator issued settings specName document).outcome := by
  have agree := compile_from_alike generator issued specName reads matched
  cases first : (compileFrom generator issued settings specName document).outcome with
  | ok compilation =>
      obtain ⟨_, -, unchanged⟩ := agree_ok agree first
      rw [unchanged, first]
  | error e =>
      rcases agree_error agree first with excused | ⟨f, second, alike⟩
      · exact excused.elim
      · cases (show e = f from alike)
        exact second

end

end ApiStubs.Compile
