import ApiStubs.Proofs.Origin
import ApiStubs.Proofs.Parameter
import ApiStubs.Proofs.Reading
import ApiStubs.Proofs.Schema.Drawn
import ApiStubs.Proofs.Schema.Expansion
import ApiStubs.Proofs.StatusText

/- What responses come to: the status that a key names, the headers, and what the body comes from. -/

set_option autoImplicit false

namespace ApiStubs

open Schema (Stage)

variable {settings : Settings} {document : Value} {known : Error → Prop} {stands : String → Value → Prop}

namespace Response

theorem status_returns (settings : Settings) (legible : Legible document known) (key : String) :
    Returns (fun _ => True) known (statusOf settings key) := by
  rcases status_of_cases settings key with ⟨status, means⟩ | failed
  · rw [status_of_means means]
    exact .ok trivial
  · rw [failed]
    exact .error (legible.unplaced _ (.status _))

theorem header_example_returns (settings : Settings) (legible : Legible document known) {header : Value}
    (part : Part document header) :
    Returns (fun found => ∀ v ∈ found, Part document v) known (headerExample settings document header) := by
  unfold headerExample
  split
  · exact Parameter.example_returns settings legible part
  · exact .ok (by simp)

theorem add_headers_returns (settings : Settings) (legible : Legible document known) (declared : Entries)
    (headers : Parameter.Headers) (parts : ∀ e ∈ declared, Part document e.2) :
    Returns (fun _ => True) known (addHeaders settings document headers declared) := by
  induction declared generalizing headers with
  | nil => exact .ok trivial
  | cons entry rest ih =>
      obtain ⟨first, others⟩ := List.forall_mem_cons.mp parts
      exact returns_bind (resolved_returns legible _ first) fun header there =>
        returns_bind (header_example_returns settings legible there) fun own given =>
          returns_bind (Parameter.text_or_placeholder_returns settings legible given) fun text _ => ih _ others

theorem headers_returns (reading : Reading settings document known stands) {location : String} {response : Entries}
    (there : EntriesAt stands location response) :
    Returns (fun _ => True) known (headersOf settings document location response) := by
  have declared := reading.object (reading.field there "headers" (by decide))
  refine returns_bind declared fun entries inner => ?_
  have parts := reading.entries_part inner
  exact add_headers_returns settings reading.toLegible entries [] fun _ member => part_entry parts member

theorem body_of_examples_returns (settings : Settings) (legible : Legible document known) {first : Value}
    (part : Part document first) : Returns (Part document) known (bodyOfExamples settings document first) := by
  refine returns_bind (resolved_returns legible _ part) fun node there => ?_
  split
  · exact .ok (part_get there "value")
  · exact .ok (.inl rfl)

theorem value_in_part {v inner : Value} (part : Part document v) (found : valueIn v = some inner) :
    Part document inner := by
  cases v with
  | map entries => exact part_found part found
  | _ => cases found

-- A body is given in the document, or drawn for a schema of it.
def Origin.Stands (document : Value) (stands : String → Value → Prop) : Origin → Prop
  | .given v => Part document v
  | .drawn place declared schema => (∀ own ∈ declared, Part document own) ∧ stands place schema

theorem referred_stands (reading : Reading settings document known stands) {pointer target : Value}
    (there : stands pointer.display target) : (referredOrigin pointer target).Stands document stands := by
  unfold referredOrigin
  cases found : valueIn target with
  | some v => exact value_in_part (reading.part there) found
  | none => exact ⟨by simp, there⟩

theorem declared_origin_returns (reading : Reading settings document known stands) {location : String}
    {content : Entries} (there : EntriesAt stands location content) :
    Returns (Origin.Stands document stands) known (declaredOrigin settings document location content) := by
  unfold declaredOrigin
  split
  · next pointer points =>
      obtain ⟨v, found, points⟩ := Option.bind_eq_some_iff.mp points
      have inner := Pointer.inner_named location "example" (by decide)
      have declared := reading.found there found inner
      have target := returns_exact (resolve_returns reading.toLegible settings.maxReferenceDepth pointer)
      exact returns_map target fun node both => referred_stands reading (reading.target declared points both.2)
  · exact .ok ⟨fun own found => part_found (reading.entries_part there) found, reading.field there "schema" (by decide)⟩

theorem content_origin_returns (reading : Reading settings document known stands) {location : String}
    {content : Entries} (there : EntriesAt stands location content) :
    Returns (Origin.Stands document stands) known (contentOrigin settings document location content) := by
  unfold contentOrigin
  split
  · next name first rest given =>
      have examples := part_get (reading.entries_part there) "examples"
      have listed : Part document (.map ((name, first) :: rest)) := given ▸ examples
      have inner : Part document first := part_entry listed (List.mem_cons_self (a := (name, first)))
      exact returns_map (body_of_examples_returns settings reading.toLegible inner) fun _ given => given
  · exact declared_origin_returns reading there

theorem origin_returns (reading : Reading settings document known stands) {location : String} {response : Entries}
    (there : EntriesAt stands location response) :
    Returns (Origin.Stands document stands) known (originOf settings document location response) := by
  have content := reading.field there "content" (by decide)
  refine returns_bind (reading.object content) fun contents inside => ?_
  have inner := Pointer.inner_further (Pointer.inner_named location "content" (by decide)) settings.mediaType
  have media := reading.get inside inner
  unfold mediaOrigin
  split
  · exact .ok (.inl rfl)
  · exact returns_bind (reading.object media) fun entries shaped => content_origin_returns reading shaped

-- The stage at which a body begins to be drawn.
def Draws (settings : Settings) (document : Value) (location : String) (response : Entries) (stage : Stage) : Prop :=
  ∃ place declared schema, originOf settings document location response = .ok (.drawn place declared schema) ∧
    stage = Stage.first settings place declared schema

theorem body_returns {fine : Value → Prop} (reading : Reading settings document known stands) (location : String)
    {response : Entries} (there : EntriesAt stands location response)
    (given : ∀ {v : Value}, Part document v → fine v)
    (draws : ∀ stage, Draws settings document location response stage →
      (∀ own ∈ stage.position.declared, Part document own) → stands stage.place stage.position.schema →
      ReturnsFrom fine known (stage.draw settings document)) :
    ReturnsFrom fine known (bodyOf settings document location response) := by
  rw [body_of_origin]
  refine returns_state_bind (returns_state_lift (returns_exact (origin_returns reading there))) fun origin both => ?_
  cases origin with
  | given v => exact returns_state_pure (given both.1)
  | drawn place declared schema =>
      have first := draws (Stage.first settings place declared schema) ⟨place, declared, schema, both.2, rfl⟩
        both.1.1 both.1.2
      rwa [← Schema.synthesize_first] at first

end Response

end ApiStubs
