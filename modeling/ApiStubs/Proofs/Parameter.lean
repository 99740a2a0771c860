import ApiStubs.PathTemplate
import ApiStubs.Proofs.Drawing
import ApiStubs.Proofs.Part

/- What parameters come to: their examples, the merged parameters of an operation, the headers that it requires and
   its path with the placeholders filled in. -/

set_option autoImplicit false

namespace ApiStubs

variable {document : Value} {known : Error → Prop}

namespace Parameter

theorem first_named_returns (settings : Settings) (legible : Legible document known) {examples : Value}
    (part : Part document examples) :
    Returns (fun found => ∀ v ∈ found, Part document v) known (firstNamed settings document examples) := by
  unfold firstNamed
  split
  · next name first rest =>
      have inner : Part document first := part_entry part (List.mem_cons_self (a := (name, first)))
      refine returns_bind (resolved_returns legible _ inner) fun node there => ?_
      split
      · exact .ok fun v found => part_found there found
      · exact .ok (by simp)
  · exact .ok (by simp)

theorem schema_example_returns (settings : Settings) (legible : Legible document known) {param : Entries}
    (part : Part document (.map param)) :
    Returns (fun found => ∀ v ∈ found, Part document v) known (schemaExample settings document param) := by
  refine returns_bind (resolved_returns legible _ (part_get part "schema")) fun node there => ?_
  split
  · exact .ok fun v found => part_found there found
  · exact .ok (by simp)

theorem example_returns (settings : Settings) (legible : Legible document known) {param : Entries}
    (part : Part document (.map param)) :
    Returns (fun found => ∀ v ∈ found, Part document v) known (exampleOf settings document param) := by
  unfold exampleOf
  split
  · next own found =>
      refine .ok fun v same => ?_
      cases same
      exact part_found part found
  · refine returns_bind (first_named_returns settings legible (part_get part "examples")) fun found there => ?_
    split
    · exact .ok there
    · exact schema_example_returns settings legible part

theorem text_returns {v : Value} (renderable : Renderable known v) : Returns (fun _ => True) known (exampleText v) := by
  unfold exampleText
  split
  · exact .ok trivial
  · exact .ok trivial
  · exact .ok trivial
  · cases written : Json.render .inline v with
    | ok s => exact .ok trivial
    | error cause => exact .error (renderable .inline cause written)

theorem text_or_placeholder_returns (settings : Settings) (legible : Legible document known)
    {declared : Option Value} (parts : ∀ v ∈ declared, Part document v) :
    Returns (fun _ => True) known (textOrPlaceholder settings declared) := by
  unfold textOrPlaceholder
  split
  · exact .ok trivial
  · exact .ok trivial
  · next v _ => exact text_returns (legible.rendered (parts v rfl))

-- A parameter that has no identity.
def Unfit (param : Entries) : Prop :=
  (param.get "name").isKey = false ∨ (param.get "in").isKey = false

theorem override_all {holds : Entries → Prop} {merged : List Entries} {param : Entries}
    (each : ∀ p ∈ merged, holds p) (also : holds param) : ∀ p ∈ override merged param, holds p := by
  induction merged with
  | nil => simpa [override] using also
  | cons p rest ih =>
      obtain ⟨first, others⟩ := List.forall_mem_cons.mp each
      unfold override
      split
      · exact List.forall_mem_cons.mpr ⟨also, others⟩
      · exact List.forall_mem_cons.mpr ⟨first, ih others⟩

theorem merge_into_returns (settings : Settings) (legible : Legible document known) (raws : List Value)
    (merged : List Entries) (parts : ∀ raw ∈ raws, Part document raw)
    (before : ∀ p ∈ merged, Part document (.map p))
    (unfit : ∀ raw ∈ raws, ∀ param, Value.resolved document settings.maxReferenceDepth raw = .ok (.map param) →
      Unfit param → known (.defect .notHashable)) :
    Returns (fun found => ∀ p ∈ found, Part document (.map p)) known (mergeInto settings document merged raws) := by
  induction raws generalizing merged with
  | nil => exact .ok before
  | cons raw rest ih =>
      obtain ⟨first, others⟩ := List.forall_mem_cons.mp parts
      obtain ⟨here, later⟩ := List.forall_mem_cons.mp unfit
      refine returns_bind (returns_exact (resolved_returns legible _ first)) fun node there => ?_
      split
      · next param =>
          simp only
          split
          · exact ih _ others (override_all before there.1) later
          · next apart =>
              refine .error (here param there.2 ?_)
              simpa [Unfit, identityOf, ← Bool.not_eq_true, ← Decidable.not_and_iff_or_not] using apart
      · exact ih _ others before later

theorem required_headers_returns (settings : Settings) (legible : Legible document known) (raws : List Value)
    (headers : Headers) (parts : ∀ raw ∈ raws, Part document raw) :
    Returns (fun _ => True) known (requiredHeaders settings document headers raws) := by
  induction raws generalizing headers with
  | nil => exact .ok trivial
  | cons raw rest ih =>
      obtain ⟨first, others⟩ := List.forall_mem_cons.mp parts
      refine returns_bind (resolved_returns legible _ first) fun node there => ?_
      split
      · next param =>
          split
          · split
            · split
              · exact .error (legible.unplaced _ (.nameless _))
              · exact returns_bind (example_returns settings legible there) fun declared given =>
                  returns_bind (text_or_placeholder_returns settings legible given) fun text _ => ih _ others
            · exact .error (legible.unplaced _ (.nameless _))
          · exact ih _ others
      · exact ih _ others

end Parameter

namespace PathTemplate

theorem find_mem {parameters : List Value} {name : String} {v : Value} (found : find parameters name = some v) :
    v ∈ parameters := by
  unfold find at found
  split at found
  · next among =>
      cases found
      exact List.mem_of_mem_filter (List.mem_of_find?_eq_some among)
  · exact List.mem_of_find?_eq_some found

theorem filling_returns (settings : Settings) (legible : Legible document known) {param : Entries}
    (name : List Char) (part : Part document (.map param)) :
    Returns (fun _ => True) known (filling settings document param name) := by
  refine returns_bind (Parameter.example_returns settings legible part) fun declared given => ?_
  split
  · split <;> exact .ok trivial
  · split <;> exact .ok trivial
  · next v _ =>
      exact returns_bind (Parameter.text_returns (legible.rendered (given v rfl))) fun _ _ => .ok trivial

theorem fill_pieces_returns (settings : Settings) (legible : Legible document known) (path : String)
    (parameters : List Value) (parts : ∀ v ∈ parameters, Part document v) (pieces : List Piece) :
    Returns (fun _ => True) known (fillPieces settings document path parameters pieces).1 := by
  induction pieces with
  | nil => exact .ok trivial
  | cons piece rest ih =>
      cases piece with
      | literal c => exact returns_map ih fun _ _ => trivial
      | placeholder name =>
          unfold fillPieces
          split
          · next param found =>
              have filled := filling_returns settings legible name (parts _ (find_mem found))
              split
              · next e failure => exact .error (returns_known filled failure)
              · exact returns_map ih fun _ _ => trivial
          · exact returns_map ih fun _ _ => trivial

theorem fill_returns (settings : Settings) (legible : Legible document known) (path : String)
    (parameters : List Value) (parts : ∀ v ∈ parameters, Part document v) :
    Returns (fun _ => True) known (fill settings document path parameters).1 := by
  have each : Returns (List.Forall₂ (fun _ node => Part document node) parameters) known
      (parameters.mapM (Value.resolved document settings.maxReferenceDepth)) :=
    returns_map_all fun v member => resolved_returns legible _ (parts v member)
  unfold fill
  split
  · next e failure => exact .error (returns_known each failure)
  · next nodes success =>
      rw [success] at each
      cases each with
      | ok there =>
          have inner := forall_mem_of_related there
          exact returns_map (fill_pieces_returns settings legible path nodes inner _) fun _ _ => trivial

end PathTemplate

end ApiStubs
