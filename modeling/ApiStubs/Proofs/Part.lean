import ApiStubs.Proofs.JsonForm
import ApiStubs.Proofs.Returns
import ApiStubs.Response

/- The parts of a document: the nodes that stand in it, and what a missing one counts as. The parts of a document that
   has a JSON form have one too, and so has what a reference leads to. Of any other document it is said beforehand what
   may go wrong in writing its parts. -/

set_option autoImplicit false

namespace ApiStubs

open Json (Formed)

-- What is reported of the structure of a document.
def Error.Structural (e : Error) : Prop :=
  e.category = some .description ∨ e.category = some .generation

-- Of these the failures that name no node of the document.
inductive Error.Unplaced : Error → Prop where
  | notFound (pointer : String) (segment : Option String) : Unplaced (.referenceNotFound pointer segment)
  | tooFar (pointer : Value) (bound : Int) : Unplaced (.referenceDepth pointer bound)
  | path (place : String) : Unplaced (.pathKey place)
  | status (key : String) : Unplaced (.statusKey key)
  | nameless (parameter : String) : Unplaced (.namelessHeader parameter)

theorem Error.unplaced_structural {e : Error} (unplaced : e.Unplaced) : e.Structural := by
  cases unplaced with
  | notFound | tooFar => exact .inr rfl
  | path | status | nameless => exact .inl rfl

-- A value that is rendered, or is not for a reason that is known.
def Renderable (known : Error → Prop) (v : Value) : Prop :=
  ∀ (layout : Json.Layout) (cause : Defect), Json.render layout v = .error cause → known (.defect cause)

theorem renderable_of_formed {known : Error → Prop} {v : Value} (formed : Formed v) : Renderable known v := by
  intro layout cause failed
  obtain ⟨s, written⟩ := Json.formed_written layout formed
  cases written.symm.trans failed

def Part (document v : Value) : Prop :=
  v = .null ∨ v = .map [] ∨ Below document v

-- A document of which the failures that name no node are known, and those of writing its parts.
structure Legible (document : Value) (known : Error → Prop) : Prop where
  unplaced : ∀ e : Error, e.Unplaced → known e
  rendered : ∀ {v : Value}, Part document v → Renderable known v

section

variable {document : Value}

theorem part_formed {v : Value} (formed : Formed document) (part : Part document v) : Formed v := by
  rcases part with rfl | rfl | below
  · trivial
  · trivial
  · exact Json.formed_below formed below

theorem part_self (document : Value) : Part document document :=
  .inr (.inr .self)

theorem part_entry {entries : Entries} {e : Value × Value} (part : Part document (.map entries))
    (member : e ∈ entries) : Part document e.2 := by
  rcases part with none | empty | below
  · cases none
  · cases empty
    exact absurd member List.not_mem_nil
  · exact .inr (.inr (below_trans _ _ _ below (.entry member .self)))

theorem part_item {items : List Value} {v : Value} (part : Part document (.list items)) (member : v ∈ items) :
    Part document v := by
  rcases part with none | empty | below
  · cases none
  · cases empty
  · exact .inr (.inr (below_trans _ _ _ below (.item member .self)))

theorem part_found {entries : Entries} {name : String} {v : Value} (part : Part document (.map entries))
    (found : entries.get? name = some v) : Part document v :=
  part_entry part (Pointer.entry_mem entries name v found)

theorem part_get {entries : Entries} (part : Part document (.map entries)) (name : String) :
    Part document (entries.get name) := by
  unfold Entries.get
  cases found : entries.get? name with
  | none => exact .inl rfl
  | some v => exact part_found part found

theorem part_resolved {v node : Value} {bound : Int} (part : Part document v)
    (target : Value.resolved document bound v = .ok node) : Part document node := by
  rcases Reference.resolved_below _ _ _ _ target with rfl | below
  · exact part
  · exact .inr (.inr below)

theorem part_object {location : String} {v : Value} {entries : Entries} (part : Part document v)
    (shaped : Shape.objectAt location v = .ok entries) : Part document (.map entries) := by
  cases v with
  | null =>
      cases shaped
      exact .inr (.inl rfl)
  | map own =>
      cases shaped
      exact part
  | _ => cases shaped

theorem get_present {entries : Entries} {name : String} {v : Value} (given : entries.get name = v)
    (present : v ≠ .null) : entries.get? name = some v := by
  unfold Entries.get at given
  cases found : entries.get? name with
  | none =>
      rw [found] at given
      exact absurd given.symm present
  | some own =>
      rw [found] at given
      exact congrArg some given

variable {known : Error → Prop}

theorem resolve_returns (legible : Legible document known) (bound : Int) (pointer : Value) :
    Returns (Part document) known (Value.resolve document bound 0 pointer) := by
  cases target : Value.resolve document bound 0 pointer with
  | ok node => exact .ok (.inr (.inr (Reference.follow_below _ _ _ _ _ target)))
  | error e =>
      refine .error (legible.unplaced e ?_)
      rcases Reference.follow_error _ _ _ _ _ target with ⟨_, _, rfl⟩ | ⟨_, rfl⟩
      · exact .notFound _ _
      · exact .tooFar _ _

theorem resolved_returns (legible : Legible document known) (bound : Int) {v : Value} (part : Part document v) :
    Returns (Part document) known (Value.resolved document bound v) := by
  unfold Value.resolved
  cases v.reference? with
  | none => exact .ok part
  | some pointer => exact resolve_returns legible bound pointer

end

end ApiStubs
