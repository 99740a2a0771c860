import ApiStubs.Proofs.Components
import ApiStubs.Proofs.Simulation.Basic

/- A description and an edited copy of it as a matching. As long as references lead into the components and nothing is
   edited there, a node and its copy refer to the same nodes; only the nodes that are edited themselves remain to be
   looked at. -/

set_option autoImplicit false

namespace ApiStubs

def EditedInside (edit : Role → Value → Value → Prop) (role : Role) (v w : Value) : Prop :=
  Edited edit role v w ∧ PointsIntoComponents v

namespace EditedInside

variable {edit : Role → Value → Value → Prop} {role : Role} {document changed : Entries} {bound : Int}

theorem unedited {v : Value} (inside : PointsIntoComponents v) : EditedInside edit role v v :=
  ⟨.kept, inside⟩

theorem unedited_shape {v : Value} (inside : PointsIntoComponents v) : SameShape (EditedInside edit) role v v :=
  same_shape_refl role v fun _ inner below => unedited (points_below v inner inside below)

theorem unedited_entries {entries : Entries} (inside : PointsIntoComponents (.map entries)) :
    MatchedEntries (EditedInside edit) role entries entries :=
  List.forall₂_same.mpr fun _ member => ⟨rfl, unedited (points_below _ _ inside (.entry member .self))⟩

theorem unedited_field {entries : Entries} (inside : PointsIntoComponents (.map entries)) (name : String) :
    EditedInside edit role (entries.get name) (entries.get name) := by
  rcases Pointer.read_below entries name with absent | below
  · rw [absent]
    exact unedited (by decide)
  · exact unedited (points_below _ _ inside below)

theorem entries_matched {entries others : Entries} (each : ∀ e ∈ entries, PointsIntoComponents e.2) :
    EditedEntries edit role entries others → MatchedEntries (EditedInside edit) role entries others
  | .nil => .nil
  | .cons first rest => .cons ⟨rfl, first, each _ List.mem_cons_self⟩
      (entries_matched (fun e member => each e (List.mem_cons_of_mem _ member)) rest)

theorem items_matched {items others : List Value} (each : ∀ v ∈ items, PointsIntoComponents v) :
    EditedItems edit role items others → List.Forall₂ (EditedInside edit role.within) items others
  | .nil => .nil
  | .cons first rest => .cons ⟨first, each _ List.mem_cons_self⟩
      (items_matched (fun v member => each v (List.mem_cons_of_mem _ member)) rest)

theorem shape {v w : Value} (matched : EditedInside edit role v w) (apart : ¬ edit role v w) :
    SameShape (EditedInside edit) role v w := by
  obtain ⟨edited, inside⟩ := matched
  cases edited with
  | kept => exact unedited_shape inside
  | edited allowed => exact absurd allowed apart
  | map each =>
      exact .map (entries_matched (fun e member => points_below _ _ inside (.entry member .self)) each)
  | list each =>
      exact .list (items_matched (fun v member => points_below _ _ inside (.item member .self)) each)

theorem document_matched (matched : EditedInside edit .document (.map document) (.map changed))
    (apart : ¬ edit .document (.map document) (.map changed)) :
    MatchedEntries (EditedInside edit) .document document changed := by
  cases shape matched apart with
  | map each => exact each
  | plain unmapped _ => exact absurd rfl (unmapped document)

theorem components_same (each : MatchedEntries (EditedInside edit) .document document changed)
    (never : ∀ v w, ¬ edit .other v w) : document.get? "components" = changed.get? "components" := by
  have found := found_alike each "components"
  generalize document.get? "components" = first, changed.get? "components" = second at found
  cases found with
  | none => rfl
  | some matched => exact congrArg some (edited_inert never matched.1)

theorem parameter_same (never : ∀ {role : Role}, role.DescribesParameter → ∀ v w, ¬ edit role v w)
    {entries others : Entries} (matched : MatchedEntries (EditedInside edit) .parameter entries others) :
    entries = others := by
  have untouched := parameter_untouched never
  have same : List.Forall₂ Eq entries others := matched.imp fun e f both =>
    Prod.ext both.1 (untouched_same untouched (untouched.under .parameter e.1 trivial) both.2.1)
  rwa [List.forall₂_eq_eq_eq] at same

-- A pointer is a text, and a text is never edited.
theorem reference_same {v w : Value} (shape : SameShape (EditedInside edit) role v w)
    (inside : PointsIntoComponents v) (texts : ∀ inner s w, ¬ edit inner (.str s) w) :
    v.reference? = w.reference? := by
  cases shape with
  | list _ => rfl
  | plain _ _ => rfl
  | emptied empty => exact (Role.empty_not_reference empty).symm
  | @map entries others each =>
      have found := found_alike each "$ref"
      have known := fun pointer => inside (.map entries) pointer .self
      simp only [Value.reference?] at known ⊢
      generalize entries.get? "$ref" = first, others.get? "$ref" = second at found known
      cases found with
      | none => rfl
      | @some pointer _ matched =>
          obtain ⟨rest, rfl⟩ := known pointer rfl
          cases matched.1 with
          | kept => rfl
          | edited allowed => exact absurd allowed (texts _ _ _)

theorem resolved_alike {c : Comparison} {v w : Value} (inside : PointsIntoComponents (.map document))
    (same : document.get? "components" = changed.get? "components") (matched : EditedInside edit role v w)
    (shape : SameShape (EditedInside edit) role v w) (reference : v.reference? = w.reference?) :
    c.Agree (fun a b => EditedInside edit role a b ∧ SameShape (EditedInside edit) role a b)
      (Value.resolved (.map document) bound v) (Value.resolved (.map changed) bound w) := by
  have sameNode := Reference.resolved_components_same document changed v bound inside same matched.2
  cases points : v.reference? with
  | none =>
      simp only [Value.resolved, points, ← reference]
      exact .ok ⟨matched, shape⟩
  | some pointer =>
      have target : Value.resolved (.map changed) bound w = Value.resolved (.map document) bound v := by
        rw [sameNode]
        simp only [Value.resolved, ← reference, points]
      rw [target]
      cases success : Value.resolved (.map document) bound v with
      | error e => exact .failed (c.alike_refl e)
      | ok node =>
          have inner := Reference.resolved_points _ _ _ _ inside matched.2 success
          exact .ok ⟨unedited inner, unedited_shape inner⟩

end EditedInside

end ApiStubs
