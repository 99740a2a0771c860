import ApiStubs.Proofs.Compile.Reading

/- Why a document that has a JSON form has no stubs. What is wrong with its structure is reported. Three things are not:
   a server's URL that is none, a parameter whose name or place is a list or an object, and an enumeration that lists
   nothing. -/

set_option autoImplicit false

namespace ApiStubs

open Json (Formed Plain)
open Schema (Foreseen)

namespace Compile

-- Why a document is not compiled.
inductive Refusal (settings : Settings) (document : Entries) : Error → Prop where
  | reported {e : Error} (structural : e.Structural) : Refusal settings document e
  | url (refused : RefusedUrl document) : Refusal settings document (.defect .badUrl)
  | parameter {site : Site} (among : site ∈ sites settings document) (unfit : site.Unfit settings (.map document)) :
      Refusal settings document (.defect .notHashable)
  | enumeration {schema : Entries} (below : Below (.map document) (.map schema)) (unlisted : Schema.Unlisted schema) :
      Refusal settings document (.defect .notIterable)

theorem document_foreseen (settings : Settings) (document : Entries) (formed : Formed (.map document)) :
    Foreseen (.map document) (Refusal settings document) where
  formed := formed
  reported := fun _ structural => .reported structural
  unlisted := fun _ below unlisted => .enumeration below unlisted

theorem compile_refusals (generator : Generator) (issued : Nat) (settings : Settings) (specName : String)
    (document : Entries) (formed : Formed (.map document)) :
    Returns (fun _ => True) (Refusal settings document)
      (compileFrom generator issued settings specName document).outcome := by
  have foreseen := document_foreseen settings document formed
  refine compile_returns generator issued settings specName document (part_reading settings formed foreseen.reported)
    .url ?_
  intro site among
  refine ⟨fun unfit => .parameter among unfit, fun _ _ stage _ given part g => ?_⟩
  have drawn := Schema.draws_within settings foreseen stage.levels stage.place _ _ given part g
  exact returns_imp drawn (fun _ kept => renderable_of_formed kept) fun _ refused => refused

-- A parameter whose name is an object.
def namedByObject : Entries :=
  [(.str "openapi", .str "3.0.0"), (.str "paths", .map [(.str "/pets", .map [(.str "get", .map
    [(.str "parameters", .list [.map [(.str "name", .map []), (.str "in", .str "query")]])])])])]

theorem named_by_object_plain : Plain (.map namedByObject) := by
  simp [namedByObject, Plain, Json.PlainEntries, Json.PlainItems]

theorem named_by_object_refused :
    Formed (.map namedByObject) ∧
      Returns (fun _ => True) (Refusal {} namedByObject) (compile {} "pets" namedByObject) := by
  have formed := Json.plain_formed _ named_by_object_plain
  exact ⟨formed, compile_refusals (Generator.start {}) 0 {} "pets" namedByObject formed⟩

theorem named_by_object_unreported :
    Plain (.map namedByObject) ∧ ¬ ((∃ compilation, compile {} "pets" namedByObject = .ok compilation) ∨
      ∃ e, compile {} "pets" namedByObject = .error e ∧ e.Structural) := by
  have run : compile {} "pets" namedByObject = .error (.defect .notHashable) := by decide +kernel
  refine ⟨named_by_object_plain, ?_⟩
  rw [run]
  rintro (⟨compilation, compiled⟩ | ⟨e, failed, structural⟩)
  · cases compiled
  · cases failed
    rcases structural with category | category <;> cases category

end Compile

end ApiStubs
