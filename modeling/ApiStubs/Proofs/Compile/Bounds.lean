import ApiStubs.Proofs.Compile.Simulation
import ApiStubs.Proofs.Reference

/- Bounds. A compilation is compared with the one of the same description under wider bounds: as long as it does not
   fail because a bound was met, every step of it is taken again, with the same result. -/

set_option autoImplicit false

namespace ApiStubs

inductive TellsOfBound : Error → Prop where
  | reference (pointer : Value) (bound : Int) : TellsOfBound (.referenceDepth pointer bound)
  | schema (bound : Int) (location : Option String) : TellsOfBound (.schemaDepth bound location)

-- Only a failure that tells of a bound may be missing from the second run.
def bounded : Comparison :=
  { exact with excused := TellsOfBound }

namespace Reference

open Value (follow resolve resolved)

-- By induction on the hops of the narrower bound, which are used up last when they are enough.
theorem follow_wider (document pointer : Value) (bound wider : Int) (hops more : Nat) (enough : hops ≤ more) :
    bounded.Agree Eq (follow document bound hops pointer) (follow document wider more pointer) := by
  induction hops generalizing pointer more with
  | zero => exact .excused (.reference pointer bound)
  | succ hops ih =>
      obtain ⟨more, rfl⟩ : ∃ n, more = n + 1 := ⟨more - 1, by omega⟩
      cases found : Pointer.lookup document pointer with
      | error e =>
          rw [follow_unfound _ _ _ _ _ found, follow_unfound _ _ _ _ _ found]
          exact agree_same _
      | ok target =>
          cases points : target.reference? with
          | none =>
              rw [follow_end _ _ _ _ _ found points, follow_end _ _ _ _ _ found points]
              exact agree_same _
          | some next =>
              rw [follow_reference _ _ _ _ _ _ found points, follow_reference _ _ _ _ _ _ found points]
              exact ih next more (Nat.le_of_succ_le_succ enough)

theorem resolved_wider (document node : Value) (bound wider : Int) (above : bound ≤ wider) :
    bounded.Agree Eq (resolved document bound node) (resolved document wider node) := by
  unfold resolved
  cases node.reference? with
  | none => exact agree_same _
  | some pointer => exact follow_wider document pointer bound wider _ _ (by omega)

end Reference

def Settings.withBounds (settings : Settings) (reference schema : Int) : Settings :=
  { settings with maxReferenceDepth := reference, maxSchemaDepth := schema }

namespace Compile

theorem wider_reads_alike (settings : Settings) (reference schema : Int) (document : Value)
    (references : settings.maxReferenceDepth ≤ reference) (schemas : settings.maxSchemaDepth ≤ schema) :
    Simulation bounded (fun _ v w => v = w) settings (settings.withBounds reference schema) document document where
  sameSettings := rfl
  inert := fun _ _ same => same
  null := fun _ => rfl
  empty := rfl
  emptied := fun same => by cases same
  shaped := by
    rintro role v _ - rfl
    exact same_shape_refl role v fun _ _ _ => rfl
  content := by
    rintro v _ rfl
    exact .inl (same_shape_refl _ v fun _ _ _ => rfl)
  resolved := by
    rintro role - v _ rfl
    refine agree_imp (Reference.resolved_wider document v _ _ references) ?_
    rintro node _ rfl
    exact ⟨rfl, same_shape_refl role node fun _ _ _ => rfl⟩
  located := by
    rintro role v _ location _ rfl rfl
    rfl
  nameless := by
    intro entries others matched
    have same := matched.imp fun _ _ both => Prod.ext both.1 both.2
    rw [List.forall₂_eq_eq_eq] at same
    exact congrArg (fun es => Error.namelessHeader (Value.map es).display) same
  levels := .inr ⟨schemas, fun bound location => .schema bound location⟩

theorem wider_bounds_keep_result (generator : Generator) (issued : Nat) (settings : Settings) (specName : String)
    (document : Entries) (reference schema : Int) (references : settings.maxReferenceDepth ≤ reference)
    (schemas : settings.maxSchemaDepth ≤ schema) :
    (∀ compilation, (compileFrom generator issued settings specName document).outcome = .ok compilation →
      compileFrom generator issued (settings.withBounds reference schema) specName document =
        compileFrom generator issued settings specName document) ∧
    ∀ e, (compileFrom generator issued settings specName document).outcome = .error e → TellsOfBound e ∨
      (compileFrom generator issued (settings.withBounds reference schema) specName document).outcome = .error e := by
  have matched : MatchedEntries (fun _ v w => v = w) .document document document :=
    List.forall₂_same.mpr fun _ _ => ⟨rfl, rfl⟩
  have reads := wider_reads_alike settings reference schema (.map document) references schemas
  have agree := compile_from_alike generator issued specName reads matched
  constructor
  · intro compilation success
    obtain ⟨_, -, same⟩ := agree_ok agree success
    exact same
  · intro e failure
    rcases agree_error agree failure with excused | ⟨f, second, rfl⟩
    · exact .inl excused
    · exact .inr second

-- A pet stands behind one reference, and its name one level further down.
def pets : Entries :=
  let pet := Value.map [(.str "type", .str "object"),
    (.str "properties", .map [(.str "name", .map [(.str "type", .str "string")])])]
  let found := Value.map [(.str "content", .map [(.str "application/json", .map [
    (.str "schema", .map [(.str "$ref", .str "#/components/schemas/Pet")])])])]
  [(.str "paths", .map [(.str "/pets", .map [(.str "get", .map [(.str "responses", .map [(.str "200", found)])])])]),
    (.str "components", .map [(.str "schemas", .map [(.str "Pet", pet)])])]

def petsStubs : Compilation :=
  ⟨"pets", [⟨"id-1", ⟨"GET", "/pets", []⟩,
      ⟨200, some [("Content-Type", "application/json")], some "pets-response-200.json"⟩⟩],
    [⟨"pets-response-200.json", "\x7b\n  \"name\": \"Sentence 0 en_US.\"\n\x7d".toUTF8⟩], []⟩

theorem pets_compile : compile (Settings.withBounds {} 1 2) "pets" pets = .ok petsStubs :=
  to_option_some (by decide +kernel)

theorem pets_keep_result :
    (Settings.withBounds {} 1 2).maxReferenceDepth ≤ 10 ∧ (Settings.withBounds {} 1 2).maxSchemaDepth ≤ 100 ∧
      compile (Settings.withBounds {} 1 2) "pets" pets = .ok petsStubs ∧
      compileFrom (Generator.start {}) 0 (Settings.withBounds {} 10 100) "pets" pets =
        compileFrom (Generator.start {}) 0 (Settings.withBounds {} 1 2) "pets" pets :=
  ⟨by decide, by decide, pets_compile,
    (wider_bounds_keep_result (Generator.start {}) 0 (Settings.withBounds {} 1 2) "pets" pets 10 100 (by decide)
      (by decide)).1 petsStubs pets_compile⟩

end Compile

end ApiStubs
