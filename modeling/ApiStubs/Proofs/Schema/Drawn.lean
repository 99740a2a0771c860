import ApiStubs.Proofs.Part
import ApiStubs.Proofs.Schema.Conformance

/- What is drawn for the schemas of a document that has a JSON form: values that have one too, or an error that is
   reported. The one other way to fail is an enumeration that lists nothing, since it is a truth value or a number. -/

set_option autoImplicit false

namespace ApiStubs.Schema

open Json (Formed)

-- A value that counts as given and is no listing.
def NoListing (v : Value) : Prop :=
  v = .bool true ∨ (∃ n, n ≠ 0 ∧ v = .int n) ∨ ∃ x : Decimal.Binary64, x.isZero = false ∧ v = .float x

-- A schema without parts that is to draw from an enumeration which is no listing.
def Unlisted (schema : Entries) : Prop :=
  schema.get? "$ref" = none ∧ ¬ IsObject schema ∧ ¬ IsArray schema ∧ NoListing (schema.get "enum")

-- What may go wrong in reading a document that has a JSON form.
structure Foreseen (document : Value) (known : Error → Prop) : Prop where
  formed : Formed document
  reported : ∀ e : Error, e.Structural → known e
  unlisted : ∀ schema, Below document (.map schema) → Unlisted schema → known (.defect .notIterable)

section

variable {document : Value} {known : Error → Prop}

theorem Foreseen.legible (foreseen : Foreseen document known) : Legible document known where
  unplaced := fun e unplaced => foreseen.reported e (Error.unplaced_structural unplaced)
  rendered := fun part => renderable_of_formed (part_formed foreseen.formed part)

theorem kind_formed (settings : Settings) (g : Generator) (kind : Kind) : Formed (kind.value settings g) := by
  have small : (g.number 0 10000).natAbs < 10 ^ 5 := by
    have bounds := number_bounds g
    omega
  cases kind with
  | number => exact Json.small_readable (by decide) (by decide) small
  | _ => trivial

theorem members_returns {v : Value} (formed : Formed v) (given : v.isTrue = true)
    (unlisted : NoListing v → known (.defect .notIterable)) :
    Returns (fun members => ∀ m ∈ members, Formed m) known (membersOf v) := by
  cases v with
  | null => cases given
  | bool b =>
      have same : b = true := given
      exact .error (unlisted (.inl (by rw [same])))
  | int n =>
      have other : n ≠ 0 := by simpa [Value.isTrue] using given
      exact .error (unlisted (.inr (.inl ⟨n, other, rfl⟩)))
  | float x =>
      have other : x.isZero = false := by simpa [Value.isTrue] using given
      exact .error (unlisted (.inr (.inr ⟨x, other, rfl⟩)))
  | str s => exact .ok (by simp [Formed])
  | list items | tuple items => exact .ok ((Json.formed_items_iff items).mp formed)
  | map entries =>
      refine .ok fun key member => ?_
      obtain ⟨e, inside, rfl⟩ := List.mem_map.mp member
      obtain ⟨name, named⟩ := (Json.formed_entry formed inside).1
      exact Json.formed_key named
  | date _ | dateTime _ | bytes _ | set _ => exact formed.elim

theorem primitive_returns (settings : Settings) (schema : Entries) (formed : Formed (schema.get "enum"))
    (unlisted : NoListing (schema.get "enum") → known (.defect .notIterable)) :
    ReturnsFrom Formed known (primitive settings schema) := by
  intro g
  unfold primitive
  by_cases given : (schema.get "enum").isTrue = true
  · rw [if_pos given]
    have members := members_returns formed given unlisted
    split
    · next first rest listed =>
        rw [listed] at members
        cases members with
        | ok each => exact .ok (each _ (element_mem g first rest))
    · exact .ok trivial
    · next e failure => exact .error (returns_known members failure)
  · rw [if_neg given]
    split
    · exact .ok trivial
    · exact .ok (kind_formed settings g _)

theorem items_of_part {schema : Entries} (part : Part document (.map schema)) : Part document (itemsOf schema) := by
  unfold itemsOf
  simp only
  split
  · exact part_get part "items"
  · exact .inr (.inl rfl)

theorem example_part {v : Value} (part : Part document v) :
    ∀ declared ∈ exampleOf v, Part document declared := by
  intro declared member
  cases v with
  | map entries => exact part_found part member
  | _ => cases member

theorem properties_returns (reported : ∀ e : Error, e.Structural → known e) (location : String) {schema : Entries}
    (part : Part document (.map schema)) :
    Returns (fun properties => Part document (.map properties)) known (propertiesOf schema location) := by
  unfold propertiesOf
  split
  · next entries given => exact .ok (given ▸ part_get part "properties")
  · split
    · exact .error (reported _ (.inl rfl))
    · exact .ok (.inr (.inl rfl))

def DrawsWithin (settings : Settings) (document : Value) (known : Error → Prop) (levels : Nat) : Prop :=
  ∀ location declared v, (∀ own ∈ declared, Part document own) → Part document v →
    ReturnsFrom Formed known (synthesizeWithin settings document levels location declared v)

theorem object_draws (settings : Settings) (foreseen : Foreseen document known)
    {levels : Nat} (less : DrawsWithin settings document known levels) (location : String) {schema : Entries}
    (inline : schema.get? "$ref" = none) (object : IsObject schema) (part : Part document (.map schema)) :
    ReturnsFrom Formed known (synthesizeWithin settings document (levels + 1) location none (.map schema)) := by
  rw [synthesize_object _ _ _ _ _ inline object]
  refine returns_state_bind (returns_state_lift (properties_returns foreseen.reported location part)) ?_
  intro properties there
  -- An entry is drawn under the name of its property, which has one.
  have each : ∀ property ∈ properties, ReturnsFrom (fun e => (∃ name, Json.keyText e.1 = .ok name) ∧ Formed e.2) known
      (drawProperty settings document levels location property) := by
    intro property member
    have inner := part_entry there member
    have named := (Json.formed_entry (part_formed foreseen.formed there) member).1
    exact returns_state_bind (less _ _ _ (example_part inner) inner) fun v drawn => returns_state_pure ⟨named, drawn⟩
  refine returns_state_bind (returns_state_map_all each) fun entries drawn => returns_state_pure ?_
  rw [Formed, Json.formed_entries_iff]
  exact forall_mem_of_related drawn

theorem array_draws (settings : Settings) {levels : Nat} (less : DrawsWithin settings document known levels)
    (location : String) {schema : Entries} (inline : schema.get? "$ref" = none) (array : IsArray schema)
    (part : Part document (.map schema)) :
    ReturnsFrom Formed known (synthesizeWithin settings document (levels + 1) location none (.map schema)) := by
  rw [synthesize_array _ _ _ _ _ inline array]
  have each : ∀ item ∈ List.replicate settings.arrayCardinality.toNat (itemsOf schema), ReturnsFrom Formed known
      (synthesizeWithin settings document levels (Pointer.extendText location "items") none item) := by
    intro item member
    have inner : Part document item := List.eq_of_mem_replicate member ▸ items_of_part part
    exact less _ none item (by simp) inner
  refine returns_state_bind (returns_state_map_all each) fun items drawn => returns_state_pure ?_
  rw [Formed, Json.formed_items_iff]
  exact forall_mem_of_related drawn

theorem primitive_draws (settings : Settings) (foreseen : Foreseen document known)
    {schema : Entries} (inline : schema.get? "$ref" = none) (object : ¬ IsObject schema) (array : ¬ IsArray schema)
    (part : Part document (.map schema)) : ReturnsFrom Formed known (primitive settings schema) := by
  refine primitive_returns settings schema (part_formed foreseen.formed (part_get part "enum")) fun listing => ?_
  rcases part with none | empty | below
  · cases none
  · cases empty
    simp [NoListing, Entries.get, Entries.get?] at listing
  · exact foreseen.unlisted schema below ⟨inline, object, array, listing⟩

-- By induction on the levels that are left, one case for each form of a schema.
theorem draws_within (settings : Settings) (foreseen : Foreseen document known)
    (levels : Nat) : DrawsWithin settings document known levels := by
  induction levels with
  | zero =>
      intro location declared v _ _ g
      unfold synthesizeWithin
      exact .error (foreseen.reported _ (.inr rfl))
  | succ levels less =>
      intro location declared v given part
      cases declared with
      | some own =>
          rw [synthesize_declared]
          exact returns_state_pure (part_formed foreseen.formed (given own rfl))
      | none =>
          by_cases mapped : ∃ schema : Entries, v = .map schema
          · obtain ⟨schema, rfl⟩ := mapped
            cases points : schema.get? "$ref" with
            | some pointer =>
                rw [synthesize_reference _ _ _ _ _ _ points]
                exact returns_state_bind (returns_state_lift (resolve_returns foreseen.legible _ pointer))
                  fun target there => less _ none target (by simp) there
            | none =>
                by_cases object : IsObject schema
                · exact object_draws settings foreseen less location points object part
                · by_cases array : IsArray schema
                  · exact array_draws settings less location points array part
                  · rw [synthesize_primitive _ _ _ _ _ points object array]
                    exact primitive_draws settings foreseen points object array part
          · rw [synthesize_plain _ _ _ _ v fun entries same => mapped ⟨entries, same⟩]
            exact returns_state_pure trivial

end

end ApiStubs.Schema
