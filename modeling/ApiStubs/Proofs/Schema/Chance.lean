import ApiStubs.Proofs.Schema.Conformance
import ApiStubs.Proofs.Schema.Skeleton

/- What may change from one generator to another. Whether drawing for a schema succeeds, and how it fails, does not; nor
   does it change whether null is drawn, unless the schema is an enumeration that lists null beside other values. -/

set_option autoImplicit false

namespace ApiStubs.Schema

-- An enumeration behind a schema that lists null and something else.
def Undecided (document : Value) (bound : Int) (v : Value) : Prop :=
  ∃ (schema : Entries) (members : List Value), Value.resolved document bound v = .ok (.map schema) ∧
    ¬ IsObject schema ∧ ¬ IsArray schema ∧ membersOf (schema.get "enum") = .ok members ∧ .null ∈ members ∧
    ∃ m ∈ members, m ≠ .null

-- Two results of which one is null only if the other is, once that is decided; an example decides it.
def NullAlike (document : Value) (bound : Int) (declared : Option Value) (v a b : Value) : Prop :=
  (declared = none → ¬ Undecided document bound v) → (a = .null ↔ b = .null)

def AnyGenerators (_ _ : Generator) : Prop :=
  True

section

variable {c : Comparison} {document : Value} {bound : Int}

theorem null_alike_same (declared : Option Value) (v a : Value) : NullAlike document bound declared v a a :=
  fun _ => Iff.rfl

theorem null_alike_target {v node a b : Value} (target : Value.resolved document bound v = .ok node)
    (alike : NullAlike document bound none node a b) : NullAlike document bound none v a b := by
  intro decided
  refine alike fun _ undecided => decided rfl ?_
  obtain ⟨schema, members, resolved, enumeration⟩ := undecided
  have plain := Reference.resolved_ok_not_reference _ _ _ _ target
  rw [Reference.resolved_of_not_reference _ _ _ plain] at resolved
  exact ⟨schema, members, target.trans resolved, enumeration⟩

theorem members_null_alike {schema : Entries} {members : List Value} (inline : schema.get? "$ref" = none)
    (object : ¬ IsObject schema) (array : ¬ IsArray schema) (listed : membersOf (schema.get "enum") = .ok members)
    {a b : Value} (first : a ∈ members) (second : b ∈ members) : NullAlike document bound none (.map schema) a b := by
  have resolved : Value.resolved document bound (.map schema) = .ok (.map schema) := by
    simp only [Value.resolved, Value.reference?, inline]
  intro decided
  have apart (x y : Value) (inside : x ∈ members) (also : y ∈ members) (null : x = .null) : y = .null := by
    by_contra other
    exact decided rfl ⟨schema, members, resolved, object, array, listed, null ▸ inside, y, also, other⟩
  exact ⟨apart a b first second, apart b a second first⟩

theorem primitive_null_alike {settings : Settings} {schema : Entries} (inline : schema.get? "$ref" = none)
    (object : ¬ IsObject schema) (array : ¬ IsArray schema) {a b : Value} {g h k l : Generator}
    (first : primitive settings schema g = .ok (a, k)) (second : primitive settings schema h = .ok (b, l)) :
    NullAlike document bound none (.map schema) a b := by
  unfold primitive at first second
  by_cases given : (schema.get "enum").isTrue = true
  · rw [if_pos given] at first second
    cases listed : membersOf (schema.get "enum") with
    | error e =>
        rw [listed] at first
        cases first
    | ok members =>
        rw [listed] at first second
        cases members with
        | nil =>
            cases first
            cases second
            exact null_alike_same _ _ _
        | cons m rest =>
            cases first
            cases second
            exact members_null_alike inline object array listed (element_mem g m rest) (element_mem h m rest)
  · rw [if_neg given] at first second
    cases kind : kindOf schema with
    | nothing =>
        rw [kind] at first second
        cases first
        cases second
        exact null_alike_same _ _ _
    | _ =>
        rw [kind] at first second
        cases first
        cases second
        intro _
        simp [Kind.value]

variable {settings : Settings}

-- Only the root is followed, behind references; objects and arrays are never null.
theorem skeleton_null_alike {declared : Option Value} {v a b : Value}
    (alike : SameSkeleton settings document declared v a b) :
    NullAlike document settings.maxReferenceDepth declared v a b := by
  induction alike with
  | declared v schema => exact null_alike_same _ _ _
  | plain unmapped => exact null_alike_same _ _ _
  | @reference schema pointer target a b points resolved behind ih =>
      have target : Value.resolved document settings.maxReferenceDepth (.map schema) = .ok target := by
        simpa only [Value.resolved, Value.reference?, points] using resolved
      exact null_alike_target target ih
  | object | array => exact fun _ => by simp
  | primitive inline object array first second => exact primitive_null_alike inline object array first second

theorem draws_alike (location : String) (declared : Option Value) (v : Value) :
    c.AgreeFrom AnyGenerators (NullAlike document settings.maxReferenceDepth declared v)
      (synthesize settings document 0 location declared v) (synthesize settings document 0 location declared v) :=
  fun g h _ => agree_imp (draws_abreast 0 location declared v g h (abreast_start g h)) fun _ _ both =>
    ⟨skeleton_null_alike both.1, trivial⟩

end

end ApiStubs.Schema
