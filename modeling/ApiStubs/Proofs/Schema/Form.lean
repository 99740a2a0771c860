import ApiStubs.Proofs.Drawing

/- The forms of a schema and what is drawn for each of them. A schema that is a mapping is a reference, or else an
   object, or else an array, or else it has no parts; every other schema stands for null. -/

set_option autoImplicit false

namespace ApiStubs.Schema

-- Of a list of types the first that is not `null` counts; a list without one names no type.
inductive HasType (schema : Entries) : Value → Prop where
  | single {type : Value} (given : schema.get "type" = type) (alone : ∀ types, type ≠ .list types) :
      HasType schema type
  | first {before after : List Value} {type : Value}
      (given : schema.get "type" = .list (before ++ type :: after)) (nulls : ∀ t ∈ before, t = .str "null")
      (other : type ≠ .str "null") : HasType schema type
  | nulls {types : List Value} (given : schema.get "type" = .list types) (nulls : ∀ t ∈ types, t = .str "null") :
      HasType schema .null

def IsObject (schema : Entries) : Prop :=
  HasType schema (.str "object") ∨ HasType schema .null ∧ ∃ v, schema.get? "properties" = some v

def IsArray (schema : Entries) : Prop :=
  HasType schema (.str "array")

-- An empty value under `properties` counts as none declared.
def Declares (schema properties : Entries) : Prop :=
  schema.get "properties" = .map properties ∨ (schema.get "properties").isTrue = false ∧ properties = []

theorem type_of_list (schema : Entries) (types : List Value) (given : schema.get "type" = .list types) :
    typeOf schema = (types.find? fun t => t != .str "null").getD .null := by
  simp only [typeOf, given]

theorem type_of_single (schema : Entries) (alone : ∀ types, schema.get "type" ≠ .list types) :
    typeOf schema = schema.get "type" := by
  unfold typeOf
  split
  · next types given => exact absurd given (alone types)
  · rfl

theorem has_type_of (schema : Entries) : HasType schema (typeOf schema) := by
  by_cases several : ∃ types, schema.get "type" = .list types
  · obtain ⟨types, given⟩ := several
    rw [type_of_list schema types given]
    cases found : types.find? fun t => t != .str "null" with
    | none =>
        have nulls : ∀ t ∈ types, t = .str "null" := by simpa using found
        exact .nulls given nulls
    | some type =>
        obtain ⟨other, before, after, rfl, nulls⟩ := List.find?_eq_some_iff_append.mp found
        exact .first given (by simpa using nulls) (by simpa using other)
  · have alone : ∀ types, schema.get "type" ≠ .list types := fun types given => several ⟨types, given⟩
    rw [type_of_single schema alone]
    exact .single rfl alone

theorem has_type_iff (schema : Entries) (type : Value) : HasType schema type ↔ typeOf schema = type := by
  constructor
  · intro has
    cases has with
    | single given alone => rw [type_of_single schema (by rw [given]; exact alone), given]
    | @first before after _ given nulls other =>
        have passed : before.find? (fun t => t != .str "null") = none := by simpa using nulls
        rw [type_of_list schema _ given, List.find?_append, passed]
        simp [other]
    | @nulls types given nulls =>
        have none : types.find? (fun t => t != .str "null") = none := by simpa using nulls
        rw [type_of_list schema _ given, none]
        rfl
  · rintro rfl
    exact has_type_of schema

theorem contains_iff (entries : Entries) (name : String) :
    entries.contains name = true ↔ ∃ v, entries.get? name = some v := by
  rw [← Option.isSome_iff_exists]
  simp [Entries.contains, Entries.get?]

theorem is_object_iff (schema : Entries) : isObject schema = true ↔ IsObject schema := by
  simp [isObject, IsObject, has_type_iff, contains_iff]

theorem is_array_iff (schema : Entries) : isArray schema = true ↔ IsArray schema := by
  simp [isArray, IsArray, has_type_iff]

theorem object_not_array (schema : Entries) (object : IsObject schema) : ¬ IsArray schema := by
  intro array
  rw [IsArray, has_type_iff] at array
  simp [IsObject, has_type_iff, array] at object

theorem declares_unique (schema properties others : Entries) (declares : Declares schema properties)
    (also : Declares schema others) : properties = others := by
  rcases declares with given | ⟨empty, rfl⟩ <;> rcases also with again | ⟨nothing, rfl⟩
  · rw [given] at again
    exact Value.map.inj again
  · have none : properties = [] := by simpa [given, Value.isTrue] using nothing
    exact none
  · have none : others = [] := by simpa [again, Value.isTrue] using empty
    exact none.symm
  · rfl

theorem properties_of_iff (schema properties : Entries) (location : String) :
    propertiesOf schema location = .ok properties ↔ Declares schema properties := by
  unfold propertiesOf Declares
  split
  · next entries given =>
    constructor
    · intro same
      cases same
      exact .inl given
    · rintro (again | ⟨empty, rfl⟩)
      · rw [given] at again
        cases again
        rfl
      · have none : entries = [] := by simpa [given, Value.isTrue] using empty
        rw [none]
  · next plain =>
    have unmapped : schema.get "properties" ≠ .map properties := plain properties
    by_cases filled : (schema.get "properties").isTrue = true
    · simp [filled, unmapped]
    · simp [filled, unmapped, eq_comm]

section

variable (settings : Settings) (document : Value) (levels : Nat) (location : String)

def drawProperty (property : Value × Value) : Drawing (Value × Value) := do
  let value ← synthesizeWithin settings document levels (propertyLocation location property.1)
    (exampleOf property.2) property.2
  return (property.1, value)

theorem synthesize_declared (declared schema : Value) :
    synthesizeWithin settings document (levels + 1) location (some declared) schema = pure declared :=
  rfl

theorem declared_regardless (depth : Int) (declared v w : Value) :
    synthesize settings document depth location (some declared) v =
      synthesize settings document depth location (some declared) w := by
  unfold synthesize
  cases (settings.maxSchemaDepth + 1 - depth).toNat <;> rfl

theorem synthesize_plain (v : Value) (plain : ∀ entries, v ≠ .map entries) :
    synthesizeWithin settings document (levels + 1) location none v = pure .null := by
  cases v with
  | map entries => exact absurd rfl (plain entries)
  | _ => rfl

theorem synthesize_reference (schema : Entries) (pointer : Value)
    (points : schema.get? "$ref" = some pointer) :
    synthesizeWithin settings document (levels + 1) location none (.map schema) = (do
      let target ← Value.resolve document settings.maxReferenceDepth 0 pointer
      synthesizeWithin settings document levels pointer.display none target) := by
  simp only [synthesizeWithin, points]

theorem synthesize_object (schema : Entries) (inline : schema.get? "$ref" = none) (object : IsObject schema) :
    synthesizeWithin settings document (levels + 1) location none (.map schema) = (do
      let properties ← propertiesOf schema location
      let entries ← properties.mapM (drawProperty settings document levels location)
      return .map entries) := by
  rw [← is_object_iff] at object
  simp only [synthesizeWithin, inline, object, if_true]
  rfl

theorem synthesize_array (schema : Entries) (inline : schema.get? "$ref" = none) (array : IsArray schema) :
    synthesizeWithin settings document (levels + 1) location none (.map schema) = (do
      let items ← (List.replicate settings.arrayCardinality.toNat (itemsOf schema)).mapM
        (synthesizeWithin settings document levels (Pointer.extendText location "items") none)
      return .list items) := by
  have other : isObject schema = false := by
    rw [← Bool.not_eq_true, is_object_iff]
    exact fun object => object_not_array schema object array
  rw [← is_array_iff] at array
  simp only [synthesizeWithin, inline, other, array, if_true, Bool.false_eq_true, if_false]

theorem synthesize_primitive (schema : Entries) (inline : schema.get? "$ref" = none)
    (object : ¬ IsObject schema) (array : ¬ IsArray schema) :
    synthesizeWithin settings document (levels + 1) location none (.map schema) = primitive settings schema := by
  rw [← is_object_iff] at object
  rw [← is_array_iff] at array
  simp only [synthesizeWithin, inline, if_neg object, if_neg array]

end

end ApiStubs.Schema
