import ApiStubs.Proofs.Below
import ApiStubs.Proofs.Schema.Form

/- Schemas as trees. The unfolding of a schema has its parts below it, and what it refers to; through references
   it may go on for ever. A value can be drawn exactly when the unfolding comes to an end, and does so in time. -/

set_option autoImplicit false

namespace ApiStubs.Schema

-- A place in an unfolding: a schema, with the example that the property it stands for declares.
structure Position where
  declared : Option Value
  schema : Value

def Position.ofProperty (property : Value × Value) : Position :=
  ⟨exampleOf property.2, property.2⟩

section

variable (settings : Settings) (document : Value)

inductive Children : Position → List Position → Prop where
  | declared {v schema : Value} : Children ⟨some v, schema⟩ []
  | plain {v : Value} (plain : ∀ entries, v ≠ .map entries) : Children ⟨none, v⟩ []
  | reference {schema : Entries} {pointer target : Value} (points : schema.get? "$ref" = some pointer)
      (found : Value.resolve document settings.maxReferenceDepth 0 pointer = .ok target) :
      Children ⟨none, .map schema⟩ [⟨none, target⟩]
  | object {schema properties : Entries} (inline : schema.get? "$ref" = none) (object : IsObject schema)
      (declares : Declares schema properties) :
      Children ⟨none, .map schema⟩ (properties.map Position.ofProperty)
  | array {schema : Entries} (inline : schema.get? "$ref" = none) (array : IsArray schema) :
      Children ⟨none, .map schema⟩ (List.replicate settings.arrayCardinality.toNat ⟨none, itemsOf schema⟩)
  | primitive {schema : Entries} (inline : schema.get? "$ref" = none) (object : ¬ IsObject schema)
      (array : ¬ IsArray schema) : Children ⟨none, .map schema⟩ []

-- Being built step by step, a derivation says that the unfolding is finite too.
inductive HeightAtMost : Nat → Position → Prop where
  | leaf {n : Nat} {p : Position} (none : Children settings document p []) : HeightAtMost n p
  | node {n : Nat} {p : Position} {below : List Position} (children : Children settings document p below)
      (each : ∀ q ∈ below, HeightAtMost n q) : HeightAtMost (n + 1) p

inductive Met (start : Position) : Position → Prop where
  | start : Met start start
  | child {p q : Position} {below : List Position} (before : Met start p)
      (children : Children settings document p below) (member : q ∈ below) : Met start q

-- A reference leads somewhere, properties are named, and an enumeration lists its members.
structure InOrder (schema : Entries) : Prop where
  resolves : ∀ pointer, schema.get? "$ref" = some pointer →
    ∃ target, Value.resolve document settings.maxReferenceDepth 0 pointer = .ok target
  properties : schema.get? "$ref" = none → IsObject schema → ∃ properties, Declares schema properties
  enumeration : schema.get? "$ref" = none → ¬ IsObject schema → ¬ IsArray schema →
    schema.get "enum" = .null ∨ ∃ members, schema.get "enum" = .list members

def AllInOrder (start : Position) : Prop :=
  ∀ schema, Met settings document start ⟨none, .map schema⟩ → InOrder settings document schema

end

section

variable {settings : Settings} {document : Value}

theorem children_unique (p : Position) (below others : List Position)
    (children : Children settings document p below) (also : Children settings document p others) :
    below = others := by
  cases children with
  | declared =>
      cases also
      rfl
  | plain plain =>
      cases also with
      | plain => rfl
      | _ => exact absurd rfl (plain _)
  | reference points found =>
      cases also with
      | plain plain => exact absurd rfl (plain _)
      | reference again reached =>
          cases points.symm.trans again
          cases found.symm.trans reached
          rfl
      | object inline => cases points.symm.trans inline
      | array inline => cases points.symm.trans inline
      | primitive inline => cases points.symm.trans inline
  | object inline object declares =>
      cases also with
      | plain plain => exact absurd rfl (plain _)
      | reference points => cases inline.symm.trans points
      | object _ _ again => rw [declares_unique _ _ _ declares again]
      | array _ array => exact absurd array (object_not_array _ object)
      | primitive _ other => exact absurd object other
  | array inline array =>
      cases also with
      | plain plain => exact absurd rfl (plain _)
      | reference points => cases inline.symm.trans points
      | object _ object => exact absurd array (object_not_array _ object)
      | array => rfl
      | primitive _ _ other => exact absurd array other
  | primitive inline object array =>
      cases also with
      | plain plain => exact absurd rfl (plain _)
      | reference points => cases inline.symm.trans points
      | object _ other => exact absurd other object
      | array _ other => exact absurd other array
      | primitive => rfl

theorem children_exist (p : Position) (ordered : AllInOrder settings document p) :
    ∃ below, Children settings document p below := by
  obtain ⟨declared, v⟩ := p
  cases declared with
  | some v => exact ⟨_, .declared⟩
  | none =>
      cases v with
      | map schema =>
          have order := ordered schema .start
          cases points : Entries.get? schema "$ref" with
          | some pointer =>
              obtain ⟨target, found⟩ := order.resolves pointer points
              exact ⟨_, .reference points found⟩
          | none =>
              by_cases object : IsObject schema
              · obtain ⟨properties, declares⟩ := order.properties points object
                exact ⟨_, .object points object declares⟩
              · by_cases array : IsArray schema
                · exact ⟨_, .array points array⟩
                · exact ⟨_, .primitive points object array⟩
      | _ => exact ⟨_, .plain (fun _ same => by cases same)⟩

theorem met_trans (start middle last : Position) (first : Met settings document start middle)
    (second : Met settings document middle last) : Met settings document start last := by
  induction second with
  | start => exact first
  | child _ children member ih => exact .child ih children member

theorem items_below (schema : Entries) :
    Below (.map schema) (itemsOf schema) ∨ Below (.map []) (itemsOf schema) := by
  simp only [itemsOf]
  split
  · next filled =>
    rcases Pointer.read_below schema "items" with null | below
    · rw [null] at filled
      cases filled
    · exact .inl below
  · exact .inr .self

theorem child_below (p q : Position) (below : List Position) (children : Children settings document p below)
    (member : q ∈ below) :
    Below document q.schema ∨ Below p.schema q.schema ∨ Below (.map []) q.schema := by
  cases children with
  | reference points found =>
      rw [List.mem_singleton.mp member]
      exact .inl (Reference.follow_below _ _ _ _ _ found)
  | @object schema properties inline object declares =>
      obtain ⟨property, declared, rfl⟩ := List.mem_map.mp member
      rcases declares with given | ⟨-, rfl⟩
      · rcases Pointer.read_below schema "properties" with null | below
        · cases given.symm.trans null
        · rw [given] at below
          exact .inr (.inl (below_trans _ _ _ below (.entry declared .self)))
      · cases declared
  | array inline array =>
      obtain ⟨-, rfl⟩ := List.mem_replicate.mp member
      exact .inr (items_below _)
  | declared => cases member
  | plain _ => cases member
  | primitive _ _ _ => cases member

-- What is met stands in the document or in the schema, or is the empty schema of items that are not declared.
theorem met_below (start p : Position) (met : Met settings document start p) :
    Below document p.schema ∨ Below start.schema p.schema ∨ Below (.map []) p.schema := by
  induction met with
  | start => exact .inr (.inl .self)
  | child _ children member ih =>
      rcases child_below _ _ _ children member with found | inner | empty
      · exact .inl found
      · exact ih.imp (below_trans _ _ _ · inner) (Or.imp (below_trans _ _ _ · inner) (below_trans _ _ _ · inner))
      · exact .inr (.inr empty)

theorem in_order_below (p q : Position) (below : List Position) (ordered : AllInOrder settings document p)
    (children : Children settings document p below) (member : q ∈ below) : AllInOrder settings document q :=
  fun schema met => ordered schema (met_trans p q _ (.child .start children member) met)

theorem height_at_most_mono (n m : Nat) (p : Position) (le : n ≤ m) (low : HeightAtMost settings document n p) :
    HeightAtMost settings document m p := by
  induction low generalizing m with
  | leaf none => exact .leaf none
  | node children _ ih =>
      obtain ⟨k, rfl⟩ : ∃ k, m = k + 1 := ⟨m - 1, by omega⟩
      exact .node children fun q member => ih q member k (by omega)

theorem height_below (n : Nat) (p q : Position) (below : List Position)
    (low : HeightAtMost settings document n p) (children : Children settings document p below)
    (member : q ∈ below) : ∃ k, k < n ∧ HeightAtMost settings document k q := by
  cases low with
  | leaf none =>
      rw [children_unique p below [] children none] at member
      exact absurd member List.not_mem_nil
  | node also each =>
      rw [children_unique p _ _ children also] at member
      exact ⟨_, Nat.lt_succ_self _, each q member⟩

theorem height_of_met (n : Nat) (p q : Position) (low : HeightAtMost settings document n p)
    (met : Met settings document p q) : HeightAtMost settings document n q := by
  induction met with
  | start => exact low
  | child _ children member ih =>
      obtain ⟨k, less, lower⟩ := height_below _ _ _ _ ih children member
      exact height_at_most_mono k n _ (Nat.le_of_lt less) lower

-- Going round once takes a level of the height away, however high it is.
theorem returning_has_no_height (p q : Position) (below : List Position)
    (children : Children settings document p below) (member : q ∈ below) (back : Met settings document q p)
    (n : Nat) : ¬ HeightAtMost settings document n p := by
  induction n using Nat.strongRecOn with
  | ind n ih =>
      intro low
      obtain ⟨k, less, lower⟩ := height_below n p q below low children member
      exact ih k less (height_of_met k q p lower back)

-- `levels` counts positions on the way down, one more than the height counts steps.
def Fits (settings : Settings) (document : Value) (levels : Nat) (p : Position) : Prop :=
  ∃ n, n < levels ∧ HeightAtMost settings document n p

theorem fits_succ_iff (levels : Nat) (p : Position) (below : List Position)
    (children : Children settings document p below) :
    (∀ q ∈ below, Fits settings document levels q) ↔ Fits settings document (levels + 1) p := by
  constructor
  · intro each
    cases levels with
    | zero =>
        have none : below = [] := List.eq_nil_iff_forall_not_mem.mpr fun q member => by
          obtain ⟨n, less, -⟩ := each q member
          exact Nat.not_lt_zero n less
        exact ⟨0, Nat.zero_lt_one, .leaf (none ▸ children)⟩
    | succ levels =>
        refine ⟨levels + 1, Nat.lt_succ_self _, .node children fun q member => ?_⟩
        obtain ⟨n, less, low⟩ := each q member
        exact height_at_most_mono n levels q (Nat.le_of_lt_succ less) low
  · rintro ⟨n, less, low⟩ q member
    obtain ⟨k, below, lower⟩ := height_below n p q _ low children member
    exact ⟨k, by omega, lower⟩

def TooDeep (settings : Settings) (e : Error) : Prop :=
  ∃ location, e = .schemaDepth settings.maxSchemaDepth (some location)

open Drawing

theorem primitive_decided (schema : Entries) (bad : Error → Prop)
    (listed : schema.get "enum" = .null ∨ ∃ members, schema.get "enum" = .list members) :
    Decided True bad (primitive settings schema) := by
  intro g
  refine .inl ⟨trivial, ?_⟩
  unfold primitive
  by_cases given : (schema.get "enum").isTrue = true
  · rw [if_pos given]
    rcases listed with absent | ⟨members, listed⟩
    · rw [absent] at given
      cases given
    · rw [listed]
      cases members with
      | nil => exact ⟨_, _, rfl⟩
      | cons first rest => exact ⟨_, _, rfl⟩
  · rw [if_neg given]
    cases kindOf schema <;> exact ⟨_, _, rfl⟩

-- By induction on the levels that are left: each position hands one level less to its children, and none is left for
-- a position that lies too deep.
theorem synthesize_decided (levels : Nat) (location : String) (p : Position)
    (ordered : AllInOrder settings document p) :
    Decided (Fits settings document levels p) (TooDeep settings)
      (synthesizeWithin settings document levels location p.declared p.schema) := by
  induction levels generalizing location p with
  | zero =>
      have never : ¬ Fits settings document 0 p := fun ⟨n, less, _⟩ => Nat.not_lt_zero n less
      exact decided_fail (fun _ => rfl) never ⟨location, rfl⟩
  | succ levels ih =>
      obtain ⟨below, children⟩ := children_exist p ordered
      have inner : ∀ q ∈ below, ∀ place, Decided (Fits settings document levels q) (TooDeep settings)
          (synthesizeWithin settings document levels place q.declared q.schema) :=
        fun q member place => ih place q (in_order_below p q below ordered children member)
      refine decided_of_iff (fits_succ_iff levels p below children) ?_
      cases children with
      | declared => exact decided_pure _ (fun _ member => absurd member List.not_mem_nil)
      | plain plain =>
          rw [synthesize_plain _ _ _ _ _ plain]
          exact decided_pure _ (fun _ member => absurd member List.not_mem_nil)
      | reference points found =>
          rw [synthesize_reference _ _ _ _ _ _ points]
          intro g
          rw [lift_bind_run, found, List.forall_mem_singleton]
          exact inner _ List.mem_cons_self _ g
      | @object schema properties inline object declares =>
          rw [synthesize_object _ _ _ _ _ inline object]
          intro g
          rw [lift_bind_run, (properties_of_iff schema properties location).mpr declares, List.forall_mem_map]
          refine decided_map _ (decided_map_all _ _ _ fun property member => ?_) g
          exact decided_map _ (inner _ (List.mem_map_of_mem member) _)
      | @array schema inline array =>
          rw [synthesize_array _ _ _ _ _ inline array]
          have same : (∀ v ∈ List.replicate settings.arrayCardinality.toNat (itemsOf schema),
              Fits settings document levels ⟨none, v⟩) ↔
              ∀ q ∈ List.replicate settings.arrayCardinality.toNat ⟨none, itemsOf schema⟩,
                Fits settings document levels q := by
            simp only [List.mem_replicate, and_imp, forall_eq_apply_imp_iff]
          refine decided_of_iff same (decided_map _ (decided_map_all _ _ _ fun v member => ?_))
          exact inner ⟨none, v⟩ (by simpa using member) _
      | primitive inline object array =>
          rw [synthesize_primitive _ _ _ _ _ inline object array]
          have listed := (ordered _ .start).enumeration inline object array
          exact decided_of_iff (by simp) (primitive_decided _ _ listed)

theorem fits_bound_iff (p : Position) :
    Fits settings document (settings.maxSchemaDepth + 1 - 0).toNat p ↔
      ∃ n : Nat, (n : Int) ≤ settings.maxSchemaDepth ∧ HeightAtMost settings document n p := by
  constructor
  · rintro ⟨n, less, low⟩
    exact ⟨n, by omega, low⟩
  · rintro ⟨n, le, low⟩
    exact ⟨n, by omega, low⟩

end

theorem synthesize_iff_height_bounded (settings : Settings) (document schema : Value) (location : String)
    (g : Generator) (ordered : AllInOrder settings document ⟨none, schema⟩) :
    ((∃ v h, synthesize settings document 0 location none schema g = .ok (v, h)) ↔
      ∃ n : Nat, (n : Int) ≤ settings.maxSchemaDepth ∧ HeightAtMost settings document n ⟨none, schema⟩) ∧
    ((¬ ∃ n : Nat, (n : Int) ≤ settings.maxSchemaDepth ∧ HeightAtMost settings document n ⟨none, schema⟩) →
      ∃ place, synthesize settings document 0 location none schema g =
        .error (.schemaDepth settings.maxSchemaDepth (some place))) ∧
    (∀ p q below, Met settings document ⟨none, schema⟩ p → Children settings document p below → q ∈ below →
      Met settings document q p → ∃ place, synthesize settings document 0 location none schema g =
        .error (.schemaDepth settings.maxSchemaDepth (some place))) := by
  have decided := synthesize_decided (settings.maxSchemaDepth + 1 - 0).toNat location ⟨none, schema⟩ ordered g
  rw [fits_bound_iff] at decided
  have fails : (¬ ∃ n : Nat, (n : Int) ≤ settings.maxSchemaDepth ∧
      HeightAtMost settings document n ⟨none, schema⟩) →
      ∃ place, synthesize settings document 0 location none schema g =
        .error (.schemaDepth settings.maxSchemaDepth (some place)) := by
    intro high
    rcases decided with ⟨low, -⟩ | ⟨-, e, failed, place, rfl⟩
    · exact absurd low high
    · exact ⟨place, failed⟩
  refine ⟨⟨?_, ?_⟩, fails, ?_⟩
  · rintro ⟨v, h, drawn⟩
    rcases decided with ⟨low, -⟩ | ⟨-, e, failed, -⟩
    · exact low
    · cases drawn.symm.trans failed
  · intro low
    rcases decided with ⟨-, drawn⟩ | ⟨high, -⟩
    · exact drawn
    · exact absurd low high
  · intro p q below met children member back
    refine fails fun ⟨n, _, low⟩ => ?_
    exact returning_has_no_height p q below children member back n (height_of_met n _ p low met)

theorem met_within (settings : Settings) (document : Value) (start : Position) (within : Position → Prop)
    (first : within start)
    (closed : ∀ p, within p → ∃ below, Children settings document p below ∧ ∀ q ∈ below, within q)
    (q : Position) (met : Met settings document start q) : within q := by
  induction met with
  | start => exact first
  | child _ children member ih =>
      obtain ⟨below, also, inside⟩ := closed _ ih
      rw [children_unique _ _ _ children also] at member
      exact inside _ member

-- Lists of lists without end, and the reference that begins them.
def nestedLists : Entries :=
  [(.str "type", .list [.str "null", .str "array"]), (.str "items", .map [(.str "$ref", .str "#/lists")])]

def toNestedLists : Entries :=
  [(.str "$ref", .str "#/lists")]

def listsDocument : Value :=
  .map [(.str "lists", .map nestedLists)]

theorem nested_lists_found :
    Value.resolve listsDocument ({} : Settings).maxReferenceDepth 0 (.str "#/lists") = .ok (.map nestedLists) :=
  to_option_some (by decide +kernel)

theorem to_nested_lists_child :
    Children {} listsDocument ⟨none, .map toNestedLists⟩ [⟨none, .map nestedLists⟩] :=
  .reference rfl nested_lists_found

theorem nested_lists_array : IsArray nestedLists :=
  @HasType.first nestedLists [.str "null"] [] (.str "array") rfl (by simp) (by simp)

theorem nested_lists_child :
    Children {} listsDocument ⟨none, .map nestedLists⟩ [⟨none, .map toNestedLists⟩] :=
  .array rfl nested_lists_array

theorem nested_lists_met (q : Position) (met : Met {} listsDocument ⟨none, .map toNestedLists⟩ q) :
    q = ⟨none, .map toNestedLists⟩ ∨ q = ⟨none, .map nestedLists⟩ := by
  refine met_within {} listsDocument _ (fun q => q = ⟨none, .map toNestedLists⟩ ∨ q = ⟨none, .map nestedLists⟩)
    (.inl rfl) ?_ q met
  rintro p (rfl | rfl)
  · exact ⟨_, to_nested_lists_child, fun q member => .inr (List.mem_singleton.mp member)⟩
  · exact ⟨_, nested_lists_child, fun q member => .inl (List.mem_singleton.mp member)⟩

theorem nested_lists_in_order : AllInOrder {} listsDocument ⟨none, .map toNestedLists⟩ := by
  intro schema met
  rcases nested_lists_met _ met with same | same
  · cases same
    refine ⟨fun pointer points => ?_, fun inline => ?_, fun inline => ?_⟩
    · cases points
      exact ⟨_, nested_lists_found⟩
    · cases inline
    · cases inline
  · cases same
    refine ⟨fun pointer points => ?_, fun _ object => ?_, fun _ _ array => absurd nested_lists_array array⟩
    · cases points
    · exact absurd nested_lists_array (object_not_array _ object)

theorem nested_lists_too_deep :
    AllInOrder {} listsDocument ⟨none, .map toNestedLists⟩ ∧
      ∃ place, synthesize {} listsDocument 0 "#" none (.map toNestedLists) ⟨"en_US", 7⟩ =
        .error (.schemaDepth 100 (some place)) :=
  ⟨nested_lists_in_order,
    (synthesize_iff_height_bounded {} listsDocument _ "#" ⟨"en_US", 7⟩ nested_lists_in_order).2.2 _ _ _ .start
      to_nested_lists_child List.mem_cons_self (.child .start nested_lists_child List.mem_cons_self)⟩

end ApiStubs.Schema
