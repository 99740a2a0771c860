import ApiStubs.Proofs.Comparison
import ApiStubs.Proofs.Schema.Form

/- What two draws for one schema have in common. No drawn value decides what is drawn next, so that from any two
   generators drawing fails alike, or goes well after the same number of draws and with values that differ only where
   a schema without parts stands. -/

set_option autoImplicit false

namespace ApiStubs.Schema

-- A property with what was drawn for it in the one run and in the other.
structure DrawnTwice where
  name : Value
  property : Value
  first : Value
  second : Value

inductive SameSkeleton (settings : Settings) (document : Value) : Option Value → Value → Value → Value → Prop where
  | declared (v schema : Value) : SameSkeleton settings document (some v) schema v v
  | plain {v : Value} (unmapped : ∀ entries, v ≠ .map entries) : SameSkeleton settings document none v .null .null
  | reference {schema : Entries} {pointer target a b : Value} (points : schema.get? "$ref" = some pointer)
      (resolved : Value.resolve document settings.maxReferenceDepth 0 pointer = .ok target)
      (behind : SameSkeleton settings document none target a b) :
      SameSkeleton settings document none (.map schema) a b
  | object {schema : Entries} {rows : List DrawnTwice} (inline : schema.get? "$ref" = none) (object : IsObject schema)
      (declares : Declares schema (rows.map fun row => (row.name, row.property)))
      (each : ∀ row ∈ rows, SameSkeleton settings document (exampleOf row.property) row.property row.first row.second) :
      SameSkeleton settings document none (.map schema) (.map (rows.map fun row => (row.name, row.first)))
        (.map (rows.map fun row => (row.name, row.second)))
  | array {schema : Entries} {pairs : List (Value × Value)} (inline : schema.get? "$ref" = none)
      (array : IsArray schema) (filled : pairs.length = settings.arrayCardinality.toNat)
      (each : ∀ pair ∈ pairs, SameSkeleton settings document none (itemsOf schema) pair.1 pair.2) :
      SameSkeleton settings document none (.map schema) (.list (pairs.map (·.1))) (.list (pairs.map (·.2)))
  | primitive {schema : Entries} {a b : Value} {g h k l : Generator} (inline : schema.get? "$ref" = none)
      (object : ¬ IsObject schema) (array : ¬ IsArray schema) (first : primitive settings schema g = .ok (a, k))
      (second : primitive settings schema h = .ok (b, l)) : SameSkeleton settings document none (.map schema) a b

-- Two generators that are equally many draws behind two others.
def Abreast (g h p q : Generator) : Prop :=
  ∃ count : Nat, p = { g with next := g.next + count } ∧ q = { h with next := h.next + count }

theorem abreast_start (g h : Generator) : Abreast g h g h :=
  ⟨0, by simp, by simp⟩

theorem abreast_advance {g h p q : Generator} (abreast : Abreast g h p q) : Abreast g h p.advance q.advance := by
  obtain ⟨count, rfl, rfl⟩ := abreast
  exact ⟨count + 1, by simp [Generator.advance, Int.add_assoc], by simp [Generator.advance, Int.add_assoc]⟩

section

variable {c : Comparison} {settings : Settings} {document : Value} {g h : Generator}

-- Whether something is drawn, and whether that fails, is seen from the schema alone.
theorem primitive_cases (settings : Settings) (schema : Entries) :
    (∃ e, ∀ g, primitive settings schema g = .error e) ∨ (∀ g, primitive settings schema g = .ok (.null, g)) ∨
      ∀ g, ∃ v, primitive settings schema g = .ok (v, g.advance) := by
  unfold primitive
  by_cases given : (schema.get "enum").isTrue = true
  · simp only [if_pos given]
    cases membersOf (schema.get "enum") with
    | error e => exact .inl ⟨e, fun _ => rfl⟩
    | ok members =>
        cases members with
        | nil => exact .inr (.inl fun _ => rfl)
        | cons first rest => exact .inr (.inr fun g => ⟨g.element first rest, rfl⟩)
  · simp only [if_neg given]
    cases kind : kindOf schema with
    | nothing => exact .inr (.inl fun _ => rfl)
    | _ => exact .inr (.inr fun g => ⟨_, rfl⟩)

theorem primitive_abreast {schema : Entries} (inline : schema.get? "$ref" = none) (object : ¬ IsObject schema)
    (array : ¬ IsArray schema) :
    c.AgreeFrom (Abreast g h) (SameSkeleton settings document none (.map schema)) (primitive settings schema)
      (primitive settings schema) := by
  intro p q abreast
  have both {a b : Value} {k l : Generator} (first : primitive settings schema p = .ok (a, k))
      (second : primitive settings schema q = .ok (b, l)) (after : Abreast g h k l) :
      c.Agree (fun r s => SameSkeleton settings document none (.map schema) r.1 s.1 ∧ Abreast g h r.2 s.2)
        (primitive settings schema p) (primitive settings schema q) := by
    rw [first, second]
    exact .ok ⟨.primitive inline object array first second, after⟩
  rcases primitive_cases settings schema with ⟨e, fails⟩ | still | draws
  · rw [fails, fails]
    exact .failed (c.alike_refl e)
  · exact both (still p) (still q) abreast
  · obtain ⟨a, first⟩ := draws p
    obtain ⟨b, second⟩ := draws q
    exact both first second (abreast_advance abreast)

def DrawsAbreast (c : Comparison) (settings : Settings) (document : Value) (g h : Generator) (levels : Nat) : Prop :=
  ∀ location declared v, c.AgreeFrom (Abreast g h) (SameSkeleton settings document declared v)
    (synthesizeWithin settings document levels location declared v)
    (synthesizeWithin settings document levels location declared v)

variable {levels : Nat}

theorem object_abreast (less : DrawsAbreast c settings document g h levels) (location : String) {schema : Entries}
    (inline : schema.get? "$ref" = none) (object : IsObject schema) :
    c.AgreeFrom (Abreast g h) (SameSkeleton settings document none (.map schema))
      (synthesizeWithin settings document (levels + 1) location none (.map schema))
      (synthesizeWithin settings document (levels + 1) location none (.map schema)) := by
  rw [synthesize_object _ _ _ _ _ inline object]
  refine agree_lift_bind (agree_known _) fun properties _ both => ?_
  obtain ⟨rfl, found⟩ := both
  have each (property : Value × Value) : c.AgreeFrom (Abreast g h)
      (fun e f => e.1 = property.1 ∧ f.1 = property.1 ∧
        SameSkeleton settings document (exampleOf property.2) property.2 e.2 f.2)
      (drawProperty settings document levels location property)
      (drawProperty settings document levels location property) :=
    agree_state_bind (less _ _ _) fun _ _ alike => agree_state_pure ⟨rfl, rfl, alike⟩
  refine agree_state_bind (agree_state_map_along each properties) fun first second drawn => agree_state_pure ?_
  obtain ⟨rows, rfl, rfl, rfl, all⟩ := drawn
  let twice (row : (Value × Value) × (Value × Value) × (Value × Value)) : DrawnTwice :=
    ⟨row.1.1, row.1.2, row.2.1.2, row.2.2.2⟩
  have firstRows : rows.map (·.2.1) = (rows.map twice).map fun row => (row.name, row.first) := by
    rw [List.map_map]
    exact List.map_congr_left fun row member => Prod.ext (all row member).1 rfl
  have secondRows : rows.map (·.2.2) = (rows.map twice).map fun row => (row.name, row.second) := by
    rw [List.map_map]
    exact List.map_congr_left fun row member => Prod.ext (all row member).2.1 rfl
  have declares : Declares schema ((rows.map twice).map fun row => (row.name, row.property)) := by
    rw [List.map_map]
    exact (properties_of_iff ..).mp found
  rw [firstRows, secondRows]
  refine .object inline object declares fun row member => ?_
  obtain ⟨triple, inside, rfl⟩ := List.mem_map.mp member
  exact (all triple inside).2.2

theorem array_abreast (less : DrawsAbreast c settings document g h levels) (location : String) {schema : Entries}
    (inline : schema.get? "$ref" = none) (array : IsArray schema) :
    c.AgreeFrom (Abreast g h) (SameSkeleton settings document none (.map schema))
      (synthesizeWithin settings document (levels + 1) location none (.map schema))
      (synthesizeWithin settings document (levels + 1) location none (.map schema)) := by
  rw [synthesize_array _ _ _ _ _ inline array]
  have each (item : Value) := less (Pointer.extendText location "items") none item
  refine agree_state_bind (agree_state_map_along each _) fun first second drawn => agree_state_pure ?_
  obtain ⟨rows, items, rfl, rfl, all⟩ := drawn
  have filled : (rows.map (·.2)).length = settings.arrayCardinality.toNat := by
    simpa using (congrArg List.length items).symm
  have pairs : rows.map (·.2.1) = (rows.map (·.2)).map (·.1) ∧ rows.map (·.2.2) = (rows.map (·.2)).map (·.2) := by
    simp [List.map_map, Function.comp_def]
  rw [pairs.1, pairs.2]
  refine .array inline array filled fun pair member => ?_
  obtain ⟨row, inside, rfl⟩ := List.mem_map.mp member
  have item : row.1 = itemsOf schema := List.eq_of_mem_replicate (items ▸ List.mem_map_of_mem inside)
  exact item ▸ all row inside

-- By induction on the levels that are left.
theorem draws_within_abreast (levels : Nat) : DrawsAbreast c settings document g h levels := by
  induction levels with
  | zero =>
      intro location declared v p q _
      exact .failed (c.alike_refl _)
  | succ levels less =>
      intro location declared v
      cases declared with
      | some own =>
          rw [synthesize_declared]
          exact agree_state_pure (.declared own v)
      | none =>
          by_cases mapped : ∃ schema : Entries, v = .map schema
          · obtain ⟨schema, rfl⟩ := mapped
            cases points : schema.get? "$ref" with
            | some pointer =>
                rw [synthesize_reference _ _ _ _ _ _ points]
                refine agree_lift_bind (agree_known _) fun node _ both => ?_
                obtain ⟨rfl, resolved⟩ := both
                exact fun p q start => agree_imp (less _ none node p q start) fun _ _ drawn =>
                  ⟨.reference points resolved drawn.1, drawn.2⟩
            | none =>
                by_cases object : IsObject schema
                · exact object_abreast less location points object
                · by_cases array : IsArray schema
                  · exact array_abreast less location points array
                  · rw [synthesize_primitive _ _ _ _ _ points object array]
                    exact primitive_abreast points object array
          · have unmapped : ∀ entries, v ≠ .map entries := fun entries same => mapped ⟨entries, same⟩
            rw [synthesize_plain _ _ _ _ v unmapped]
            exact agree_state_pure (.plain unmapped)

theorem draws_abreast (depth : Int) (location : String) (declared : Option Value) (v : Value) :
    c.AgreeFrom (Abreast g h) (SameSkeleton settings document declared v)
      (synthesize settings document depth location declared v)
      (synthesize settings document depth location declared v) :=
  draws_within_abreast _ location declared v

end

theorem draws_share_skeleton (settings : Settings) (document : Value) (depth : Int) (location : String)
    (declared : Option Value) (schema : Value) (g h : Generator) :
    (∃ e, synthesize settings document depth location declared schema g = .error e ∧
      synthesize settings document depth location declared schema h = .error e) ∨
    ∃ (a b : Value) (count : Nat),
      synthesize settings document depth location declared schema g = .ok (a, { g with next := g.next + count }) ∧
      synthesize settings document depth location declared schema h = .ok (b, { h with next := h.next + count }) ∧
      SameSkeleton settings document declared schema a b := by
  have abreast : exact.AgreeFrom (Abreast g h) (SameSkeleton settings document declared schema) _ _ :=
    draws_abreast depth location declared schema
  have agree := abreast g h (abreast_start g h)
  generalize synthesize settings document depth location declared schema g = first at agree ⊢
  generalize synthesize settings document depth location declared schema h = second at agree ⊢
  cases agree with
  | ok related =>
      obtain ⟨alike, count, left, right⟩ := related
      exact .inr ⟨_, _, count, by rw [← left], by rw [← right], alike⟩
  | failed same => exact .inl ⟨_, rfl, same ▸ rfl⟩
  | excused never => exact never.elim

def soldSchema : Value :=
  .map [(.str "properties", .map [(.str "name", .map [(.str "type", .str "string")]),
    (.str "status", .map [(.str "enum", .list [.str "sold", .str "free"])])])]

def drawnAs (seed : Int) : Except Error (Value × Generator) :=
  synthesize {} .null 2 "#" none soldSchema (Generator.start { seed := some seed })

-- The name and the status are drawn anew, and the pet is an object with just these two.
theorem pets_share_skeleton :
    ∃ (a b : Value) (count : Nat), drawnAs 0 = .ok (a, ⟨"en_US", 0 + count⟩) ∧
      drawnAs 1 = .ok (b, ⟨"en_US", 1 + count⟩) ∧ SameSkeleton {} .null none soldSchema a b ∧ a ≠ b := by
  have differ : (drawnAs 0).toOption.map (·.1) ≠ (drawnAs 1).toOption.map (·.1) := by decide +kernel
  have drawn : (drawnAs 0).toOption.isSome = true := by decide +kernel
  rcases draws_share_skeleton {} .null 2 "#" none soldSchema (Generator.start { seed := some 0 })
    (Generator.start { seed := some 1 }) with ⟨e, failed, -⟩ | ⟨a, b, count, first, second, same⟩
  · rw [show drawnAs 0 = .error e from failed] at drawn
    cases drawn
  · refine ⟨a, b, count, first, second, same, fun equal => differ ?_⟩
    rw [show drawnAs 0 = _ from first, show drawnAs 1 = _ from second, equal]
    rfl

end ApiStubs.Schema
