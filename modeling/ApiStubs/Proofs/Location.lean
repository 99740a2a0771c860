import ApiStubs.Proofs.Reading
import ApiStubs.Proofs.Schema.Drawn
import ApiStubs.Proofs.Schema.Expansion

/- The places that nodes are named by. A place leads to its node, step by step from the root of the document; at a
   reference it goes on from the pointer, to where the whole chain ends. A place is a pointer to its node unless it
   takes a detour on the way: at a pointer to another reference, a path item that is a reference, an entry that is not
   read by its name, or the items of an array that has none. -/

set_option autoImplicit false

namespace ApiStubs

open Schema (IsArray IsObject Stage)

inductive Leads (settings : Settings) (document : Value) : String → Value → Prop where
  | root : Leads settings document "#" document
  | entry {place : String} {entries : Entries} {e : Value × Value}
      (stands : Leads settings document place (.map entries)) (member : e ∈ entries)
      (inner : Pointer.Inner (Pointer.extendText place e.1.display)) :
      Leads settings document (Pointer.extendText place e.1.display) e.2
  | first {place : String} {v : Value} {rest : List Value}
      (stands : Leads settings document place (.list (v :: rest))) :
      Leads settings document (Pointer.extendText place "0") v
  | reference {place : String} {v pointer node : Value} (stands : Leads settings document place v)
      (points : v.reference? = some pointer)
      (found : Value.resolve document settings.maxReferenceDepth 0 pointer = .ok node) :
      Leads settings document pointer.display node
  -- A path item is named by its path, also if it is a reference.
  | pathItem {paths : Entries} {e : Value × Value} {node : Value}
      (stands : Leads settings document "#/paths" (.map paths)) (listed : e ∈ paths)
      (found : Value.resolved document settings.maxReferenceDepth e.2 = .ok node) :
      Leads settings document (Pointer.extendText "#/paths" e.1.display) node
  -- The items of an array, also if there are none: then the empty schema stands for them.
  | items {place : String} {schema : Entries} (stands : Leads settings document place (.map schema))
      (inline : schema.get? "$ref" = none) (array : IsArray schema) :
      Leads settings document (Pointer.extendText place "items") (Schema.itemsOf schema)

-- Where the text of a place leaves the way to its node.
inductive Detour (document : Value) : String → Prop where
  | chain {place : String} {v target next : Value} (below : Below document v)
      (points : v.reference? = some (.str place)) (found : Pointer.lookup document (.str place) = .ok target)
      (further : target.reference? = some next) : Detour document place
  | pathItem {paths : Entries} {e : Value × Value} {pointer : Value}
      (found : Pointer.lookup document (.str "#/paths") = .ok (.map paths)) (listed : e ∈ paths)
      (points : e.2.reference? = some pointer) : Detour document (Pointer.extendText "#/paths" e.1.display)
  | entry {place : String} {entries : Entries} {e : Value × Value}
      (found : Pointer.lookup document (.str place) = .ok (.map entries)) (member : e ∈ entries)
      (unread : entries.get? e.1.display ≠ some e.2) : Detour document (Pointer.extendText place e.1.display)
  | items {place : String} {schema : Entries} (found : Pointer.lookup document (.str place) = .ok (.map schema))
      (inline : schema.get? "$ref" = none) (array : IsArray schema)
      (missing : schema.get? "items" ≠ some (Schema.itemsOf schema)) :
      Detour document (Pointer.extendText place "items")
  -- A place that goes on from a detour does not come back.
  | further {place : String} (detour : Detour document place) (name : String) :
      Detour document (Pointer.extendText place name)

section

variable {settings : Settings} {document : Value} {place : String} {v : Value}

-- A place that leads to a node, and is a pointer to it unless it takes a detour.
structure Names (settings : Settings) (document : Value) (place : String) (v : Value) : Prop where
  leads : Leads settings document place v
  pointer : Pointer.lookup document (.str place) = .ok v ∨ Detour document place

theorem pointer_text {pointer : Value} (found : Pointer.lookup document pointer = .ok v) :
    pointer = .str pointer.display := by
  cases pointer with
  | str s => rfl
  | _ => cases found

theorem leads_found {name : String} {entries : Entries} (leads : Leads settings document place (.map entries))
    (found : entries.get? name = some v) (inner : Pointer.Inner (Pointer.extendText place name)) :
    Leads settings document (Pointer.extendText place name) v :=
  .entry (e := (.str name, v)) leads (Pointer.entry_mem entries name v found) inner

theorem leads_part (leads : Leads settings document place v) : Part document v := by
  induction leads with
  | root => exact part_self document
  | entry _ member _ ih => exact part_entry ih member
  | first _ ih => exact part_item ih List.mem_cons_self
  | reference _ _ found _ => exact .inr (.inr (Reference.follow_below _ _ _ _ _ found))
  | pathItem _ listed found ih => exact part_resolved (part_entry ih listed) found
  | items _ _ _ ih => exact Schema.items_of_part ih

theorem part_referring {pointer : Value} (part : Part document v) (points : v.reference? = some pointer) :
    Below document v := by
  rcases part with rfl | rfl | below
  · cases points
  · cases points
  · exact below

theorem entry_pointer {entries : Entries} {e : Value × Value}
    (found : Pointer.lookup document (.str place) = .ok (.map entries)) (member : e ∈ entries)
    (inner : Pointer.Inner (Pointer.extendText place e.1.display)) :
    Pointer.lookup document (.str (Pointer.extendText place e.1.display)) = .ok e.2 ∨
      Detour document (Pointer.extendText place e.1.display) := by
  by_cases read : entries.get? e.1.display = some e.2
  · exact .inl (Pointer.lookup_extended found inner read)
  · exact .inr (.entry found member read)

-- A pointer is left for a detour where the chain goes on.
theorem reference_pointer {pointer node : Value} (below : Below document v) (points : v.reference? = some pointer)
    (found : Value.resolve document settings.maxReferenceDepth 0 pointer = .ok node) :
    Pointer.lookup document (.str pointer.display) = .ok node ∨ Detour document pointer.display := by
  obtain ⟨k, -, reached⟩ := (Reference.follow_ok_iff ..).mp found
  cases k with
  | zero =>
      have there := ((Reference.ends_at_zero ..).mp reached).1
      exact .inl (pointer_text there ▸ there)
  | succ k =>
      obtain ⟨target, next, first, further, -⟩ := (Reference.ends_at_succ ..).mp reached
      rw [pointer_text first] at points first
      exact .inr (.chain below points first further)

theorem item_pointer {paths : Entries} {e : Value × Value} {node : Value}
    (there : Pointer.lookup document (.str "#/paths") = .ok (.map paths)) (listed : e ∈ paths)
    (found : Value.resolved document settings.maxReferenceDepth e.2 = .ok node) :
    Pointer.lookup document (.str (Pointer.extendText "#/paths" e.1.display)) = .ok node ∨
      Detour document (Pointer.extendText "#/paths" e.1.display) := by
  cases points : e.2.reference? with
  | some pointer => exact .inr (.pathItem there listed points)
  | none =>
      simp only [Value.resolved, points] at found
      cases found
      exact entry_pointer there listed (Pointer.inner_further ⟨'p', by decide, by decide⟩ _)

-- By induction on the way from the root; each step of the way is a step of the pointer, or the detour begins there.
theorem names_of_leads (leads : Leads settings document place v) : Names settings document place v := by
  refine ⟨leads, ?_⟩
  induction leads with
  | root => exact .inl rfl
  | entry _ member inner ih =>
      rcases ih with found | detour
      · exact entry_pointer found member inner
      · exact .inr (.further detour _)
  | first _ ih =>
      rcases ih with found | detour
      · exact .inl (Pointer.lookup_extended found (Pointer.inner_named _ "0" (by decide)) rfl)
      · exact .inr (.further detour _)
  | reference stands points found _ => exact reference_pointer (part_referring (leads_part stands) points) points found
  | pathItem _ listed found ih =>
      rcases ih with there | detour
      · exact item_pointer there listed found
      · exact .inr (.further detour _)
  | @items _ schema _ inline array ih =>
      rcases ih with found | detour
      · by_cases given : schema.get? "items" = some (Schema.itemsOf schema)
        · exact .inl (Pointer.lookup_extended found (Pointer.inner_named _ "items" (by decide)) given)
        · exact .inr (.items found inline array given)
      · exact .inr (.further detour _)

-- No reference leads to another, no path item is a reference, every entry is read by its name, and the items of every
-- array are there.
structure Direct (document : Value) : Prop where
  chains : ∀ {v pointer target : Value}, Below document v → v.reference? = some pointer →
    Pointer.lookup document pointer = .ok target → target.reference? = none
  pathItems : ∀ {paths : Entries} {e : Value × Value}, Pointer.lookup document (.str "#/paths") = .ok (.map paths) →
    e ∈ paths → e.2.reference? = none
  entries : ∀ {entries : Entries} {e : Value × Value}, Below document (.map entries) → e ∈ entries →
    entries.get? e.1.display = some e.2
  items : ∀ {schema : Entries}, Below document (.map schema) → schema.get? "$ref" = none → IsArray schema →
    schema.get? "items" = some (Schema.itemsOf schema)

theorem direct_undetoured (direct : Direct document) (place : String) : ¬ Detour document place := by
  intro detour
  induction detour with
  | chain below points found further => cases (direct.chains below points found).symm.trans further
  | pathItem found listed points => cases (direct.pathItems found listed).symm.trans points
  | entry found member unread => exact unread (direct.entries (Pointer.lookup_below _ _ _ found) member)
  | items found inline array missing => exact missing (direct.items (Pointer.lookup_below _ _ _ found) inline array)
  | further _ _ never => exact never

-- A test of a mapping: its entries are read by their names, it leads to no other reference, and has items if it is an
-- array.
def directMapping (document : Value) (entries : Entries) : Bool :=
  (entries.all fun e => entries.get? e.1.display == some e.2) &&
    match entries.get? "$ref" with
    | some pointer =>
        match Pointer.lookup document pointer with
        | .ok target => !target.isReference
        | .error _ => true
    | none => !Schema.isArray entries || entries.get? "items" == some (Schema.itemsOf entries)

def directPaths (document : Value) : Bool :=
  match Pointer.lookup document (.str "#/paths") with
  | .ok (.map paths) => paths.all fun e => !e.2.isReference
  | _ => true

theorem direct_of_test (mappings : everyMapping (directMapping document) document = true)
    (paths : directPaths document = true) : Direct document where
  chains := by
    intro v pointer target below points found
    cases v with
    | map entries =>
        have test := (every_mapping_iff _ document).mp mappings entries below
        simp only [Value.reference?] at points
        simp only [directMapping, points, found, Bool.and_eq_true] at test
        simpa [Value.isReference] using test.2
    | _ => cases points
  pathItems := by
    intro items e found listed
    simp only [directPaths, found, List.all_eq_true] at paths
    simpa [Value.isReference] using paths e listed
  entries := by
    intro entries e below member
    have test := (every_mapping_iff _ document).mp mappings entries below
    rw [directMapping, Bool.and_eq_true, List.all_eq_true] at test
    simpa using test.1 e member
  items := by
    intro schema below inline array
    have test := (every_mapping_iff _ document).mp mappings schema below
    rw [← Schema.is_array_iff] at array
    simp only [directMapping, inline, Bool.and_eq_true] at test
    simpa [array] using test.2

-- A node that its place leads to, or one that is absent.
def Located (settings : Settings) (document : Value) (place : String) (v : Value) : Prop :=
  v = .null ∨ Leads settings document place v

theorem located_part (located : Located settings document place v) : Part document v := by
  rcases located with rfl | leads
  · exact .inl rfl
  · exact leads_part leads

theorem located_present (located : Located settings document place v) (present : v ≠ .null) :
    Leads settings document place v :=
  located.resolve_left present

theorem located_reading {known : Error → Prop} (settings : Settings) (legible : Legible document known)
    (misfit : ∀ {place : String} {expected : Shape} {v : Value}, Leads settings document place v →
      expected.Misfit v → known (.wrongShape expected place v.kindName)) :
    Reading settings document known (Located settings document) where
  toLegible := legible
  part := located_part
  root := .inr .root
  null := fun _ => .inl rfl
  entry := fun located member inner => .inr (.entry (located_present located (by simp)) member inner)
  first := fun located => .inr (.first (located_present located (by simp)))
  target := by
    rintro place v pointer node (rfl | leads) points found
    · cases points
    · exact .inr (.reference leads points found)
  pathItem := fun located listed found => .inr (.pathItem (located_present located (by simp)) listed found)
  misfit := fun located unfit => misfit (located_present located unfit.1) unfit

-- The schema of a stage is named by its place, and the schemas that it is expanded to are then named by theirs.
theorem expands_leads {first next : Stage} (expands : Schema.Expands settings document first next)
    (leads : Leads settings document first.place first.position.schema) :
    Leads settings document next.place next.position.schema := by
  cases expands with
  | reference points found => exact .reference leads points found
  | items inline array _ => exact .items leads inline array
  | @property _ place schema front rest property inline object declares _ =>
      have given : schema.get "properties" = .map (front ++ property :: rest) := by
        refine declares.resolve_right fun none => ?_
        simpa using none.2
      have named := Pointer.inner_named place "properties" (by decide)
      have properties := leads_found leads (get_present given (by simp)) named
      exact .entry properties (List.mem_append_right front List.mem_cons_self) (Pointer.inner_further named _)

theorem reaches_leads {first last : Stage} (reaches : first.Reaches settings document last)
    (leads : Leads settings document first.place first.position.schema) :
    Leads settings document last.place last.position.schema := by
  induction reaches with
  | refl => exact leads
  | tail _ expands ih => exact expands_leads expands ih

theorem misfit_leads {stage : Stage} {expected : Shape} {place kind : String}
    (breaks : stage.Breaks settings document (.wrongShape expected place kind))
    (leads : Leads settings document stage.place stage.position.schema) :
    ∃ v, Leads settings document place v ∧ expected.Misfit v ∧ kind = v.kindName := by
  obtain ⟨schema, v, mapped, given, filled, unmapped, rfl, rfl, rfl⟩ := Schema.breaks_shape breaks
  have present : v ≠ .null := by
    rintro rfl
    cases filled
  rw [mapped] at leads
  have there := leads_found leads (get_present given present) (Pointer.inner_named _ _ (by decide))
  exact ⟨v, there, ⟨present, unmapped⟩, rfl⟩

-- Nothing goes wrong with a schema that is absent while a level is left.
theorem absent_drawn (levels : 0 ≤ settings.maxSchemaDepth) (place : String) (declared : Option Value) (g : Generator) :
    ∃ v, (Stage.first settings place declared .null).draw settings document g = .ok (v, g) := by
  obtain ⟨n, counted⟩ : ∃ n, (settings.maxSchemaDepth + 1).toNat = n + 1 := ⟨settings.maxSchemaDepth.toNat, by omega⟩
  simp only [Stage.draw, Stage.first, counted]
  cases declared with
  | none => exact ⟨_, rfl⟩
  | some own => exact ⟨_, rfl⟩

end

end ApiStubs
