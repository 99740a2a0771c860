import ApiStubs.Proofs.Part
import ApiStubs.Proofs.Pointer

/- Readings. A document is read from its root on, and every node is told of together with a place that is to name it.
   What is known of the nodes and of their places is handed on in each step of the reading, and says what is wrong with
   a node that has not the shape that is expected of it. -/

set_option autoImplicit false

namespace ApiStubs

open Json (Formed)

-- A node that is there, and is something else than what is expected.
def Shape.Misfit (expected : Shape) (v : Value) : Prop :=
  v ≠ .null ∧ match expected with
    | .object => ∀ entries, v ≠ .map entries
    | .list => ∀ items, v ≠ .list items
    | .string => ∀ s, v ≠ .str s

-- What `stands` says of nodes and places is handed on; a node that is absent stands anywhere.
structure Reading (settings : Settings) (document : Value) (known : Error → Prop)
    (stands : String → Value → Prop) : Prop extends Legible document known where
  part : ∀ {place : String} {v : Value}, stands place v → Part document v
  root : stands "#" document
  null : ∀ place : String, stands place .null
  entry : ∀ {place : String} {entries : Entries} {e : Value × Value}, stands place (.map entries) → e ∈ entries →
    Pointer.Inner (Pointer.extendText place e.1.display) → stands (Pointer.extendText place e.1.display) e.2
  first : ∀ {place : String} {v : Value} {rest : List Value}, stands place (.list (v :: rest)) →
    stands (Pointer.extendText place "0") v
  target : ∀ {place : String} {v pointer node : Value}, stands place v → v.reference? = some pointer →
    Value.resolve document settings.maxReferenceDepth 0 pointer = .ok node → stands pointer.display node
  -- A path item that is a reference is still named by its path.
  pathItem : ∀ {paths : Entries} {e : Value × Value} {node : Value}, stands "#/paths" (.map paths) → e ∈ paths →
    Value.resolved document settings.maxReferenceDepth e.2 = .ok node →
    stands (Pointer.extendText "#/paths" e.1.display) node
  misfit : ∀ {place : String} {expected : Shape} {v : Value}, stands place v → expected.Misfit v →
    known (.wrongShape expected place v.kindName)

section

variable {settings : Settings} {document : Value} {known : Error → Prop} {stands : String → Value → Prop}

-- Reading the parts of a document, whatever they are named by.
theorem part_reading (settings : Settings) (formed : Formed document)
    (reported : ∀ e : Error, e.Structural → known e) :
    Reading settings document known fun _ v => Part document v where
  unplaced := fun e unplaced => reported e (Error.unplaced_structural unplaced)
  rendered := fun part => renderable_of_formed (part_formed formed part)
  part := id
  root := part_self document
  null := fun _ => .inl rfl
  entry := fun part member _ => part_entry part member
  first := fun part => part_item part List.mem_cons_self
  target := fun _ _ found => .inr (.inr (Reference.follow_below _ _ _ _ _ found))
  pathItem := fun part member found => part_resolved (part_entry part member) found
  misfit := fun _ _ => reported _ (.inl rfl)

-- The entries and the items at a place: none if nothing stands there.
def EntriesAt (stands : String → Value → Prop) (place : String) (entries : Entries) : Prop :=
  entries = [] ∨ stands place (.map entries)

def ItemsAt (stands : String → Value → Prop) (place : String) (items : List Value) : Prop :=
  items = [] ∨ stands place (.list items)

theorem stands_of_member {place : String} {entries : Entries} {e : Value × Value}
    (there : EntriesAt stands place entries) (member : e ∈ entries) : stands place (.map entries) :=
  there.resolve_left (List.ne_nil_of_mem member)

namespace Reading

theorem entries_part (reading : Reading settings document known stands) {place : String} {entries : Entries}
    (there : EntriesAt stands place entries) : Part document (.map entries) := by
  rcases there with rfl | there
  · exact .inr (.inl rfl)
  · exact reading.part there

theorem items_part (reading : Reading settings document known stands) {place : String} {items : List Value}
    (there : ItemsAt stands place items) : ∀ v ∈ items, Part document v := by
  rcases there with rfl | there
  · simp
  · exact fun v member => part_item (reading.part there) member

theorem member (reading : Reading settings document known stands) {place : String} {entries : Entries}
    (there : EntriesAt stands place entries) {e : Value × Value} (member : e ∈ entries)
    (inner : Pointer.Inner (Pointer.extendText place e.1.display)) :
    stands (Pointer.extendText place e.1.display) e.2 :=
  reading.entry (stands_of_member there member) member inner

theorem found (reading : Reading settings document known stands) {place name : String} {entries : Entries} {v : Value}
    (there : EntriesAt stands place entries) (found : entries.get? name = some v)
    (inner : Pointer.Inner (Pointer.extendText place name)) : stands (Pointer.extendText place name) v :=
  reading.member (e := (.str name, v)) there (Pointer.entry_mem entries name v found) inner

theorem get (reading : Reading settings document known stands) {place name : String} {entries : Entries}
    (there : EntriesAt stands place entries) (inner : Pointer.Inner (Pointer.extendText place name)) :
    stands (Pointer.extendText place name) (entries.get name) := by
  unfold Entries.get
  cases found : entries.get? name with
  | none => exact reading.null _
  | some v => exact reading.found there found inner

theorem field (reading : Reading settings document known stands) {place : String} {entries : Entries}
    (there : EntriesAt stands place entries) (name : String) (named : name ≠ "") :
    stands (Pointer.extendText place name) (entries.get name) :=
  reading.get there (Pointer.inner_named place name named)

theorem resolved (reading : Reading settings document known stands) {place : String} {v : Value}
    (there : stands place v) :
    Returns (stands (v.targetLocation place)) known (Value.resolved document settings.maxReferenceDepth v) := by
  have returns := returns_exact (resolved_returns reading.toLegible settings.maxReferenceDepth (reading.part there))
  refine returns_imp returns (fun node both => ?_) fun _ known => known
  have found := both.2
  unfold Value.resolved at found
  unfold Value.targetLocation
  cases points : v.reference? with
  | none =>
      rw [points] at found
      cases found
      exact there
  | some pointer =>
      rw [points] at found
      exact reading.target there points found

theorem object (reading : Reading settings document known stands) {place : String} {v : Value}
    (there : stands place v) : Returns (EntriesAt stands place) known (Shape.objectAt place v) := by
  unfold Shape.objectAt
  split
  · exact .ok (.inl rfl)
  · exact .ok (.inr there)
  · next absent unmapped => exact .error (reading.misfit there ⟨absent, unmapped⟩)

theorem list (reading : Reading settings document known stands) {place : String} {v : Value}
    (there : stands place v) : Returns (ItemsAt stands place) known (Shape.listAt place v) := by
  unfold Shape.listAt
  split
  · exact .ok (.inl rfl)
  · exact .ok (.inr there)
  · next absent unlisted => exact .error (reading.misfit there ⟨absent, unlisted⟩)

end Reading

end

end ApiStubs
