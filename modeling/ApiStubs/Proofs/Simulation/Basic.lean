import ApiStubs.Proofs.Below
import ApiStubs.Proofs.Comparison
import ApiStubs.Proofs.Origin
import ApiStubs.Proofs.Role

/- Two descriptions read side by side. `matching` says role by role which nodes of the one stand for which nodes of
   the other. When matching nodes have the same shape, in the roles that may be played by a reference only after it
   has been followed, whatever is read out of the two agrees. Null and what it is read as count as one shape, and of
   contents only what is read of them has to match. -/

set_option autoImplicit false

namespace ApiStubs

section

variable (matching : Role → Value → Value → Prop)

def MatchedEntries (role : Role) (entries others : Entries) : Prop :=
  List.Forall₂ (fun e f => e.1 = f.1 ∧ matching (role.under e.1) e.2 f.2) entries others

inductive SameShape (role : Role) : Value → Value → Prop where
  | map {entries others : Entries} (each : MatchedEntries matching role entries others) :
      SameShape role (.map entries) (.map others)
  | list {items others : List Value} (each : List.Forall₂ (matching role.within) items others) :
      SameShape role (.list items) (.list others)
  | plain {v : Value} (unmapped : ∀ entries, v ≠ .map entries) (unlisted : ∀ items, v ≠ .list items) :
      SameShape role v v
  | emptied {w : Value} (empty : role.empty? = some w) : SameShape role .null w

-- A parameter that is no reference any more.
def MatchedParameter (param other : Entries) : Prop :=
  matching .parameter (.map param) (.map other) ∧ MatchedEntries matching .parameter param other

end

-- An example stands in a content: a first named one, or its own.
def Exemplified (content : Entries) : Prop :=
  Response.NamesExample content ∨ ∃ shown, content.get? "example" = some shown

-- Beside an example the schemas of two contents do not have to match.
structure SameContent (matching : Role → Value → Value → Prop) (content other : Entries) : Prop where
  named : matching .namedExamples (content.get "examples") (other.get "examples")
  own : Option.Rel (matching .other) (content.get? "example") (other.get? "example")
  schema : Exemplified content ∨ matching .other (content.get "schema") (other.get "schema")

-- What is asked of a matching. The settings of the two runs may differ in their bounds and in what is drawn; nodes
-- that the compiler does not look into match only themselves; all others, but for contents, have the same shape once
-- references have been followed.
structure Simulation (c : Comparison) (matching : Role → Value → Value → Prop) (settings later : Settings)
    (document changed : Value) : Prop where
  sameSettings : later = { settings with
    maxReferenceDepth := later.maxReferenceDepth
    maxSchemaDepth := later.maxSchemaDepth
    locale := later.locale
    seed := later.seed }
  inert : ∀ v w, matching .other v w → v = w
  null : ∀ role, matching role .null .null
  empty : matching .other (.map []) (.map [])
  -- A value is drawn for an empty content and none for null, which is the same as long as there is a level left.
  emptied : matching .content .null (.map []) → 0 ≤ later.maxSchemaDepth
  shaped : ∀ role v w, role.isWhole = true → matching role v w → SameShape matching role v w
  content : ∀ v w, matching .content v w → SameShape matching .content v w ∨
    ∃ content other, v = .map content ∧ w = .map other ∧ SameContent matching content other
  resolved : ∀ role, role ≠ .content → ∀ v w, matching role v w →
    c.Agree (fun a b => matching role a b ∧ SameShape matching role a b)
      (Value.resolved document settings.maxReferenceDepth v) (Value.resolved changed later.maxReferenceDepth w)
  located : ∀ role v w location other, matching role v w → c.near location other →
    c.near (v.targetLocation location) (w.targetLocation other)
  nameless : ∀ entries others, MatchedEntries matching .parameter entries others →
    c.alike (.namelessHeader (Value.map entries).display) (.namelessHeader (Value.map others).display)
  levels : later.maxSchemaDepth = settings.maxSchemaDepth ∨
    settings.maxSchemaDepth ≤ later.maxSchemaDepth ∧ ∀ bound location, c.excused (.schemaDepth bound location)

section

variable {c : Comparison} {matching : Role → Value → Value → Prop} {settings later : Settings}
  {document changed : Value} {role : Role}

theorem found_alike {entries others : Entries} (matched : MatchedEntries matching role entries others)
    (name : String) :
    Option.Rel (matching (role.under (.str name))) (entries.get? name) (others.get? name) := by
  induction matched with
  | nil => exact .none
  | @cons e f entries others first _ ih =>
      obtain ⟨key, v⟩ := e
      obtain ⟨other, w⟩ := f
      obtain ⟨rfl, matched⟩ := first
      by_cases here : key = .str name
      · subst here
        simpa [Entries.get?] using Option.Rel.some matched
      · simpa [Entries.get?, here] using ih

theorem same_shape_refl (role : Role) (v : Value)
    (refl : ∀ role inner, Below v inner → matching role inner inner) : SameShape matching role v v := by
  cases v with
  | map entries => exact .map (List.forall₂_same.mpr fun e member => ⟨rfl, refl _ e.2 (.entry member .self)⟩)
  | list items => exact .list (List.forall₂_same.mpr fun item member => refl _ item (.item member .self))
  | _ => exact .plain (fun _ same => by cases same) (fun _ same => by cases same)

theorem object_alike {v w : Value} {location other : String} (read : role.empty? = some (.map []))
    (shape : SameShape matching role v w) (near : c.near location other) :
    c.Agree (MatchedEntries matching role) (Shape.objectAt location v) (Shape.objectAt other w) := by
  cases shape with
  | map each => exact .ok each
  | list each => exact .failed (c.alike_shape _ _ _ _ near)
  | plain unmapped unlisted =>
      cases v with
      | null => exact .ok .nil
      | map entries => exact absurd rfl (unmapped entries)
      | _ => exact .failed (c.alike_shape _ _ _ _ near)
  | emptied empty =>
      rw [read] at empty
      cases empty
      exact .ok .nil

theorem list_alike {v w : Value} {location other : String} (read : role.empty? = some (.list []))
    (shape : SameShape matching role v w) (near : c.near location other) :
    c.Agree (List.Forall₂ (matching role.within)) (Shape.listAt location v) (Shape.listAt other w) := by
  cases shape with
  | map each => exact .failed (c.alike_shape _ _ _ _ near)
  | list each => exact .ok each
  | plain unmapped unlisted =>
      cases v with
      | null => exact .ok .nil
      | list items => exact absurd rfl (unlisted items)
      | _ => exact .failed (c.alike_shape _ _ _ _ near)
  | emptied empty =>
      rw [read] at empty
      cases empty
      exact .ok .nil

end

namespace Simulation

variable {c : Comparison} {matching : Role → Value → Value → Prop} {settings later : Settings}
  {document changed : Value} {role : Role} (sim : Simulation c matching settings later document changed)
include sim

theorem read_alike {entries others : Entries} (matched : MatchedEntries matching role entries others)
    (name : String) : matching (role.under (.str name)) (entries.get name) (others.get name) := by
  have found := found_alike matched name
  unfold Entries.get
  cases first : entries.get? name <;> cases second : others.get? name <;> rw [first, second] at found
  · exact sim.null _
  · cases found
  · cases found
  · cases found with
    | some found => exact found

theorem found_same {entries others : Entries} (matched : MatchedEntries matching role entries others)
    (name : String) (plain : role.under (.str name) = .other) : entries.get? name = others.get? name := by
  have found := found_alike matched name
  rw [plain] at found
  generalize entries.get? name = first, others.get? name = second at found
  cases found with
  | some same => exact congrArg some (sim.inert _ _ same)
  | none => rfl

theorem read_same {entries others : Entries} (matched : MatchedEntries matching role entries others)
    (name : String) (plain : role.under (.str name) = .other) : entries.get name = others.get name := by
  unfold Entries.get
  rw [sim.found_same matched name plain]

end Simulation

end ApiStubs
