import ApiStubs.Compile

/- The roles of the nodes of a description, as far as the compiler reads it: what a node is for follows from the keys
   on the way to it. A description may be edited at the nodes of some roles and kept everywhere else. -/

set_option autoImplicit false

namespace ApiStubs

inductive Role where
  | document
  | servers
  | server
  | paths
  | item
  | parameters
  | parameter
  | operation
  | responses
  | response
  | headers
  | header
  | contents
  | content
  | namedExamples
  | namedExample
  | schema
  | other
deriving DecidableEq

namespace Role

-- What stands under a key of a mapping.
def under : Role → Value → Role
  | .document, key => if key = .str "servers" then .servers else if key = .str "paths" then .paths else .other
  | .paths, _ => .item
  | .item, key =>
      if key = .str "parameters" then .parameters else if Compile.isMethod key then .operation else .other
  | .operation, key =>
      if key = .str "parameters" then .parameters else if key = .str "responses" then .responses else .other
  | .responses, _ => .response
  | .response, key =>
      if key = .str "headers" then .headers else if key = .str "content" then .contents else .other
  | .headers, _ => .header
  | .contents, _ => .content
  | .content, key => if key = .str "examples" then .namedExamples else .other
  | .parameter, key | .header, key =>
      if key = .str "examples" then .namedExamples else if key = .str "schema" then .schema else .other
  | .namedExamples, _ => .namedExample
  | _, _ => .other

-- What stands in a list.
def within : Role → Role
  | .servers => .server
  | .parameters => .parameter
  | _ => .other

-- Where the compiler looks behind a reference.
def mayRefer : Role → Bool
  | .item | .parameter | .response | .header | .namedExample | .schema => true
  | _ => false

-- Whether a node is read as it stands and with all that it declares; of a content the schema may stay unread.
def isWhole : Role → Bool
  | .content => false
  | role => !role.mayRefer

theorem whole_never_refers {role : Role} (whole : role.isWhole = true) : role.mayRefer = false := by
  cases role with
  | content => rfl
  | _ => simpa [isWhole] using whole

theorem whole_no_content {role : Role} (whole : role.isWhole = true) : role ≠ .content := by
  rintro rfl
  cases whole

-- What null is read as where a list or a mapping is asked for.
def empty? : Role → Option Value
  | .servers | .parameters => some (.list [])
  | .server | .paths | .item | .operation | .responses | .response | .headers | .header | .contents | .content =>
      some (.map [])
  | _ => none

-- The roles inside a parameter that stands in its place.
def DescribesParameter : Role → Prop
  | .parameter | .namedExamples | .namedExample | .schema | .other => True
  | _ => False

theorem empty_not_reference {role : Role} {v : Value} (empty : role.empty? = some v) : v.reference? = none := by
  cases role <;> cases empty <;> rfl

end Role

section

variable (edit : Role → Value → Value → Prop)

-- `Edited edit place v w`: at some places in `v`, itself among them, what `edit` allows has been put; `w` is the
-- outcome.
mutual

inductive Edited : Role → Value → Value → Prop where
  | kept {role : Role} {v : Value} : Edited role v v
  | edited {role : Role} {v w : Value} (allowed : edit role v w) : Edited role v w
  | map {role : Role} {entries others : Entries} (each : EditedEntries role entries others) :
      Edited role (.map entries) (.map others)
  | list {role : Role} {items others : List Value} (each : EditedItems role items others) :
      Edited role (.list items) (.list others)

inductive EditedEntries : Role → Entries → Entries → Prop where
  | nil {role : Role} : EditedEntries role [] []
  | cons {role : Role} {key v w : Value} {entries others : Entries} (first : Edited (role.under key) v w)
      (rest : EditedEntries role entries others) : EditedEntries role ((key, v) :: entries) ((key, w) :: others)

inductive EditedItems : Role → List Value → List Value → Prop where
  | nil {role : Role} : EditedItems role [] []
  | cons {role : Role} {v w : Value} {items others : List Value} (first : Edited role.within v w)
      (rest : EditedItems role items others) : EditedItems role (v :: items) (w :: others)

end

variable {edit : Role → Value → Value → Prop}

-- Roles that all nodes further down share, and that no edit is allowed in.
structure Untouched (edit : Role → Value → Value → Prop) (part : Role → Prop) : Prop where
  under : ∀ role key, part role → part (role.under key)
  within : ∀ role, part role → part role.within
  never : ∀ role v w, part role → ¬ edit role v w

mutual

theorem untouched_same {part : Role → Prop} {role : Role} {v w : Value} (untouched : Untouched edit part)
    (inside : part role) : Edited edit role v w → v = w
  | .kept => rfl
  | .edited allowed => absurd allowed (untouched.never role v w inside)
  | .map each => congrArg Value.map (untouched_entries_same untouched inside each)
  | .list each => congrArg Value.list (untouched_items_same untouched inside each)

theorem untouched_entries_same {part : Role → Prop} {role : Role} {entries others : Entries}
    (untouched : Untouched edit part) (inside : part role) : EditedEntries edit role entries others → entries = others
  | .nil => rfl
  | .cons first rest => by
      rw [untouched_same untouched (untouched.under _ _ inside) first,
        untouched_entries_same untouched inside rest]

theorem untouched_items_same {part : Role → Prop} {role : Role} {items others : List Value}
    (untouched : Untouched edit part) (inside : part role) : EditedItems edit role items others → items = others
  | .nil => rfl
  | .cons first rest => by
      rw [untouched_same untouched (untouched.within _ inside) first, untouched_items_same untouched inside rest]

end

theorem other_untouched (never : ∀ v w, ¬ edit .other v w) : Untouched edit (· = .other) where
  under := by
    intro role key other
    subst other
    rfl
  within := by
    intro role other
    subst other
    rfl
  never := by
    intro role v w other
    subst other
    exact never v w

theorem parameter_untouched (never : ∀ {role : Role}, role.DescribesParameter → ∀ v w, ¬ edit role v w) :
    Untouched edit Role.DescribesParameter where
  under := by
    intro role key describes
    cases role with
    | parameter =>
        by_cases named : key = .str "examples"
        · simp [Role.under, named, Role.DescribesParameter]
        · by_cases typed : key = .str "schema" <;> simp [Role.under, named, typed, Role.DescribesParameter]
    | namedExamples | namedExample | schema | other => trivial
    | _ => cases describes
  within := by
    intro role describes
    cases role with
    | servers | parameters => cases describes
    | _ => trivial
  never := fun _ v w describes => never describes v w

-- What the compiler does not look into stays as it is when no edit is allowed there.
theorem edited_inert {v w : Value} (never : ∀ a b, ¬ edit .other a b) (edited : Edited edit .other v w) : v = w :=
  untouched_same (other_untouched never) rfl edited

end

end ApiStubs
