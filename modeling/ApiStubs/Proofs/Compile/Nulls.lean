import ApiStubs.Proofs.Compile.Identifiers
import ApiStubs.Proofs.Simulation.Edited

/- Nulls. Where a list or a mapping of the description is null, the compiler goes on as with an empty one: what the
   description compiles to, and how that fails, does not change when any number of such nulls give way to the empty
   list or mapping that stands for them. -/

set_option autoImplicit false

namespace ApiStubs

def Emptied (role : Role) (v w : Value) : Prop :=
  v = .null ∧ role.empty? = some w

-- Nulls in a parameter are values of it.
theorem emptied_never_describes {role : Role} (describes : role.DescribesParameter) (v w : Value) :
    ¬ Emptied role v w := by
  intro allowed
  cases role with
  | parameter | namedExamples | namedExample | schema | other => cases allowed.2
  | _ => cases describes

theorem emptied_shape {role : Role} {v w : Value} (matched : EditedInside Emptied role v w) :
    SameShape (EditedInside Emptied) role v w := by
  by_cases allowed : Emptied role v w
  · obtain ⟨rfl, empty⟩ := allowed
    exact .emptied empty
  · exact EditedInside.shape matched allowed

theorem emptied_reference_same {role : Role} {v w : Value} (matched : EditedInside Emptied role v w) :
    v.reference? = w.reference? :=
  EditedInside.reference_same (emptied_shape matched) matched.2 fun _ _ _ allowed => by cases allowed.1

theorem emptied_reads_alike (settings : Settings) (document changed : Entries)
    (inside : PointsIntoComponents (.map document)) (left : 0 ≤ settings.maxSchemaDepth)
    (same : document.get? "components" = changed.get? "components") :
    Simulation exact (EditedInside Emptied) settings settings (.map document) (.map changed) where
  sameSettings := rfl
  inert := fun v w matched => edited_inert (fun _ _ allowed => by cases allowed.2) matched.1
  null := fun role => EditedInside.unedited (by decide)
  empty := EditedInside.unedited (by decide)
  emptied := fun _ => left
  shaped := fun role v w _ matched => emptied_shape matched
  content := fun v w matched => .inl (emptied_shape matched)
  resolved := fun role _ v w matched =>
    EditedInside.resolved_alike inside same matched (emptied_shape matched) (emptied_reference_same matched)
  located := by
    intro role v w location other matched near
    unfold Value.targetLocation
    rw [emptied_reference_same matched, show location = other from near]
    exact exact.near_refl _
  nameless := by
    intro entries others matched
    rw [EditedInside.parameter_same emptied_never_describes matched]
    exact exact.alike_refl _
  levels := .inl rfl

-- Settings that have been checked allow for one level of nesting at least.
theorem nulls_count_as_empty (generator : Generator) (issued : Nat) (settings : Settings) (specName : String)
    (document changed : Entries) (left : 0 ≤ settings.maxSchemaDepth) (inside : PointsIntoComponents (.map document))
    (emptied : Edited Emptied .document (.map document) (.map changed)) :
    (compileFrom generator issued settings specName changed).outcome =
      (compileFrom generator issued settings specName document).outcome := by
  have each := EditedInside.document_matched ⟨emptied, inside⟩ fun allowed => by cases allowed.1
  have same := EditedInside.components_same each fun _ _ allowed => by cases allowed.2
  have reads := emptied_reads_alike settings document changed inside left same
  exact Compile.outcome_same generator issued specName reads each

-- All nulls given up at once.
mutual

def filled (role : Role) : Value → Value
  | .null => role.empty?.getD .null
  | .map entries => .map (filledEntries role entries)
  | .list items => .list (filledItems role items)
  | v => v

def filledEntries (role : Role) : List (Value × Value) → List (Value × Value)
  | [] => []
  | (key, v) :: rest => (key, filled (role.under key) v) :: filledEntries role rest

def filledItems (role : Role) : List Value → List Value
  | [] => []
  | v :: rest => filled role.within v :: filledItems role rest

end

mutual

theorem filled_edited (role : Role) : (v : Value) → Edited Emptied role v (filled role v)
  | .null => by
      rw [filled]
      cases empty : role.empty? with
      | none => exact .kept
      | some w => exact .edited ⟨rfl, empty⟩
  | .map entries => by
      rw [filled]
      exact .map (filled_entries_edited role entries)
  | .list items => by
      rw [filled]
      exact .list (filled_items_edited role items)
  | .bool _ | .int _ | .float _ | .str _ | .date _ | .dateTime _ | .bytes _ | .set _ | .tuple _ => by
      rw [filled]
      · exact .kept
      all_goals simp

theorem filled_entries_edited (role : Role) :
    (entries : List (Value × Value)) → EditedEntries Emptied role entries (filledEntries role entries)
  | [] => .nil
  | (key, v) :: rest => .cons (filled_edited (role.under key) v) (filled_entries_edited role rest)

theorem filled_items_edited (role : Role) :
    (items : List Value) → EditedItems Emptied role items (filledItems role items)
  | [] => .nil
  | v :: rest => .cons (filled_edited role.within v) (filled_items_edited role rest)

end

-- A list or a mapping of each kind may be given or not.
def sparse (server parameters item operation responses response headers header contents content : Value) : Entries :=
  let full := Value.map [(.str "headers", .map [(.str "Retry", header)]),
    (.str "content", .map [(.str "application/json", content)])]
  let get := Value.map [(.str "parameters", parameters), (.str "responses", .map [(.str "200", response),
    (.str "201", .map [(.str "headers", headers), (.str "content", contents)]), (.str "202", full)])]
  [(.str "servers", .list [server]),
    (.str "paths", .map [(.str "/cats", item), (.str "/pets", .map [(.str "parameters", parameters), (.str "get", get),
      (.str "put", operation), (.str "post", .map [(.str "responses", responses)])])])]

def nulls : Entries :=
  sparse .null .null .null .null .null .null .null .null .null .null

def empties : Entries :=
  sparse (.map []) (.list []) (.map []) (.map []) (.map []) (.map []) (.map []) (.map []) (.map []) (.map [])

def sparseStubs : Compilation :=
  ⟨"sparse", [⟨"id-1", ⟨"GET", "/pets", []⟩, ⟨200, none, none⟩⟩, ⟨"id-2", ⟨"GET", "/pets", []⟩, ⟨201, none, none⟩⟩,
    ⟨"id-3", ⟨"GET", "/pets", []⟩, ⟨202, some [("Retry", "example-header-value")], none⟩⟩], [], []⟩

theorem nulls_emptied : Edited Emptied .document (.map nulls) (.map empties) :=
  filled_edited .document (.map nulls)

theorem nulls_compile : compile {} "sparse" nulls = .ok sparseStubs :=
  to_option_some (by decide +kernel)

theorem empties_compile_alike :
    0 ≤ Settings.maxSchemaDepth {} ∧ PointsIntoComponents (.map nulls) ∧
      Edited Emptied .document (.map nulls) (.map empties) ∧
      compile {} "sparse" empties = .ok sparseStubs :=
  ⟨by decide, by decide +kernel, nulls_emptied,
    (nulls_count_as_empty (Generator.start {}) 0 {} "sparse" nulls empties (by decide) (by decide +kernel)
      nulls_emptied).trans nulls_compile⟩

end ApiStubs
