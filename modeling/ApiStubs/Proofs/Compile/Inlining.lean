import ApiStubs.Proofs.Compile.Simulation
import ApiStubs.Proofs.Simulation.Edited

/- Inlining. A reference that stands where references are followed may give way to the node it leads to: the
   compilation of the description does not show which of the two is there, except in the places that its failures
   name. -/

set_option autoImplicit false

namespace ApiStubs

-- The same failure, up to the place it names or the parameter it shows.
inductive SameCause : Error → Error → Prop where
  | same (e : Error) : SameCause e e
  | shape (expected : Shape) (location other kind : String) :
      SameCause (.wrongShape expected location kind) (.wrongShape expected other kind)
  | depth (bound : Int) (location other : Option String) :
      SameCause (.schemaDepth bound location) (.schemaDepth bound other)
  | nameless (parameter other : String) : SameCause (.namelessHeader parameter) (.namelessHeader other)

def unplaced : Comparison where
  excused := fun _ => False
  alike := SameCause
  near := fun _ _ => True
  alike_refl := .same
  near_refl := fun _ => trivial
  near_extend := fun _ _ _ _ => trivial
  alike_shape := fun expected location other kind _ => .shape expected location other kind
  alike_depth := fun bound location other _ => .depth bound (some location) (some other)

-- A reference gives way to the node at the end of its chain.
def Inlined (document : Value) (bound : Int) (role : Role) (v w : Value) : Prop :=
  role.mayRefer = true ∧ v.isReference = true ∧ Value.resolved document bound v = .ok w

theorem inlined_text_never (document : Value) (bound : Int) (role : Role) (s : String) (w : Value) :
    ¬ Inlined document bound role (.str s) w := by
  simp [Inlined, Value.isReference, Value.reference?]

section

variable {document changed : Entries} {bound : Int} {role : Role}

-- What is put in place of a reference is no reference itself; all other nodes refer to the same node as before.
theorem inlined_resolved_alike {v w : Value} (inside : PointsIntoComponents (.map document))
    (same : document.get? "components" = changed.get? "components")
    (matched : EditedInside (Inlined (.map document) bound) role v w) :
    unplaced.Agree (fun a b => EditedInside (Inlined (.map document) bound) role a b ∧
        SameShape (EditedInside (Inlined (.map document) bound)) role a b)
      (Value.resolved (.map document) bound v) (Value.resolved (.map changed) bound w) := by
  by_cases replaced : Inlined (.map document) bound role v w
  · obtain ⟨-, -, success⟩ := replaced
    have plain := Reference.resolved_ok_not_reference _ _ _ _ success
    have points := Reference.resolved_points _ _ _ _ inside matched.2 success
    rw [success, Reference.resolved_of_not_reference _ _ _ plain]
    exact .ok ⟨EditedInside.unedited points, EditedInside.unedited_shape points⟩
  · have shape := EditedInside.shape matched replaced
    have reference := EditedInside.reference_same shape matched.2 (inlined_text_never _ _)
    exact EditedInside.resolved_alike inside same matched shape reference

theorem inlined_reads_alike (settings : Settings) (inside : PointsIntoComponents (.map document))
    (same : document.get? "components" = changed.get? "components") :
    Simulation unplaced (EditedInside (Inlined (.map document) settings.maxReferenceDepth)) settings settings
      (.map document) (.map changed) where
  sameSettings := rfl
  inert := fun v w matched => edited_inert (fun _ _ allowed => by cases allowed.1) matched.1
  null := fun role => EditedInside.unedited (by decide)
  empty := EditedInside.unedited (by decide)
  emptied := by
    intro matched
    cases matched.1 with
    | edited allowed => cases allowed.1
  shaped := by
    intro role v w whole matched
    refine EditedInside.shape matched fun allowed => ?_
    cases allowed.1.symm.trans (Role.whole_never_refers whole)
  content := fun v w matched => .inl (EditedInside.shape matched fun allowed => nomatch allowed.1)
  resolved := fun role _ v w matched => inlined_resolved_alike inside same matched
  located := fun _ _ _ _ _ _ _ => trivial
  nameless := fun entries others _ => .nameless _ _
  levels := .inl rfl

theorem inlining_keeps_outcome (generator : Generator) (issued : Nat) (settings : Settings) (specName : String)
    (document changed : Entries) (inside : PointsIntoComponents (.map document))
    (inlined : Edited (Inlined (.map document) settings.maxReferenceDepth) .document (.map document) (.map changed)) :
    (∀ compilation, (compileFrom generator issued settings specName document).outcome = .ok compilation →
      compileFrom generator issued settings specName changed =
        compileFrom generator issued settings specName document) ∧
    ∀ e, (compileFrom generator issued settings specName document).outcome = .error e →
      ∃ f, (compileFrom generator issued settings specName changed).outcome = .error f ∧ SameCause e f := by
  have each := EditedInside.document_matched ⟨inlined, inside⟩ fun allowed => by cases allowed.1
  have same := EditedInside.components_same each fun _ _ allowed => by cases allowed.1
  have agree := Compile.compile_from_alike generator issued specName (inlined_reads_alike settings inside same) each
  constructor
  · intro compilation success
    obtain ⟨_, -, unchanged⟩ := agree_ok agree success
    exact unchanged
  · intro e failure
    rcases agree_error agree failure with impossible | found
    · cases impossible
    · exact found

-- An operation whose parameter and answer are given; the answer's own header stays behind its reference.
def shelter (parameter found : Value) : Entries :=
  let get := Value.map [(.str "responses", .map [(.str "200", found)])]
  let item := Value.map [(.str "parameters", .list [parameter]), (.str "get", get)]
  [(.str "paths", .map [(.str "/pets/{id}", item)]),
    (.str "components", .map [
      (.str "parameters", .map [(.str "Id", .map [(.str "name", .str "id"), (.str "in", .str "path"),
        (.str "example", .int 7)])]),
      (.str "headers", .map [(.str "Retry", .map [(.str "example", .int 5)])]),
      (.str "responses", .map [(.str "Found", .map [
        (.str "headers", .map [(.str "Retry", .map [(.str "$ref", .str "#/components/headers/Retry")])]),
        (.str "content", .map [(.str "application/json", .map [(.str "example", .list [.int 1])])])])])])]

def referred : Entries :=
  shelter (.map [(.str "$ref", .str "#/components/parameters/Id")])
    (.map [(.str "$ref", .str "#/components/responses/Found")])

def written : Entries :=
  shelter (.map [(.str "name", .str "id"), (.str "in", .str "path"), (.str "example", .int 7)])
    (.map [(.str "headers", .map [(.str "Retry", .map [(.str "$ref", .str "#/components/headers/Retry")])]),
      (.str "content", .map [(.str "application/json", .map [(.str "example", .list [.int 1])])])])

def shelterStubs : Compilation :=
  ⟨"shelter", [⟨"id-1", ⟨"GET", "/pets/7", []⟩,
      ⟨200, some [("Content-Type", "application/json"), ("Retry", "5")], some "shelter-response-200.json"⟩⟩],
    [⟨"shelter-response-200.json", "[\n  1\n]".toUTF8⟩], []⟩

theorem shelter_edited {edit : Role → Value → Value → Prop} {parameter found other given : Value}
    (first : Edited edit .parameter parameter other) (second : Edited edit .response found given) :
    Edited edit .document (.map (shelter parameter found)) (.map (shelter other given)) := by
  have parameters : Edited edit .parameters (.list [parameter]) (.list [other]) := .list (.cons first .nil)
  have get : Edited edit .operation (.map [(.str "responses", .map [(.str "200", found)])])
      (.map [(.str "responses", .map [(.str "200", given)])]) :=
    .map (.cons (.map (.cons second .nil)) .nil)
  exact .map (.cons (.map (.cons (.map (.cons parameters (.cons get .nil))) .nil)) (.cons .kept .nil))

theorem referred_compiles : compile {} "shelter" referred = .ok shelterStubs :=
  to_option_some (by decide +kernel)

theorem shelter_inlined :
    Edited (Inlined (.map referred) (Settings.maxReferenceDepth {})) .document (.map referred) (.map written) :=
  shelter_edited (.edited ⟨rfl, rfl, to_option_some (by decide +kernel)⟩)
    (.edited ⟨rfl, rfl, to_option_some (by decide +kernel)⟩)

theorem shelter_keeps_outcome :
    PointsIntoComponents (.map referred) ∧
      Edited (Inlined (.map referred) (Settings.maxReferenceDepth {})) .document (.map referred) (.map written) ∧
      compile {} "shelter" referred = .ok shelterStubs ∧
      compileFrom (Generator.start {}) 0 {} "shelter" written =
        compileFrom (Generator.start {}) 0 {} "shelter" referred :=
  ⟨by decide +kernel, shelter_inlined, referred_compiles,
    (inlining_keeps_outcome (Generator.start {}) 0 {} "shelter" referred written (by decide +kernel)
      shelter_inlined).1 shelterStubs referred_compiles⟩

end

end ApiStubs
