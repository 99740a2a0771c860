import ApiStubs.Proofs.BodyFile
import ApiStubs.Proofs.Compile.Output
import ApiStubs.Proofs.Compile.Simulation
import ApiStubs.Proofs.Entries
import ApiStubs.Proofs.Example
import ApiStubs.Proofs.Simulation.Edited

/- Examples in a compilation. The body file of a response that shows an example holds it as it is, with nothing drawn,
   and the schema that stands beside an example is not read: it may be any other one, also one that leads nowhere. -/

set_option autoImplicit false

namespace ApiStubs

namespace Compile

-- The response of a slot shows an example.
def Slot.Shows (settings : Settings) (document : Value) (slot : Slot) (v : Value) : Prop :=
  ∃ response content, Value.resolved document settings.maxReferenceDepth slot.response = .ok (.map response) ∧
    Response.Offers settings response content ∧ Response.Shown settings document content v

-- The body file of a stub holds a value, and no other file has its name.
def Holds (c : Compilation) (stub : Stub) (v : Value) : Prop :=
  ∃ file ∈ c.files, stub.response.bodyFileName = some file.name ∧
    (∀ other ∈ c.files, other.name = file.name → other = file) ∧
    ∃ text, String.fromUTF8? file.content = some text ∧ Json.read text = .ok v

theorem example_answered {scope : Scope} {slot : Slot} {operation : Operation} {p q : Progress} {v : Value}
    (prepared : slot.site.Prepares scope operation)
    (ran : Ran (compileResponse scope operation slot.key slot.response) p () q)
    (shows : slot.Shows scope.settings scope.document v) (present : v ≠ .null) :
    (∀ g, slot.body scope g = .ok (v, g)) ∧ ∃ stub file, q.stubs = p.stubs ++ [stub] ∧ file ∈ q.files ∧
      stub.response.bodyFileName = some file.name ∧ BodyFile.ofValue file.name v = .ok file := by
  obtain ⟨-, merged, text, required, -, -, -, rfl⟩ := prepared
  obtain ⟨status, node, own, headers, body, generator, answer, middle, -, resolved, shaped, -, drawn, defined, rfl⟩ :=
    (ran_compile_response ..).mp ran
  obtain ⟨response, content, target, offers, shown⟩ := shows
  cases resolved.symm.trans target
  cases shaped
  have always := Response.shown_body offers shown drawn
  cases drawn.symm.trans (always p.generator)
  obtain ⟨file, filed, rfl, rfl⟩ := (ran_definition_body _ _ _ _ _ _ _ _ present).mp defined
  have content : slot.content scope = .ok own := by
    simp only [Slot.content, except_bind_ok]
    exact ⟨_, resolved, rfl⟩
  have name := body_file_name filed
  refine ⟨fun g => ?_, _, file, rfl, List.mem_append_right _ (List.mem_singleton_self file), ?_, ?_⟩
  · simp only [Slot.body, content]
    exact always g
  · rw [name]
  · rwa [name]

theorem body_file_holds {generator : Generator} {issued : Nat} {settings : Settings} {specName : String}
    {document : Entries} {c : Compilation} {before after : List Slot} {slot : Slot} {v : Value}
    (success : (compileFrom generator issued settings specName document).outcome = .ok c)
    (placed : slots settings document = before ++ slot :: after) (shows : slot.Shows settings (.map document) v)
    (present : v ≠ .null) (whole : Json.Whole v) :
    ∃ stub, c.stubs[before.length]? = some stub ∧ Holds c stub v ∧ ∃ base, basePath document = .ok base ∧
      ∀ g, slot.body ⟨settings, .map document, specName, base⟩ g = .ok (v, g) := by
  obtain ⟨-, distinct, -⟩ := compiled_files success
  obtain ⟨base, p, based, visited, rfl⟩ := compile_from_visits _ _ _ _ _ _ success
  rw [placed] at visited
  obtain ⟨operation, told, more, middle, next, earlier, prepared, ran, later⟩ := visits_at visited
  obtain ⟨always, stub, file, added, filed, named, written⟩ := example_answered prepared ran shows present
  obtain ⟨-, earlierBodies, earlierStubs, -, front, count, described⟩ := visits_describe _ _ _ _ _ earlier
  obtain ⟨-, laterBodies, laterStubs, -, back, -, -⟩ := visits_describe _ _ _ _ _ later
  have length : earlierStubs.length = before.length := by
    simp [← described.length_eq, count]
  have all : p.stubs = earlierStubs ++ stub :: laterStubs := by
    simp [back, added, front, Progress.start]
  have member : file ∈ p.files := (visits_files later).subset filed
  refine ⟨stub, ?_, ⟨file, member, named, ?_, BodyFile.filed_decodes whole written⟩, base, based, always⟩
  · simp [Progress.result, all, ← length]
  · exact fun other among same => List.inj_on_of_nodup_map distinct among member same

end Compile

-- Beside an example, the schema is replaced.
def Reschemed (role : Role) (v w : Value) : Prop :=
  role = .content ∧ ∃ content schema, Exemplified content ∧ v = .map content ∧
    w = .map (content.put (.str "schema") schema)

theorem reschemed_text_never (role : Role) (s : String) (w : Value) : ¬ Reschemed role (.str s) w := by
  intro allowed
  obtain ⟨-, content, schema, -, impossible, -⟩ := allowed
  cases impossible

theorem reschemed_never_describes {role : Role} (describes : role.DescribesParameter) (v w : Value) :
    ¬ Reschemed role v w := by
  intro allowed
  obtain ⟨rfl, -⟩ := allowed
  cases describes

theorem reschemed_reference_same {role : Role} {v w : Value} (matched : EditedInside Reschemed role v w) :
    v.reference? = w.reference? := by
  by_cases allowed : Reschemed role v w
  · obtain ⟨-, content, schema, -, rfl, rfl⟩ := allowed
    simp [Value.reference?, Entries.get_put]
  · exact EditedInside.reference_same (EditedInside.shape matched allowed) matched.2 reschemed_text_never

theorem reschemed_content_same {content : Entries} (schema : Value) (inside : PointsIntoComponents (.map content))
    (exemplified : Exemplified content) :
    SameContent (EditedInside Reschemed) content (content.put (.str "schema") schema) where
  named := by
    have kept : (content.put (.str "schema") schema).get "examples" = content.get "examples" := by
      simp [Entries.get, Entries.get_put]
    rw [kept]
    exact EditedInside.unedited_field inside "examples"
  own := by
    rw [Entries.get_put, if_neg (by decide)]
    have each : MatchedEntries (EditedInside Reschemed) .content content content := EditedInside.unedited_entries inside
    exact found_alike each "example"
  schema := .inl exemplified

theorem reschemed_reads_alike (settings : Settings) (document changed : Entries)
    (inside : PointsIntoComponents (.map document)) (same : document.get? "components" = changed.get? "components") :
    Simulation exact (EditedInside Reschemed) settings settings (.map document) (.map changed) where
  sameSettings := rfl
  inert := fun v w matched => edited_inert (fun _ _ allowed => by cases allowed.1) matched.1
  null := fun role => EditedInside.unedited (by decide)
  empty := EditedInside.unedited (by decide)
  emptied := by
    intro matched
    cases matched.1 with
    | edited allowed =>
        obtain ⟨-, content, schema, -, impossible, -⟩ := allowed
        cases impossible
  shaped := fun role v w whole matched => EditedInside.shape matched fun allowed => Role.whole_no_content whole allowed.1
  content := by
    intro v w matched
    by_cases allowed : Reschemed .content v w
    · obtain ⟨-, content, schema, exemplified, rfl, rfl⟩ := allowed
      exact .inr ⟨content, _, rfl, rfl, reschemed_content_same schema matched.2 exemplified⟩
    · exact .inl (EditedInside.shape matched allowed)
  resolved := fun role other v w matched =>
    EditedInside.resolved_alike inside same matched (EditedInside.shape matched fun allowed => other allowed.1)
      (reschemed_reference_same matched)
  located := by
    intro role v w location other matched near
    unfold Value.targetLocation
    rw [reschemed_reference_same matched, show location = other from near]
    exact exact.near_refl _
  nameless := by
    intro entries others matched
    rw [EditedInside.parameter_same reschemed_never_describes matched]
    exact exact.alike_refl _
  levels := .inl rfl

open Compile

theorem schema_beside_example_unread (generator : Generator) (issued : Nat) (settings : Settings) (specName : String)
    (document changed : Entries) (inside : PointsIntoComponents (.map document))
    (edited : Edited Reschemed .document (.map document) (.map changed)) :
    (compileFrom generator issued settings specName changed).outcome =
      (compileFrom generator issued settings specName document).outcome := by
  have each := EditedInside.document_matched ⟨edited, inside⟩ fun allowed => by cases allowed.1
  have same := EditedInside.components_same each fun _ _ allowed => by cases allowed.1
  exact outcome_same generator issued specName (reschemed_reads_alike settings document changed inside same) each

theorem body_file_holds_example (generator : Generator) (issued : Nat) (settings : Settings) (specName : String)
    (document : Entries) :
    (∀ c before slot after v, (compileFrom generator issued settings specName document).outcome = .ok c →
      slots settings document = before ++ slot :: after → slot.Shows settings (.map document) v → v ≠ .null →
      Json.Whole v → ∃ stub, c.stubs[before.length]? = some stub ∧ Holds c stub v ∧
        ∃ base, basePath document = .ok base ∧
          ∀ g, slot.body ⟨settings, .map document, specName, base⟩ g = .ok (v, g)) ∧
    (PointsIntoComponents (.map document) → ∀ changed, Edited Reschemed .document (.map document) (.map changed) →
      (compileFrom generator issued settings specName changed).outcome =
        (compileFrom generator issued settings specName document).outcome) := by
  constructor
  · intro c before slot after v success placed shows present whole
    exact body_file_holds success placed shows present whole
  · intro inside changed edited
    exact schema_beside_example_unread generator issued settings specName document changed inside edited

def pointingTo (name : String) : Value :=
  .map [(.str "$ref", .str ("#/components/examples/" ++ name))]

def beside (schema : Value) (shown : Value × Value) : Entries :=
  [(.str "schema", schema), shown]

def answer (content : Entries) : Entries :=
  [(.str "content", .map [(.str "application/json", .map content)])]

def namedZero : Value × Value :=
  (.str "examples", .map [(.str "first", pointingTo "Zero")])

-- Three examples that may be taken for none, each beside the same schema: an own one, a named one, and one referred to.
def answers (schema : Value) : Entries :=
  [(.str "200", .map (answer (beside schema (.str "example", .bool false)))),
    (.str "201", .map (answer (beside schema namedZero))),
    (.str "202", .map (answer (beside schema (.str "example", pointingTo "Empty"))))]

def counter (schema : Value) : Entries :=
  [(.str "paths", .map [(.str "/count", .map [(.str "get", .map [(.str "responses", .map (answers schema))])])]),
    (.str "components", .map [(.str "examples", .map [(.str "Zero", .map [(.str "value", .int 0)]),
      (.str "Empty", .map [(.str "value", .list [])])])])]

def textual : Value :=
  .map [(.str "type", .str "string")]

def astray : Value :=
  .map [(.str "$ref", .str "#/nowhere")]

def counterStubs : Compilation :=
  let stub (id : String) (status : Int) (name : String) : Stub :=
    ⟨id, ⟨"GET", "/count", []⟩, ⟨status, some [("Content-Type", "application/json")], some name⟩⟩
  ⟨"count", [stub "id-1" 200 "count-response-200.json", stub "id-2" 201 "count-response-201.json",
      stub "id-3" 202 "count-response-202.json"],
    [⟨"count-response-200.json", "false".toUTF8⟩, ⟨"count-response-201.json", "0".toUTF8⟩,
      ⟨"count-response-202.json", "[]".toUTF8⟩], []⟩

theorem counter_edited (schema other : Value) :
    Edited Reschemed .document (.map (counter schema)) (.map (counter other)) := by
  have each (shown : Value × Value) (exemplified : Exemplified (beside schema shown)) :
      Edited Reschemed .response (.map (answer (beside schema shown))) (.map (answer (beside other shown))) :=
    .map (.cons (.map (.cons (.edited ⟨rfl, _, other, exemplified, rfl, rfl⟩) .nil)) .nil)
  have responses : Edited Reschemed .responses (.map (answers schema)) (.map (answers other)) :=
    .map (.cons (each _ (.inr ⟨_, rfl⟩)) (.cons (each _ (.inl ⟨_, _, _, rfl⟩)) (.cons (each _ (.inr ⟨_, rfl⟩)) .nil)))
  have get : Edited Reschemed .operation (.map [(.str "responses", .map (answers schema))])
      (.map [(.str "responses", .map (answers other))]) := .map (.cons responses .nil)
  exact .map (.cons (.map (.cons (.map (.cons get .nil)) .nil)) (.cons .kept .nil))

theorem counter_compiles : compile {} "count" (counter textual) = .ok counterStubs :=
  to_option_some (by decide +kernel)

theorem counter_shown : ∃ before slot after, slots {} (counter textual) = before ++ slot :: after ∧
    before.length = 1 ∧ slot.Shows {} (.map (counter textual)) (.int 0) := by
  refine ⟨[_], _, [_], rfl, rfl, answer (beside textual namedZero), beside textual namedZero, rfl, ?_, ?_⟩
  · exact ⟨_, rfl, rfl⟩
  · have zero : Value.resolved (.map (counter textual)) (Settings.maxReferenceDepth {}) (pointingTo "Zero") =
        .ok (.map [(.str "value", .int 0)]) := to_option_some (by decide +kernel)
    exact .named rfl zero rfl

theorem counter_holds_examples :
    PointsIntoComponents (.map (counter textual)) ∧
      Edited Reschemed .document (.map (counter textual)) (.map (counter astray)) ∧
      compile {} "count" (counter textual) = .ok counterStubs ∧
      (∃ stub, counterStubs.stubs[1]? = some stub ∧ Holds counterStubs stub (.int 0)) ∧
      compile {} "count" (counter astray) = .ok counterStubs := by
  obtain ⟨held, unread⟩ := body_file_holds_example (Generator.start {}) 0 {} "count" (counter textual)
  have inside : PointsIntoComponents (.map (counter textual)) := by decide +kernel
  refine ⟨inside, counter_edited _ _, counter_compiles, ?_, ?_⟩
  · obtain ⟨before, slot, after, placed, second, shows⟩ := counter_shown
    obtain ⟨stub, there, holds, -⟩ :=
      held counterStubs before slot after (.int 0) counter_compiles placed shows nofun (by simp only [Json.Whole])
    exact ⟨stub, second ▸ there, holds⟩
  · exact (unread inside (counter astray) (counter_edited _ _)).trans counter_compiles

end ApiStubs
