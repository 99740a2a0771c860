import ApiStubs.Proofs.Compile.Run

/- The response keys of a document as one list, in the order in which they stand, and a compilation as a walk
   along that list. A site is an operation with the path item it stands in, a slot a response key of a site.
   On the way the walk stops at every site to report its placeholders, also at one without response keys. -/

set_option autoImplicit false

namespace ApiStubs.Compile

open ApiStubs.Text

structure Site where
  path : String
  item : Entries
  method : Value
  operation : Value

structure Slot where
  site : Site
  key : Value
  response : Value

def entriesOf : Value → Entries
  | .map entries => entries
  | _ => []

def itemsOf : Value → List Value
  | .list items => items
  | _ => []

def itemSites (path : String) (item entries : Entries) : List Site :=
  (entries.filter fun e => isMethod e.1).map fun e => ⟨path, item, e.1, e.2⟩

def pathSites (settings : Settings) (document : Value) : Value × Value → List Site
  | (.str path, raw) =>
      match Value.resolved document settings.maxReferenceDepth raw with
      | .ok item => itemSites path (entriesOf item) (entriesOf item)
      | .error _ => []
  | _ => []

def sites (settings : Settings) (document : Entries) : List Site :=
  (entriesOf (document.get "paths")).flatMap (pathSites settings (.map document))

def entrySlots (site : Site) (entries : Entries) : List Slot :=
  entries.map fun e => ⟨site, e.1, e.2⟩

def Site.slots (site : Site) : List Slot :=
  entrySlots site (entriesOf ((entriesOf site.operation).get "responses"))

def slots (settings : Settings) (document : Entries) : List Slot :=
  (sites settings document).flatMap Site.slots

def Site.location (site : Site) : String :=
  Pointer.extendText (Pointer.extendText "#/paths" site.path) site.method.display

def Site.merged (scope : Scope) (site : Site) : Except Error (List Entries) :=
  Parameter.merge scope.settings scope.document (itemsOf (site.item.get "parameters"))
    (itemsOf ((entriesOf site.operation).get "parameters"))

def Site.filled (scope : Scope) (site : Site) (merged : List Entries) : Except Error String × List Unresolved :=
  PathTemplate.fill scope.settings scope.document site.path (merged.map Value.map)

def Site.unresolved (scope : Scope) (site : Site) : List Unresolved :=
  match site.merged scope with
  | .ok merged => (site.filled scope merged).2
  | .error _ => []

def Site.Prepares (scope : Scope) (site : Site) (operation : Operation) : Prop :=
  isMethod site.method = true ∧ ∃ merged text required, site.merged scope = .ok merged ∧
    (site.filled scope merged).1 = .ok text ∧
    Parameter.requiredHeaders scope.settings scope.document [] (merged.map Value.map) = .ok required ∧
    operation = ⟨asciiUpper site.method.display, scope.basePath ++ text, required,
      Pointer.extendText site.location "responses"⟩

-- A report takes no slot: it stands where the placeholders of a site are told, before the slots of that site.
inductive Visits (scope : Scope) : List Slot → List Unresolved → Progress → Progress → Prop where
  | done {p : Progress} : Visits scope [] [] p p
  | report {slots : List Slot} {found more : List Unresolved} {p q : Progress}
      (rest : Visits scope slots more (p.reported found) q) : Visits scope slots (found ++ more) p q
  | answer {slot : Slot} {slots : List Slot} {found : List Unresolved} {operation : Operation} {p q r : Progress}
      (prepared : slot.site.Prepares scope operation)
      (first : Ran (compileResponse scope operation slot.key slot.response) p () q)
      (rest : Visits scope slots found q r) : Visits scope (slot :: slots) found p r

theorem visits_append {scope : Scope} {before after : List Slot} {found more : List Unresolved}
    {p q r : Progress} (first : Visits scope before found p q) (second : Visits scope after more q r) :
    Visits scope (before ++ after) (found ++ more) p r := by
  induction first with
  | done => exact second
  | report _ ih =>
      rw [List.append_assoc]
      exact .report (ih second)
  | answer prepared step _ ih => exact .answer prepared step (ih second)

-- A walk that passes a slot answers it between the slots before and those after.
theorem visits_at {scope : Scope} {before after : List Slot} {slot : Slot} {found : List Unresolved} {p r : Progress}
    (visited : Visits scope (before ++ slot :: after) found p r) :
    ∃ operation told more middle next, Visits scope before told p middle ∧ slot.site.Prepares scope operation ∧
      Ran (compileResponse scope operation slot.key slot.response) middle () next ∧
      Visits scope after more next r := by
  generalize along : before ++ slot :: after = slots at visited
  induction visited generalizing before with
  | done => exact absurd along (by simp)
  | report _ ih =>
      obtain ⟨operation, told, more, middle, next, earlier, rest⟩ := ih along
      exact ⟨operation, _, more, middle, next, .report earlier, rest⟩
  | answer prepared first others ih =>
      cases before with
      | nil =>
          cases along
          exact ⟨_, [], _, _, _, .done, prepared, first, others⟩
      | cons head before =>
          cases along
          obtain ⟨operation, told, more, middle, next, earlier, rest⟩ := ih rfl
          exact ⟨operation, told, more, middle, next, .answer prepared first earlier, rest⟩

theorem object_at_ok {location : String} {v : Value} {entries : Entries}
    (shaped : Shape.objectAt location v = .ok entries) : entries = entriesOf v := by
  cases v <;> simp_all [Shape.objectAt, entriesOf, eq_comm]

theorem list_at_ok {location : String} {v : Value} {items : List Value}
    (shaped : Shape.listAt location v = .ok items) : items = itemsOf v := by
  cases v <;> simp_all [Shape.listAt, itemsOf, eq_comm]

theorem compile_responses_visits (scope : Scope) (site : Site) (operation : Operation) (entries : Entries)
    (p q : Progress) (prepared : site.Prepares scope operation)
    (ran : Ran (compileResponses scope operation entries) p () q) :
    Visits scope (entrySlots site entries) [] p q := by
  induction entries generalizing p with
  | nil =>
      simp only [compileResponses, ran_pure, true_and] at ran
      subst ran
      exact .done
  | cons entry rest ih =>
      obtain ⟨key, raw⟩ := entry
      obtain ⟨middle, first, others⟩ := (ran_compile_responses_cons ..).mp ran
      exact .answer prepared first (ih middle others)

theorem compile_operation_visits (scope : Scope) (site : Site) (p q : Progress)
    (method : isMethod site.method = true)
    (ran : Ran (compileOperation scope site.path (itemsOf (site.item.get "parameters")) site.location site.method
      site.operation) p () q) :
    Visits scope site.slots (site.unresolved scope) p q := by
  obtain ⟨operation, own, merged, text, required, responses, shaped, listed, done, filled, matched, declared,
    rest⟩ := (ran_compile_operation ..).mp ran
  cases object_at_ok shaped
  cases list_at_ok listed
  cases object_at_ok declared
  have known : site.merged scope = .ok merged := done
  have told : site.unresolved scope = (site.filled scope merged).2 := by
    simp only [Site.unresolved, known]
  have prepared : site.Prepares scope _ := ⟨method, merged, text, required, known, filled, matched, rfl⟩
  have visited := compile_responses_visits scope site _ _ _ _ prepared rest
  rw [told, ← List.append_nil (site.filled scope merged).2]
  exact .report visited

theorem compile_operations_visits (scope : Scope) (path : String) (item entries : Entries) (p q : Progress)
    (ran : Ran (compileOperations scope path (itemsOf (item.get "parameters")) (Pointer.extendText "#/paths" path)
      entries) p () q) :
    Visits scope ((itemSites path item entries).flatMap Site.slots)
      ((itemSites path item entries).flatMap (Site.unresolved scope)) p q := by
  induction entries generalizing p with
  | nil =>
      simp only [compileOperations, ran_pure, true_and] at ran
      subst ran
      exact .done
  | cons entry rest ih =>
      obtain ⟨key, raw⟩ := entry
      obtain ⟨middle, first, others⟩ := (ran_compile_operations_cons ..).mp ran
      have later := ih middle others
      by_cases method : isMethod key
      · rw [if_pos method] at first
        have here := compile_operation_visits scope ⟨path, item, key, raw⟩ p middle method first
        simpa [itemSites, List.filter_cons, method] using visits_append here later
      · rw [if_neg method] at first
        subst first
        simpa [itemSites, List.filter_cons, method] using later

theorem compile_path_visits (scope : Scope) (key raw : Value) (p q : Progress)
    (ran : Ran (compilePath scope key raw) p () q) :
    Visits scope ((pathSites scope.settings scope.document (key, raw)).flatMap Site.slots)
      ((pathSites scope.settings scope.document (key, raw)).flatMap (Site.unresolved scope)) p q := by
  obtain ⟨path, node, item, shared, rfl, resolved, shaped, listed, rest⟩ := (ran_compile_path ..).mp ran
  cases object_at_ok shaped
  cases list_at_ok listed
  simpa only [pathSites, resolved] using compile_operations_visits scope path _ _ p q rest

theorem compile_paths_visits (scope : Scope) (paths : Entries) (p q : Progress)
    (ran : Ran (compilePaths scope paths) p () q) :
    Visits scope ((paths.flatMap (pathSites scope.settings scope.document)).flatMap Site.slots)
      ((paths.flatMap (pathSites scope.settings scope.document)).flatMap (Site.unresolved scope)) p q := by
  induction paths generalizing p with
  | nil =>
      simp only [compilePaths, ran_pure, true_and] at ran
      subst ran
      exact .done
  | cons entry rest ih =>
      obtain ⟨key, raw⟩ := entry
      obtain ⟨middle, first, others⟩ := (ran_compile_paths_cons ..).mp ran
      simpa only [List.flatMap_cons, List.flatMap_append] using
        visits_append (compile_path_visits scope key raw p middle first) (ih middle others)

theorem compile_from_visits (generator : Generator) (issued : Nat) (settings : Settings) (specName : String)
    (document : Entries) (c : Compilation)
    (success : (compileFrom generator issued settings specName document).outcome = .ok c) :
    ∃ base p, basePath document = .ok base ∧
      Visits ⟨settings, .map document, specName, base⟩ (slots settings document)
        ((sites settings document).flatMap (Site.unresolved ⟨settings, .map document, specName, base⟩))
        (Progress.start generator issued) p ∧
      c = p.result specName := by
  obtain ⟨p, ran, rfl⟩ := (compile_from_ok_iff ..).mp success
  obtain ⟨base, paths, based, shaped, rest⟩ := (ran_compile_document ..).mp ran
  cases object_at_ok shaped
  exact ⟨base, p, based, compile_paths_visits _ _ _ _ rest, rfl⟩

end ApiStubs.Compile
