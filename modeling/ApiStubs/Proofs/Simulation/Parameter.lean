import ApiStubs.Proofs.Simulation.Basic

/- What two descriptions that read alike make of their parameters and headers: the same examples, the same merged
   parameters, the same filled paths and the same reports about them. -/

set_option autoImplicit false

namespace ApiStubs

-- A result with what was noted on the way to it; of a failure the notes are left out.
def together {α β : Type} (noted : Except Error α × β) : Except Error (α × β) :=
  noted.1.map (·, noted.2)

theorem together_change {α β γ δ : Type} (noted : Except Error α × β) (f : α → γ) (g : β → δ) :
    together (noted.1.map f, g noted.2) = (together noted).map fun both => (f both.1, g both.2) := by
  unfold together
  cases noted.1 <;> rfl

section

variable {c : Comparison}

theorem together_alike {α β γ δ : Type} {noted other : Except Error α × β}
    (agree : c.Agree Eq (together noted) (together other)) (f : α → γ) (g : β → δ) :
    c.Agree Eq (together (noted.1.map f, g noted.2)) (together (other.1.map f, g other.2)) := by
  rw [together_change, together_change]
  exact agree_map agree fun a b same => by rw [same]

theorem find_related {elements : Value → Value → Prop} {xs ys : List Value} {test : Value → Bool}
    (related : List.Forall₂ elements xs ys) (same : ∀ x y, elements x y → test x = test y) :
    Option.Rel elements (xs.find? test) (ys.find? test) := by
  induction related with
  | nil => exact .none
  | @cons x y _ _ first _ ih =>
      rw [List.find?_cons, List.find?_cons, same x y first]
      cases test y with
      | true => exact .some first
      | false => exact ih

end

namespace Simulation

variable {c : Comparison} {matching : Role → Value → Value → Prop} {settings later : Settings}
  {document changed : Value} {role : Role} (sim : Simulation c matching settings later document changed)
include sim

section parameters

open Parameter

theorem first_named_alike {v w : Value} (matched : matching .namedExamples v w) :
    c.Agree Eq (firstNamed settings document v) (firstNamed later changed w) := by
  cases sim.shaped _ _ _ rfl matched with
  | emptied empty => cases empty
  | list each => exact .ok rfl
  | plain unmapped _ =>
      cases v with
      | map entries => exact absurd rfl (unmapped entries)
      | _ => exact .ok rfl
  | map each =>
      cases each with
      | nil => exact .ok rfl
      | @cons e f _ _ first _ =>
          apply agree_bind (sim.resolved .namedExample (by decide) e.2 f.2 first.2)
          intro a b both
          cases both.2 with
          | map each => exact .ok (sim.found_same each "value" rfl)
          | list each => exact .ok rfl
          | plain _ _ => exact agree_same _
          | emptied empty => cases empty

theorem schema_example_alike {entries others : Entries}
    (matched : MatchedEntries matching .parameter entries others) :
    c.Agree Eq (schemaExample settings document entries) (schemaExample later changed others) := by
  apply agree_bind (sim.resolved .schema (by decide) _ _ (sim.read_alike matched "schema"))
  intro a b both
  cases both.2 with
  | map each => exact .ok (sim.found_same each "example" rfl)
  | list each => exact .ok rfl
  | plain _ _ => exact agree_same _
  | emptied empty => cases empty

-- A header is described as a parameter is.
theorem example_alike {entries others : Entries} (describes : role = .parameter ∨ role = .header)
    (matched : MatchedEntries matching role entries others) :
    c.Agree Eq (exampleOf settings document entries) (exampleOf later changed others) := by
  have parameter : MatchedEntries matching .parameter entries others := by
    rcases describes with rfl | rfl <;> exact matched
  have named := sim.first_named_alike (sim.read_alike parameter "examples")
  unfold exampleOf
  rw [sim.found_same parameter "example" rfl]
  cases others.get? "example" with
  | some declared => exact .ok rfl
  | none =>
      apply agree_bind named
      intro first _ same
      subst same
      cases first with
      | some declared => exact .ok rfl
      | none => exact sim.schema_example_alike parameter

theorem placeholder_same : later.headerPlaceholder = settings.headerPlaceholder := by
  rw [sim.sameSettings]

theorem text_alike (declared : Option Value) :
    c.Agree Eq (textOrPlaceholder settings declared) (textOrPlaceholder later declared) := by
  unfold textOrPlaceholder
  rw [sim.placeholder_same]
  exact agree_same _

theorem identity_same {entries others : Entries} (matched : MatchedEntries matching .parameter entries others) :
    identityOf entries = identityOf others := by
  unfold identityOf
  rw [sim.read_same matched "name" rfl, sim.read_same matched "in" rfl]

theorem override_alike {merged mergedOthers : List Entries} {param other : Entries}
    (before : List.Forall₂ (MatchedParameter matching) merged mergedOthers)
    (matched : MatchedParameter matching param other) :
    List.Forall₂ (MatchedParameter matching) (override merged param) (override mergedOthers other) := by
  induction before with
  | nil => exact .cons matched .nil
  | @cons p q rest restOthers first more ih =>
      unfold override
      rw [sim.identity_same first.2, sim.identity_same matched.2]
      by_cases same : (identityOf q).same (identityOf other) = true
      · rw [if_pos same, if_pos same]
        exact .cons matched more
      · rw [if_neg same, if_neg same]
        exact .cons first ih

theorem merge_into_alike {raws rawOthers : List Value} {merged mergedOthers : List Entries}
    (matched : List.Forall₂ (matching .parameter) raws rawOthers)
    (before : List.Forall₂ (MatchedParameter matching) merged mergedOthers) :
    c.Agree (List.Forall₂ (MatchedParameter matching)) (mergeInto settings document merged raws)
      (mergeInto later changed mergedOthers rawOthers) := by
  induction matched generalizing merged mergedOthers with
  | nil => exact .ok before
  | cons first _ ih =>
      apply agree_bind (sim.resolved .parameter (by decide) _ _ first)
      intro a b both
      obtain ⟨same, shape⟩ := both
      cases shape with
      | @map param other each =>
          simp only [sim.identity_same each]
          by_cases keyed : (identityOf other).name.isKey && (identityOf other).place.isKey
          · simp only [keyed, if_true]
            exact ih (sim.override_alike before ⟨same, each⟩)
          · simp only [keyed]
            exact .failed (c.alike_refl _)
      | list each => exact ih before
      | emptied empty => cases empty
      | plain unmapped _ =>
          cases a with
          | map entries => exact absurd rfl (unmapped entries)
          | _ => exact ih before

theorem merge_alike {ofPath pathOthers ofOperation operationOthers : List Value}
    (path : List.Forall₂ (matching .parameter) ofPath pathOthers)
    (operation : List.Forall₂ (matching .parameter) ofOperation operationOthers) :
    c.Agree (List.Forall₂ (MatchedParameter matching)) (merge settings document ofPath ofOperation)
      (merge later changed pathOthers operationOthers) :=
  sim.merge_into_alike (List.rel_append path operation) .nil

theorem required_headers_alike {raws rawOthers : List Value} (headers : Headers)
    (matched : List.Forall₂ (matching .parameter) raws rawOthers) :
    c.Agree Eq (requiredHeaders settings document headers raws)
      (requiredHeaders later changed headers rawOthers) := by
  induction matched generalizing headers with
  | nil => exact .ok rfl
  | cons first _ ih =>
      apply agree_bind (sim.resolved .parameter (by decide) _ _ first)
      intro a b both
      cases both.2 with
      | @map param other each =>
          have header : isHeader param = isHeader other := by
            unfold isHeader
            rw [sim.read_same each "in" rfl, sim.read_same each "required" rfl]
          have nameless := sim.nameless param other each
          simp only [header, sim.read_same each "name" rfl]
          by_cases asked : isHeader other = true
          · simp only [asked, if_true]
            cases Entries.get other "name" with
            | str name =>
                by_cases blank : name = ""
                · simp only [blank, if_true]
                  exact .failed nameless
                · simp only [blank, if_false]
                  apply agree_bind (sim.example_alike (.inl rfl) each)
                  intro declared _ same
                  subst same
                  apply agree_bind (sim.text_alike declared)
                  intro text _ same
                  subst same
                  exact ih (putHeader headers name text)
            | _ => exact .failed nameless
          · simp only [asked]
            exact ih headers
      | list each => exact ih headers
      | emptied empty => cases empty
      | plain unmapped _ =>
          cases a with
          | map entries => exact absurd rfl (unmapped entries)
          | _ => exact ih headers

end parameters

section templates

open PathTemplate

theorem filling_alike {param other : Entries} (matched : MatchedEntries matching .parameter param other)
    (name : List Char) :
    c.Agree Eq (filling settings document param name) (filling later changed other name) := by
  have stem : later.parameterPlaceholderStem = settings.parameterPlaceholderStem := by rw [sim.sameSettings]
  apply agree_bind (sim.example_alike (.inl rfl) matched)
  intro declared _ same
  subst same
  rw [stem, sim.read_same matched "required" rfl]
  exact agree_same _

theorem named_same (name : String) (v w : Value) (shape : SameShape matching .parameter v w) :
    isNamed name v = isNamed name w := by
  cases shape with
  | map each => simp only [isNamed, sim.found_same each "name" rfl]
  | list _ => rfl
  | plain _ _ => rfl
  | emptied empty => cases empty

theorem in_path_same (v w : Value) (shape : SameShape matching .parameter v w) : isInPath v = isInPath w := by
  cases shape with
  | map each => simp only [isInPath, sim.found_same each "in" rfl]
  | list _ => rfl
  | plain _ _ => rfl
  | emptied empty => cases empty

theorem find_alike {parameters others : List Value}
    (matched : List.Forall₂ (SameShape matching .parameter) parameters others) (name : String) :
    Option.Rel (SameShape matching .parameter) (find parameters name) (find others name) := by
  have ofName := List.rel_filter (p := isNamed name) (q := isNamed name)
    (fun v w shape => Iff.of_eq (congrArg (· = true) (sim.named_same name v w shape))) matched
  have inPath := find_related ofName sim.in_path_same
  unfold find
  generalize (parameters.filter (isNamed name)).find? isInPath = first,
    (others.filter (isNamed name)).find? isInPath = second at inPath
  cases inPath with
  | some shape => exact .some shape
  | none => exact find_related matched (sim.named_same name)

theorem fill_pieces_alike {parameters others : List Value}
    (matched : List.Forall₂ (SameShape matching .parameter) parameters others) (path : String)
    (pieces : List Piece) :
    c.Agree Eq (together (fillPieces settings document path parameters pieces))
      (together (fillPieces later changed path others pieces)) := by
  induction pieces with
  | nil => exact .ok rfl
  | cons piece rest ih =>
      cases piece with
      | literal ch =>
          exact together_alike ih (ch :: ·) id
      | placeholder name =>
          have found := sim.find_alike matched (String.ofList name)
          simp only [fillPieces]
          generalize find parameters (String.ofList name) = first, find others (String.ofList name) = second at found
          have unfilled :=
            together_alike ih ((Piece.placeholder name).text ++ ·) (⟨path, String.ofList name⟩ :: ·)
          cases found with
          | none => exact unfilled
          | @some v w shape =>
              cases shape with
              | @map param other each =>
                  have filled := sim.filling_alike each name
                  dsimp only
                  generalize filling settings document param name = first, filling later changed other name = second
                    at filled
                  cases filled with
                  | @ok form _ same =>
                      subst same
                      exact together_alike ih (form ++ ·) id
                  | failed alike => exact .failed alike
                  | excused excused => exact .excused excused
              | list _ => exact unfilled
              | emptied empty => cases empty
              | plain unmapped _ =>
                  cases v with
                  | map entries => exact absurd rfl (unmapped entries)
                  | _ => exact unfilled

theorem fill_alike {parameters others : List Value} (matched : List.Forall₂ (matching .parameter) parameters others)
    (path : String) :
    c.Agree Eq (together (fill settings document path parameters)) (together (fill later changed path others)) := by
  have resolved := agree_map_all matched (sim.resolved .parameter (by decide))
  unfold fill
  generalize parameters.mapM (Value.resolved document settings.maxReferenceDepth) = first,
    others.mapM (Value.resolved changed later.maxReferenceDepth) = second at resolved
  cases resolved with
  | ok related =>
      have shapes := related.imp fun _ _ both => both.2
      exact together_alike (sim.fill_pieces_alike shapes path (pieces path)) String.ofList id
  | failed alike => exact .failed alike
  | excused excused => exact .excused excused

end templates

section headers

open Response Parameter

omit sim in
theorem header_example_empty (settings : Settings) (document : Value) :
    headerExample settings document (.map []) = .ok none :=
  rfl

theorem header_example_alike {v w : Value} (shape : SameShape matching .header v w) :
    c.Agree Eq (headerExample settings document v) (headerExample later changed w) := by
  cases shape with
  | map each => exact sim.example_alike (.inr rfl) each
  | list _ => exact .ok rfl
  | emptied empty =>
      cases empty
      rw [header_example_empty]
      exact .ok rfl
  | plain unmapped _ =>
      cases v with
      | map entries => exact absurd rfl (unmapped entries)
      | _ => exact .ok rfl

theorem add_headers_alike {entries others : Entries} (headers : Headers)
    (matched : MatchedEntries matching .headers entries others) :
    c.Agree Eq (addHeaders settings document headers entries) (addHeaders later changed headers others) := by
  induction matched generalizing headers with
  | nil => exact .ok rfl
  | @cons e f _ _ first _ ih =>
      obtain ⟨name, raw⟩ := e
      obtain ⟨other, rawOther⟩ := f
      obtain ⟨rfl, matched⟩ := first
      apply agree_bind (sim.resolved .header (by decide) raw rawOther matched)
      intro header _ both
      apply agree_bind (sim.header_example_alike both.2)
      intro declared _ same
      subst same
      apply agree_bind (sim.text_alike declared)
      intro text _ same
      subst same
      exact ih (putHeader headers name.display text)

theorem headers_alike {response other : Entries} {location otherLocation : String}
    (near : c.near location otherLocation) (matched : MatchedEntries matching .response response other) :
    c.Agree Eq (headersOf settings document location response) (headersOf later changed otherLocation other) := by
  have shape := sim.shaped .headers _ _ rfl (sim.read_alike matched "headers")
  apply agree_bind (object_alike rfl shape (c.near_extend _ _ "headers" near))
  intro declared others each
  exact sim.add_headers_alike [] each

end headers

end Simulation

end ApiStubs
