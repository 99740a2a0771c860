import ApiStubs.Proofs.Compile.Stubs
import ApiStubs.Proofs.StatusText

/- The names of body files. A name is told by the status text it was made for and by how often that text was
   used before, since no status text goes on from another one with a hyphen and a number. The counts only grow,
   so that no name is given out twice, and every name given out goes into one file and one stub. -/

set_option autoImplicit false

namespace ApiStubs.Compile

open ApiStubs.Decimal ApiStubs.Text
open Response (NamesStatus no_status_with_number)

def useForm (use : Nat) : List Char :=
  if use = 1 then [] else '-' :: digits use

theorem file_name_chars (stem : String) (use : Nat) :
    (fileName stem use).toList = stem.toList ++ (useForm use ++ ".json".toList) := by
  by_cases once : use = 1
  · simp [fileName, useForm, once]
  · simp [fileName, useForm, once, natText]

theorem append_last_split {c : Char} {as bs xs ys : List Char} (left : c ∉ xs) (right : c ∉ ys)
    (same : as ++ c :: xs = bs ++ c :: ys) : as = bs ∧ xs = ys := by
  rcases List.append_eq_append_iff.mp same with ⟨between, front, back⟩ | ⟨between, front, back⟩
  · cases between with
    | nil => exact ⟨by simpa using front.symm, (List.cons.inj back).2⟩
    | cons d rest => exact absurd (by simp [(List.cons.inj back).2]) left
  · cases between with
    | nil => exact ⟨by simpa using front, (List.cons.inj back).2.symm⟩
    | cons d rest => exact absurd (by simp [(List.cons.inj back).2]) right

theorem use_form_split (settings : Settings) (s t : String) (m n : Nat) (left : NamesStatus settings s)
    (right : NamesStatus settings t) (same : s.toList ++ useForm m = t.toList ++ useForm n) : s = t ∧ m = n := by
  by_cases first : m = 1
  · by_cases second : n = 1
    · simp only [useForm, first, second, if_true, List.append_nil] at same
      exact ⟨String.toList_inj.mp same, first.trans second.symm⟩
    · simp only [useForm, if_pos first, if_neg second, List.append_nil] at same
      refine absurd left ?_
      rw [← String.ofList_toList (s := s), same]
      exact no_status_with_number settings t n right
  · by_cases second : n = 1
    · simp only [useForm, if_neg first, if_pos second, List.append_nil] at same
      refine absurd right ?_
      rw [← String.ofList_toList (s := t), ← same]
      exact no_status_with_number settings s m left
    · simp only [useForm, if_neg first, if_neg second] at same
      obtain ⟨texts, uses⟩ := append_last_split (hyphen_not_digit m) (hyphen_not_digit n) same
      exact ⟨String.toList_inj.mp texts, digits_injective uses⟩

theorem file_name_injective (scope : Scope) (s t : String) (m n : Nat) (left : NamesStatus scope.settings s)
    (right : NamesStatus scope.settings t) (same : fileName (scope.stem s) m = fileName (scope.stem t) n) :
    s = t ∧ m = n := by
  have chars := congrArg String.toList same
  simp only [file_name_chars, Scope.stem, stemOf, String.toList_append, List.append_assoc,
    List.append_cancel_left_eq] at chars
  rw [← List.append_assoc, ← List.append_assoc, List.append_cancel_right_eq] at chars
  exact use_form_split scope.settings s t m n left right chars

theorem uses_of_count_self (uses : List (String × Nat)) (stem : String) :
    usesOf (countUse uses stem) stem = usesOf uses stem + 1 := by
  induction uses with
  | nil => simp [countUse, usesOf]
  | cons entry rest ih =>
      obtain ⟨s, n⟩ := entry
      by_cases same : s = stem
      · simp [countUse, usesOf, same]
      · have differ : (stem == s) = false := beq_eq_false_iff_ne.mpr (Ne.symm same)
        simpa [countUse, usesOf, same, List.lookup_cons, differ] using ih

theorem uses_of_count_other (uses : List (String × Nat)) (stem other : String) (different : other ≠ stem) :
    usesOf (countUse uses stem) other = usesOf uses other := by
  induction uses with
  | nil =>
      have differ : (other == stem) = false := beq_eq_false_iff_ne.mpr different
      simp [countUse, usesOf, List.lookup_cons, differ]
  | cons entry rest ih =>
      obtain ⟨s, n⟩ := entry
      by_cases same : s = stem
      · have differ : (other == stem) = false := beq_eq_false_iff_ne.mpr different
        simp [countUse, usesOf, same, List.lookup_cons, differ]
      · simp only [countUse, usesOf, if_neg same, List.lookup_cons] at ih ⊢
        split
        · rfl
        · exact ih

theorem uses_of_count_le (uses : List (String × Nat)) (stem other : String) :
    usesOf uses other ≤ usesOf (countUse uses stem) other := by
  by_cases same : other = stem
  · subst same
    rw [uses_of_count_self]
    exact Nat.le_succ _
  · exact Nat.le_of_eq (uses_of_count_other uses stem other same).symm

-- What has been filed stays where it is.
theorem compile_response_files {scope : Scope} {operation : Operation} {key raw : Value} {p q : Progress}
    (ran : Ran (compileResponse scope operation key raw) p () q) : p.files <+: q.files := by
  obtain ⟨status, node, response, headers, body, generator, answer, middle, -, -, -, -, -, defined, rfl⟩ :=
    (ran_compile_response ..).mp ran
  by_cases null : body = .null
  · subst null
    obtain ⟨-, rfl⟩ := (ran_definition_null ..).mp defined
    exact List.prefix_rfl
  · obtain ⟨file, -, -, rfl⟩ := (ran_definition_body _ _ _ _ _ _ _ _ null).mp defined
    exact List.prefix_append _ _

theorem visits_files {scope : Scope} {slots : List Slot} {found : List Unresolved} {p q : Progress}
    (visited : Visits scope slots found p q) : p.files <+: q.files := by
  induction visited with
  | done => exact List.prefix_rfl
  | report _ ih => exact ih
  | answer _ first _ ih => exact (compile_response_files first).trans ih

def fileNames (p : Progress) : List String :=
  p.files.map BodyFile.name

def namedFiles (stubs : List Stub) : List String :=
  stubs.filterMap fun stub => stub.response.bodyFileName

-- The invariant of a compilation: every name was made for a status text and a use that has been counted.
structure Named (scope : Scope) (p : Progress) : Prop where
  counted : ∀ name ∈ fileNames p, ∃ text use, NamesStatus scope.settings text ∧
    use ≤ usesOf p.uses (scope.stem text) ∧ name = fileName (scope.stem text) use
  distinct : (fileNames p).Nodup
  paired : namedFiles p.stubs = fileNames p

theorem next_name_fresh (scope : Scope) (p : Progress) (text : String) (named : Named scope p)
    (status : NamesStatus scope.settings text) : scope.nextName p text ∉ fileNames p := by
  intro taken
  obtain ⟨other, use, otherStatus, within, same⟩ := named.counted _ taken
  obtain ⟨rfl, rfl⟩ := file_name_injective scope _ _ _ _ status otherStatus same
  omega

theorem body_file_name {name : String} {body : Value} {file : BodyFile}
    (written : BodyFile.ofValue name body = .ok file) : file.name = name := by
  unfold BodyFile.ofValue at written
  split at written
  · cases written
    rfl
  · cases written

theorem filed_named (scope : Scope) (p : Progress) (text : String) (file : BodyFile)
    (request : RequestMatcher) (status : Int) (headers : Option Parameter.Headers) (generator : Generator)
    (named : Named scope p) (known : NamesStatus scope.settings text)
    (fileName : file.name = scope.nextName p text) :
    Named scope ((({ p with generator := generator }).filed (scope.stem text) file).stubbed request
      ⟨status, headers, some (scope.nextName p text)⟩) := by
  have names : fileNames ((({ p with generator := generator }).filed (scope.stem text) file).stubbed request
      ⟨status, headers, some (scope.nextName p text)⟩) = fileNames p ++ [scope.nextName p text] := by
    simp [fileNames, Progress.stubbed, Progress.filed, fileName]
  constructor
  · intro name member
    rw [names] at member
    rcases List.mem_append.mp member with earlier | latest
    · obtain ⟨other, use, otherStatus, within, rfl⟩ := named.counted name earlier
      exact ⟨other, use, otherStatus, Nat.le_trans within (uses_of_count_le _ _ _), rfl⟩
    · rw [List.mem_singleton] at latest
      exact ⟨text, _, known, Nat.le_of_eq (uses_of_count_self _ _).symm, latest⟩
  · rw [names]
    refine List.nodup_append.mpr ⟨named.distinct, by simp, ?_⟩
    rintro name member _ (_ | ⟨_, ⟨⟩⟩) rfl
    exact next_name_fresh scope p text named known member
  · rw [names, ← named.paired]
    simp [namedFiles, Progress.stubbed, Progress.filed]

theorem compile_response_named (scope : Scope) (operation : Operation) (key raw : Value) (p q : Progress)
    (named : Named scope p) (ran : Ran (compileResponse scope operation key raw) p () q) : Named scope q := by
  obtain ⟨status, node, response, headers, body, generator, answer, middle, known, resolved, shaped, declared,
    drawn, defined, rfl⟩ := (ran_compile_response ..).mp ran
  by_cases null : body = .null
  · subst null
    obtain ⟨rfl, rfl⟩ := (ran_definition_null ..).mp defined
    exact ⟨named.counted, named.distinct, by simpa [namedFiles, Progress.stubbed, fileNames] using named.paired⟩
  · obtain ⟨file, written, rfl, rfl⟩ := (ran_definition_body _ _ _ _ _ _ _ _ null).mp defined
    exact filed_named scope p key.display file _ _ _ generator named ⟨status, known⟩ (body_file_name written)

theorem visits_named (scope : Scope) (slots : List Slot) (found : List Unresolved) (p q : Progress)
    (visited : Visits scope slots found p q) (named : Named scope p) : Named scope q := by
  induction visited with
  | done => exact named
  | report _ ih => exact ih ⟨named.counted, named.distinct, named.paired⟩
  | answer _ first _ ih => exact ih (compile_response_named _ _ _ _ _ _ named first)

theorem compile_files_named_once (generator : Generator) (issued : Nat) (settings : Settings) (specName : String)
    (document : Entries) (c : Compilation)
    (success : (compileFrom generator issued settings specName document).outcome = .ok c) :
    (c.files.map BodyFile.name).Nodup ∧
      (c.stubs.filterMap fun stub => stub.response.bodyFileName) = c.files.map BodyFile.name ∧
      ∃ base bodies last, basePath document = .ok base ∧
        (slots settings document).mapM (Slot.body ⟨settings, .map document, specName, base⟩) generator =
          .ok (bodies, last) ∧
        List.Forall₂ (fun body stub => stub.response.bodyFileName.isSome = true ↔ body ≠ .null)
          bodies c.stubs := by
  obtain ⟨base, p, based, visited, rfl⟩ := compile_from_visits _ _ _ _ _ _ success
  have start : Named ⟨settings, .map document, specName, base⟩ (Progress.start generator issued) :=
    ⟨fun _ member => absurd member List.not_mem_nil, List.nodup_nil, rfl⟩
  have named := visits_named _ _ _ _ _ visited start
  obtain ⟨-, bodies, stubs, drawn, added, paired, described⟩ := visits_describe _ _ _ _ _ visited
  have all : p.stubs = stubs := by simpa [Progress.start] using added
  refine ⟨named.distinct, named.paired, base, bodies, p.generator, based, drawn, ?_⟩
  have filed : List.Forall₂ (fun pair stub => stub.response.bodyFileName.isSome = true ↔ pair.2 ≠ Value.null)
      ((slots settings document).zip bodies) stubs := described.imp fun _ _ description => description.file
  rw [Progress.result, all, ← List.map_snd_zip (Nat.le_of_eq paired)]
  exact List.forall₂_map_left_iff.mpr filed

theorem shop_files_named_once :
    compile {} "shop" shop = .ok shopStubs ∧
      (shopStubs.files.map BodyFile.name).Nodup ∧
      (shopStubs.stubs.filterMap fun stub => stub.response.bodyFileName) = shopStubs.files.map BodyFile.name ∧
      ∃ base bodies last, basePath shop = .ok base ∧
        (slots {} shop).mapM (Slot.body ⟨{}, .map shop, "shop", base⟩) (Generator.start {}) =
          .ok (bodies, last) ∧
        List.Forall₂ (fun body stub => stub.response.bodyFileName.isSome = true ↔ body ≠ .null)
          bodies shopStubs.stubs :=
  ⟨shop_compiles, compile_files_named_once (Generator.start {}) 0 {} "shop" shop shopStubs shop_compiles⟩

end ApiStubs.Compile
