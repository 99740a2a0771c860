import ApiStubs.Proofs.Merge
import ApiStubs.Proofs.PathTemplate.Cut

/- Filling path templates. What stands for a placeholder is decided by its name, the filled text is never cut again,
   and the placeholders without a parameter are reported in the order they stand in. -/

set_option autoImplicit false

namespace ApiStubs.PathTemplate

open Parameter (mappings Resolves)

def Named (name : List Char) (param : Entries) : Prop :=
  param.get? "name" = some (.str (String.ofList name))

def InPath (param : Entries) : Prop :=
  param.get? "in" = some (.str "path")

def First (holds : Entries → Prop) (params : List Entries) (param : Entries) : Prop :=
  ∃ before after, params = before ++ param :: after ∧ holds param ∧ ∀ other ∈ before, ¬ holds other

-- The first of the name that stands in the path, or else the first of the name.
inductive Chosen (params : List Entries) (name : List Char) (param : Entries) : Prop where
  | inPath (first : First (fun p => Named name p ∧ InPath p) params param)
  | elsewhere (absent : ∀ p ∈ params, ¬ (Named name p ∧ InPath p)) (first : First (Named name) params param)

-- Where no example is declared, or null is.
def Exampleless (settings : Settings) (document : Value) (param : Entries) : Prop :=
  Parameter.exampleOf settings document param = .ok none ∨
    Parameter.exampleOf settings document param = .ok (some .null)

-- What may stand for a placeholder: an example, a sample for what is required, or the placeholder itself.
inductive Replaces (settings : Settings) (document : Value) (params : List Entries) (name : List Char) :
    List Char → Prop where
  | declared {param : Entries} {v : Value} {text : String} (chosen : Chosen params name param)
      (found : Parameter.exampleOf settings document param = .ok (some v)) (given : v ≠ .null)
      (written : Parameter.exampleText v = .ok text) : Replaces settings document params name text.toList
  | required {param : Entries} (chosen : Chosen params name param) (lacks : Exampleless settings document param)
      (required : (param.get "required").isTrue = true) :
      Replaces settings document params name (settings.parameterPlaceholderStem.toList ++ name)
  | optional {param : Entries} (chosen : Chosen params name param) (lacks : Exampleless settings document param)
      (optional : (param.get "required").isTrue = false) : Replaces settings document params name (token name)
  | unknown (unknown : ∀ p ∈ params, ¬ Named name p) : Replaces settings document params name (token name)

section

variable {test : Value → Bool} {holds : Entries → Prop} (only : ∀ node, test node = true → ∃ param, node = .map param)
  (tested : ∀ p, test (.map p) = true ↔ holds p)

include only

theorem find_mapping (nodes : List Value) :
    nodes.find? test = ((mappings nodes).find? fun p => test (.map p)).map .map := by
  induction nodes with
  | nil => rfl
  | cons node nodes ih =>
      by_cases met : test node = true
      · obtain ⟨param, rfl⟩ := only node met
        rw [Parameter.mappings_cons, List.find?_cons_of_pos met,
          List.find?_cons_of_pos (p := fun p => test (.map p)) met]
        rfl
      · rw [List.find?_cons_of_neg met, ih]
        cases node with
        | map param =>
            rw [Parameter.mappings_cons, List.find?_cons_of_neg (p := fun p => test (.map p)) met]
        | _ => rfl

include tested

theorem first_found (nodes : List Value) (node : Value) :
    nodes.find? test = some node ↔ ∃ param, First holds (mappings nodes) param ∧ .map param = node := by
  have passed (p : Entries) : (!test (.map p)) = true ↔ ¬ holds p := by
    rw [← tested p, Bool.not_eq_true', Bool.not_eq_true]
  simp only [find_mapping only, Option.map_eq_some_iff, List.find?_eq_some_iff_append, tested, passed, First]
  constructor
  · intro ⟨param, ⟨held, before, after, whole, others⟩, same⟩
    exact ⟨param, ⟨before, after, whole, held, others⟩, same⟩
  · intro ⟨param, ⟨before, after, whole, held, others⟩, same⟩
    exact ⟨param, ⟨held, before, after, whole, others⟩, same⟩

theorem none_found (nodes : List Value) : nodes.find? test = none ↔ ∀ p ∈ mappings nodes, ¬ holds p := by
  simp only [find_mapping only, Option.map_eq_none_iff, List.find?_eq_none, tested]

end

theorem is_named (name : List Char) (param : Entries) :
    isNamed (String.ofList name) (.map param) = true ↔ Named name param := by
  simp [isNamed, Named]

theorem is_in_path (param : Entries) : isInPath (.map param) = true ↔ InPath param := by
  simp [isInPath, InPath]

theorem named_mapping {name : String} (node : Value) (named : isNamed name node = true) :
    ∃ param, node = .map param := by
  cases node with
  | map param => exact ⟨param, rfl⟩
  | _ => cases named

theorem preferred_mapping {name : String} (node : Value) (preferred : (isNamed name node && isInPath node) = true) :
    ∃ param, node = .map param :=
  named_mapping node (Bool.and_eq_true_iff.mp preferred).1

theorem find_preferred (nodes : List Value) (name : String) :
    find nodes name = (nodes.find? fun node => isNamed name node && isInPath node).or (nodes.find? (isNamed name)) := by
  simp only [find, List.find?_filter, Bool.decide_and, Bool.decide_eq_true]
  cases nodes.find? (fun node => isNamed name node && isInPath node) <;> rfl

section

variable (nodes : List Value) (name : List Char)

theorem named_in_path (param : Entries) :
    (isNamed (String.ofList name) (.map param) && isInPath (.map param)) = true ↔ Named name param ∧ InPath param := by
  rw [Bool.and_eq_true, is_named, is_in_path]

theorem find_chosen (node : Value) :
    find nodes (String.ofList name) = some node ↔
      ∃ param, Chosen (mappings nodes) name param ∧ .map param = node := by
  rw [find_preferred, Option.or_eq_some_iff, first_found preferred_mapping (named_in_path name),
    none_found preferred_mapping (named_in_path name), first_found named_mapping (is_named name)]
  constructor
  · rintro (⟨param, first, same⟩ | ⟨absent, param, first, same⟩)
    · exact ⟨param, .inPath first, same⟩
    · exact ⟨param, .elsewhere absent first, same⟩
  · rintro ⟨param, first | ⟨absent, first⟩, same⟩
    · exact .inl ⟨param, first, same⟩
    · exact .inr ⟨absent, param, first, same⟩

theorem find_none : find nodes (String.ofList name) = none ↔ ∀ p ∈ mappings nodes, ¬ Named name p := by
  rw [find_preferred, Option.or_eq_none_iff, none_found preferred_mapping (named_in_path name),
    none_found named_mapping (is_named name)]
  exact and_iff_right_of_imp fun unnamed p member both => unnamed p member both.1

end

section

variable {settings : Settings} {document : Value} {param : Entries} {name : List Char}

theorem filling_declared {v : Value} (found : Parameter.exampleOf settings document param = .ok (some v))
    (given : v ≠ .null) : filling settings document param name = (Parameter.exampleText v).map String.toList := by
  cases v with
  | null => exact absurd rfl given
  | _ =>
      simp only [filling, found, bind, Except.bind, pure, Except.pure]
      rfl

theorem filling_lacking (lacks : Exampleless settings document param) :
    filling settings document param name = .ok
      (if (param.get "required").isTrue then settings.parameterPlaceholderStem.toList ++ name else token name) := by
  rcases lacks with found | found <;>
    · simp only [filling, found, bind, Except.bind, pure, Except.pure]
      split <;> rfl

def formOf (settings : Settings) (document : Value) (nodes : List Value) (name : List Char) :
    Except Error (List Char) :=
  match find nodes (String.ofList name) with
  | some (.map param) => filling settings document param name
  | _ => .ok (token name)

theorem form_of_chosen {nodes : List Value} (chosen : Chosen (mappings nodes) name param) :
    formOf settings document nodes name = filling settings document param name := by
  rw [formOf, (find_chosen nodes name (.map param)).mpr ⟨param, chosen, rfl⟩]

theorem form_of_unknown {nodes : List Value} (unknown : ∀ p ∈ mappings nodes, ¬ Named name p) :
    formOf settings document nodes name = .ok (token name) := by
  rw [formOf, (find_none nodes name).mpr unknown]

theorem replaces_of_filling {params : List Entries} {form : List Char} (chosen : Chosen params name param)
    (filled : filling settings document param name = .ok form) : Replaces settings document params name form := by
  have lacking (lacks : Exampleless settings document param) : Replaces settings document params name form := by
    rw [filling_lacking lacks] at filled
    by_cases required : (param.get "required").isTrue = true
    · rw [if_pos required] at filled
      exact Except.ok.inj filled ▸ .required chosen lacks required
    · rw [if_neg required] at filled
      exact Except.ok.inj filled ▸ .optional chosen lacks (Bool.not_eq_true _ ▸ required)
  cases found : Parameter.exampleOf settings document param with
  | error e =>
      rw [filling, found] at filled
      cases filled
  | ok declared =>
      cases declared with
      | none => exact lacking (.inl found)
      | some v =>
          by_cases null : v = .null
          · exact lacking (.inr (null ▸ found))
          · rw [filling_declared found null] at filled
            cases written : Parameter.exampleText v with
            | error e => simp [written, Except.map] at filled
            | ok text =>
                simp only [written, Except.map, Except.ok.injEq] at filled
                exact filled ▸ .declared chosen found null written

theorem form_of_iff {nodes : List Value} {form : List Char} :
    formOf settings document nodes name = .ok form ↔ Replaces settings document (mappings nodes) name form := by
  constructor
  · intro formed
    cases found : find nodes (String.ofList name) with
    | none =>
        have unknown := (find_none nodes name).mp found
        rw [form_of_unknown unknown] at formed
        exact Except.ok.inj formed ▸ .unknown unknown
    | some node =>
        obtain ⟨param, chosen, -⟩ := (find_chosen nodes name node).mp found
        rw [form_of_chosen chosen] at formed
        exact replaces_of_filling chosen formed
  · intro replaces
    cases replaces with
    | declared chosen found given written =>
        rw [form_of_chosen chosen, filling_declared found given, written]
        rfl
    | required chosen lacks required => rw [form_of_chosen chosen, filling_lacking lacks, if_pos required]
    | optional chosen lacks optional =>
        rw [form_of_chosen chosen, filling_lacking lacks, if_neg (by rw [optional]; exact Bool.false_ne_true)]
    | unknown unknown => exact form_of_unknown unknown

end

def fillPiece (form : List Char → List Char) : Piece → List Char
  | .literal c => [c]
  | .placeholder name => form name

instance (name : List Char) (param : Entries) : Decidable (Named name param) :=
  inferInstanceAs (Decidable (_ = _))

-- What is reported of one piece.
def unresolved (path : String) (params : List Entries) : Piece → Option Unresolved
  | .literal _ => none
  | .placeholder name => if ∀ p ∈ params, ¬ Named name p then some ⟨path, String.ofList name⟩ else none

def pieceForm (settings : Settings) (document : Value) (nodes : List Value) : Piece → Except Error (List Char)
  | .literal c => .ok [c]
  | .placeholder name => formOf settings document nodes name

section

variable {settings : Settings} {document : Value} {path : String} {nodes : List Value}

theorem fill_cons (piece : Piece) (rest : List Piece) :
    fillPieces settings document path nodes (piece :: rest) =
      match pieceForm settings document nodes piece with
      | .error e => (.error e, [])
      | .ok form =>
          ((fillPieces settings document path nodes rest).1.map (form ++ ·),
            (unresolved path (mappings nodes) piece).toList ++ (fillPieces settings document path nodes rest).2) := by
  cases piece with
  | literal c => rfl
  | placeholder name =>
      cases found : find nodes (String.ofList name) with
      | none =>
          have unknown := (find_none nodes name).mp found
          rw [pieceForm, form_of_unknown unknown, unresolved, if_pos unknown, fillPieces, found]
          rfl
      | some node =>
          obtain ⟨param, chosen, rfl⟩ := (find_chosen nodes name node).mp found
          have known : ¬ ∀ p ∈ mappings nodes, ¬ Named name p := by
            intro unknown
            rw [(find_none nodes name).mpr unknown] at found
            cases found
          rw [pieceForm, form_of_chosen chosen, unresolved, if_neg known, fillPieces, found]
          dsimp only
          cases filling settings document param name <;> rfl

theorem fill_pieces_formed {text : List Char} (pieces : List Piece)
    (done : (fillPieces settings document path nodes pieces).1 = .ok text) :
    ∀ piece ∈ pieces, ∃ form, pieceForm settings document nodes piece = .ok form := by
  induction pieces generalizing text with
  | nil => simp
  | cons piece rest ih =>
      rw [fill_cons] at done
      cases formed : pieceForm settings document nodes piece with
      | error e =>
          rw [formed] at done
          cases done
      | ok form =>
          rw [formed] at done
          cases ended : (fillPieces settings document path nodes rest).1 with
          | error e =>
              simp only [ended] at done
              cases done
          | ok later => exact List.forall_mem_cons.mpr ⟨⟨form, formed⟩, ih ended⟩

theorem fill_pieces_by (form : List Char → List Char) (pieces : List Piece)
    (formed : ∀ name, .placeholder name ∈ pieces → formOf settings document nodes name = .ok (form name)) :
    fillPieces settings document path nodes pieces =
      (.ok (pieces.flatMap (fillPiece form)), pieces.filterMap (unresolved path (mappings nodes))) := by
  induction pieces with
  | nil => rfl
  | cons piece rest ih =>
      have here : pieceForm settings document nodes piece = .ok (fillPiece form piece) := by
        cases piece with
        | literal c => rfl
        | placeholder name => exact formed name List.mem_cons_self
      rw [fill_cons, here, ih fun name member => formed name (List.mem_cons_of_mem piece member)]
      cases one : unresolved path (mappings nodes) piece with
      | none => simp [Except.map, one]
      | some report => simp [Except.map, one]

theorem fill_pieces_iff {text : List Char} {reported : List Unresolved} (pieces : List Piece) :
    fillPieces settings document path nodes pieces = (.ok text, reported) ↔
      ∃ form : List Char → List Char,
        (∀ name, .placeholder name ∈ pieces → Replaces settings document (mappings nodes) name (form name)) ∧
          text = pieces.flatMap (fillPiece form) ∧ reported = pieces.filterMap (unresolved path (mappings nodes)) := by
  constructor
  · intro done
    have formed (name : List Char) (member : .placeholder name ∈ pieces) :
        ∃ form, formOf settings document nodes name = .ok form :=
      fill_pieces_formed pieces (congrArg Prod.fst done) (.placeholder name) member
    have each (name : List Char) (member : .placeholder name ∈ pieces) : formOf settings document nodes name =
        .ok ((formOf settings document nodes name).toOption.getD []) := by
      obtain ⟨form, found⟩ := formed name member
      rw [found]
      rfl
    rw [fill_pieces_by _ pieces each] at done
    cases done
    exact ⟨_, fun name member => form_of_iff.mp (each name member), rfl, rfl⟩
  · rintro ⟨form, replaces, rfl, rfl⟩
    exact fill_pieces_by form pieces fun name member => form_of_iff.mpr (replaces name member)

end

theorem resolved_iff {settings : Settings} {document : Value} (parameters nodes : List Value) :
    parameters.mapM (Value.resolved document settings.maxReferenceDepth) = .ok nodes ↔
      List.Forall₂ (Resolves settings document) parameters nodes := by
  induction parameters generalizing nodes with
  | nil =>
      rw [List.forall₂_nil_left_iff, List.mapM_nil]
      simp [pure, Except.pure, eq_comm]
  | cons raw rest ih =>
      rw [List.mapM_cons, List.forall₂_cons_left_iff]
      cases first : Value.resolved document settings.maxReferenceDepth raw with
      | error e => simp [bind, Except.bind, Resolves, first]
      | ok node =>
          simp only [bind, Except.bind, pure, Except.pure, Resolves, first, Except.ok.injEq, ← ih]
          cases rest.mapM (Value.resolved document settings.maxReferenceDepth) with
          | error e => simp
          | ok others => simp [eq_comm]

theorem fill_literal {settings : Settings} {document : Value} {path : String} {nodes : List Value} {c : Char}
    {rest : List Piece} {text : List Char}
    (filled : (fillPieces settings document path nodes (.literal c :: rest)).1 = .ok text) :
    ∃ more, (fillPieces settings document path nodes rest).1 = .ok more ∧ text = c :: more := by
  rw [fill_cons] at filled
  obtain ⟨more, done, rfl⟩ := (except_map_ok ..).mp filled
  exact ⟨more, done, rfl⟩

-- Only where a placeholder follows may a filled path go on with a slash that is not its own.
theorem filled_slash {settings : Settings} {document : Value} {path text : String} {parameters : List Value}
    {rest : List Char} (rooted : path.toList = '/' :: rest)
    (filled : (fill settings document path parameters).1 = .ok text) :
    ∃ more, text.toList = '/' :: more ∧ (more.head? = some '/' → rest.head? = some '/' ∨ rest.head? = some '\x7b') := by
  unfold fill at filled
  split at filled
  · cases filled
  · next nodes =>
    obtain ⟨chars, done, rfl⟩ := (except_map_ok ..).mp filled
    rw [pieces, rooted, piecesFrom, if_neg (by decide)] at done
    obtain ⟨more, later, rfl⟩ := fill_literal done
    refine ⟨more, String.toList_ofList, fun slash => ?_⟩
    cases rest with
    | nil =>
        cases later
        cases slash
    | cons c rest =>
        by_cases brace : c = '\x7b'
        · exact .inr (congrArg some brace)
        · rw [piecesFrom, if_neg brace] at later
          obtain ⟨others, -, rfl⟩ := fill_literal later
          exact .inl slash

-- Filling succeeds just when the parameters resolve and each name in the text has something to stand for it.
theorem fill_replaces_placeholders (settings : Settings) (document : Value) (path url : String)
    (parameters : List Value) (reported : List Unresolved) :
    fill settings document path parameters = (.ok url, reported) ↔
      ∃ (nodes : List Value) (cut : List Piece) (form : List Char → List Char),
        List.Forall₂ (Resolves settings document) parameters nodes ∧ Cut path.toList cut ∧
          (∀ name, .placeholder name ∈ cut → Replaces settings document (mappings nodes) name (form name)) ∧
          url.toList = cut.flatMap (fillPiece form) ∧ reported = cut.filterMap (unresolved path (mappings nodes)) := by
  simp only [← resolved_iff, cut_iff]
  constructor
  · intro done
    cases resolved : parameters.mapM (Value.resolved document settings.maxReferenceDepth) with
    | error e =>
        rw [fill, resolved] at done
        cases done
    | ok nodes =>
        rw [fill, resolved] at done
        obtain ⟨filled, same⟩ := Prod.mk.inj done
        cases text : (fillPieces settings document path nodes (pieces path)).1 with
        | error e =>
            rw [text] at filled
            cases filled
        | ok chars =>
            rw [text] at filled
            have whole : url.toList = chars := by rw [← Except.ok.inj filled, String.toList_ofList]
            obtain ⟨form, replaces, formed, reports⟩ := (fill_pieces_iff (pieces path)).mp (Prod.ext text same)
            exact ⟨nodes, pieces path, form, rfl, rfl, replaces, whole.trans formed, reports⟩
  · rintro ⟨nodes, cut, form, resolved, rfl, replaces, formed, reports⟩
    have done := (fill_pieces_iff (pieces path)).mpr ⟨form, replaces, formed, reports⟩
    rw [fill, resolved]
    simp only [done, Except.map, String.ofList_toList]

-- The first placeholder has a parameter with an example, the second has no parameter at all.
def petPath : String :=
  "/pets/\x7bpet\x7d/notes/\x7bnote\x7d"

def filledPath : String :=
  "/pets/5/notes/\x7bnote\x7d"

def petParameter : Value :=
  .map [(.str "name", .str "pet"), (.str "in", .str "path"), (.str "example", .int 5)]

theorem pet_path_filled :
    fill {} .null petPath [petParameter] = (.ok filledPath, [⟨petPath, "note"⟩]) ∧
      ∃ (nodes : List Value) (cut : List Piece) (form : List Char → List Char),
        List.Forall₂ (Resolves {} .null) [petParameter] nodes ∧ Cut petPath.toList cut ∧
          (∀ name, .placeholder name ∈ cut → Replaces {} .null (mappings nodes) name (form name)) ∧
          filledPath.toList = cut.flatMap (fillPiece form) ∧
          [⟨petPath, "note"⟩] = cut.filterMap (unresolved petPath (mappings nodes)) := by
  have url : (fill {} .null petPath [petParameter]).1.toOption = some filledPath := by decide +kernel
  have reported : (fill {} .null petPath [petParameter]).2 = [⟨petPath, "note"⟩] := by decide +kernel
  have filled : fill {} .null petPath [petParameter] = (.ok filledPath, [⟨petPath, "note"⟩]) :=
    Prod.ext (to_option_some url) reported
  exact ⟨filled, (fill_replaces_placeholders {} .null petPath filledPath [petParameter] _).mp filled⟩

end ApiStubs.PathTemplate
