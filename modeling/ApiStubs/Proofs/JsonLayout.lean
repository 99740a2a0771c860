import ApiStubs.Proofs.JsonRoundTrip

/- Where the characters of a written value stand. A scan of a text counts the containers that are open and tells
   whether a text literal is; a rule says which character may stand at a spot and before what. A layout that keeps a
   rule in its signs, its gaps and its literals keeps it in every value it writes. -/

set_option autoImplicit false

namespace ApiStubs.Json

open ApiStubs.Decimal ApiStubs.Text

inductive Quoting where
  | outside
  | inside
  | escaped
deriving DecidableEq

structure Spot where
  depth : Nat
  quoting : Quoting
deriving DecidableEq

def Spot.next (spot : Spot) (c : Char) : Spot :=
  match spot.quoting with
  | .outside =>
      if c = '"' then ⟨spot.depth, .inside⟩
      else if c = '[' ∨ c = '\x7b' then ⟨spot.depth + 1, .outside⟩
      else if c = ']' ∨ c = '\x7d' then ⟨spot.depth - 1, .outside⟩
      else spot
  | .inside => ⟨spot.depth, if c = '"' then .outside else if c = '\\' then .escaped else .inside⟩
  | .escaped => ⟨spot.depth, .inside⟩

def spotAfter (before : List Char) : Spot :=
  before.foldl Spot.next ⟨0, .outside⟩

-- What may stand at a spot and before the rest of the text.
abbrev Rule := Spot → Char → List Char → Prop

-- From spot to spot along characters that keep the rule, with a tail after them.
inductive Scans (rule : Rule) (tail : List Char) : Spot → List Char → Spot → Prop where
  | nil (spot : Spot) : Scans rule tail spot [] spot
  | cons {spot last : Spot} {c : Char} {rest : List Char} (here : rule spot c (rest ++ tail))
      (later : Scans rule tail (spot.next c) rest last) : Scans rule tail spot (c :: rest) last

theorem scans_append {rule : Rule} {first middle last : Spot} {front back tail : List Char}
    (before : Scans rule (back ++ tail) first front middle) (after : Scans rule tail middle back last) :
    Scans rule tail first (front ++ back) last := by
  induction before with
  | nil => exact after
  | cons here _ ih => exact .cons (List.append_assoc .. ▸ here) (ih after)

theorem scans_rule {rule : Rule} {first last : Spot} {cs : List Char} (scans : Scans rule [] first cs last) :
    ∀ before c after, cs = before ++ c :: after → rule (before.foldl Spot.next first) c after := by
  induction scans with
  | nil => simp
  | @cons spot last c rest here later ih =>
      intro before d after whole
      cases before with
      | nil =>
          cases whole
          rwa [List.append_nil] at here
      | cons e before =>
          obtain ⟨rfl, others⟩ := List.cons.inj whole
          exact ih before d after others

-- Characters that leave the scan where it is.
theorem scans_still {rule : Rule} {spot : Spot} {cs tail : List Char} (still : ∀ c ∈ cs, spot.next c = spot)
    (kept : ∀ c ∈ cs, ∀ rest, rule spot c rest) : Scans rule tail spot cs spot := by
  induction cs with
  | nil => exact .nil spot
  | cons c rest ih =>
      obtain ⟨here, others⟩ := List.forall_mem_cons.mp still
      obtain ⟨first, more⟩ := List.forall_mem_cons.mp kept
      exact .cons (first _) (by rw [here]; exact ih others more)

-- Brackets, separators, and the characters of numbers and names.
def signs : List Char :=
  ['[', ']', '\x7b', '\x7d', ',', '"', '-', '0', '1', '2', '3', '4', '5', '6', '7', '8', '9',
   'n', 'u', 'l', 't', 'r', 'e', 'f', 'a', 's']

theorem digit_sign (c : Char) (bounds : 0x30 ≤ c.toNat ∧ c.toNat ≤ 0x39) : c ∈ signs := by
  have code : ∀ n < 10, Char.ofNat (0x30 + n) ∈ signs := by decide
  have shifted := code (c.toNat - 0x30) (by omega)
  rwa [Nat.add_sub_cancel' bounds.1, Char.ofNat_toNat] at shifted

-- What an escape is made of.
def escapes : List Char :=
  ['\\', '"', 'n', 'r', 't', 'b', 'f', 'u', '0', '1', '2', '3', '4', '5', '6', '7', '8', '9',
   'a', 'b', 'c', 'd', 'e', 'f']

-- What stands in a literal as it is.
structure Verbatim (asciiOnly : Bool) (c : Char) : Prop where
  quote : c ≠ '"'
  slash : c ≠ '\\'
  printed : 0x20 ≤ c.toNat
  ascii : asciiOnly = true → c.toNat < 0x7F

structure Obeys (layout : Layout) (rule : Rule) : Prop where
  signs : ∀ spot, ∀ c ∈ signs, ∀ rest, rule spot c rest
  escapes : ∀ depth quoting, quoting ≠ .outside → ∀ c ∈ escapes, ∀ rest, rule ⟨depth, quoting⟩ c rest
  literals : ∀ depth c, Verbatim layout.asciiOnly c → ∀ rest, rule ⟨depth, .inside⟩ c rest
  colons : ∀ depth, ∀ c ∈ colon layout, ∀ rest, rule ⟨depth, .outside⟩ c rest
  begins : ∀ depth tail, Opens tail →
    Scans rule tail ⟨depth, .outside⟩ (lineBreak layout depth) ⟨depth, .outside⟩
  ends : ∀ depth closing tail, closing = ']' ∨ closing = '\x7d' →
    Scans rule (closing :: tail) ⟨depth + 1, .outside⟩ (lineBreak layout depth) ⟨depth + 1, .outside⟩

def movers : List Char :=
  ['"', '[', ']', '\x7b', '\x7d']

theorem outside_still (depth : Nat) {c : Char} (still : c ∉ movers) :
    (Spot.mk depth .outside).next c = ⟨depth, .outside⟩ := by
  simp only [movers, List.mem_cons, List.not_mem_nil, or_false, not_or] at still
  simp [Spot.next, still]

theorem blank_still {c : Char} (blank : isSpace c = true) : c ∉ movers := by
  intro moves
  simp only [movers, List.mem_cons, List.not_mem_nil, or_false] at moves
  rcases moves with rfl | rfl | rfl | rfl | rfl <;> cases blank

theorem colon_still {layout : Layout} {c : Char} (member : c ∈ colon layout) : c ∉ movers := by
  obtain ⟨gap, blank, form⟩ := colon_spaced layout
  rw [form] at member
  rcases List.mem_cons.mp member with rfl | spacing
  · decide
  · exact blank_still (blank c spacing)

-- Broken lines and their indentation leave the scan where it is.
theorem break_still {layout : Layout} {rule : Rule} {level depth : Nat} {tail : List Char}
    (kept : ∀ c ∈ lineBreak layout level, ∀ rest, rule ⟨depth, .outside⟩ c rest) :
    Scans rule tail ⟨depth, .outside⟩ (lineBreak layout level) ⟨depth, .outside⟩ :=
  scans_still (fun c member => outside_still depth (blank_still (line_break_blank layout level c member))) kept

theorem inside_still (depth : Nat) {c : Char} (quote : c ≠ '"') (slash : c ≠ '\\') :
    (Spot.mk depth .inside).next c = ⟨depth, .inside⟩ := by
  simp [Spot.next, quote, slash]

section

variable {layout : Layout} {rule : Rule} (obeys : Obeys layout rule) (depth : Nat) {tail : List Char}

include obeys

theorem word_scans (word : List Char) (written : ∀ c ∈ word, c ∈ signs) (still : ∀ c ∈ word, c ∉ movers) :
    Scans rule tail ⟨depth, .outside⟩ word ⟨depth, .outside⟩ :=
  scans_still (fun c member => outside_still depth (still c member))
    fun c member => obeys.signs _ c (written c member)

theorem hex_scans (width n : Nat) :
    Scans rule tail ⟨depth, .inside⟩ (hexDigits width n) ⟨depth, .inside⟩ := by
  have digit : ∀ d < 16, hexDigit d ∈ escapes ∧ hexDigit d ≠ '"' ∧ hexDigit d ≠ '\\' := by decide
  have each : ∀ c ∈ hexDigits width n, c ∈ escapes ∧ c ≠ '"' ∧ c ≠ '\\' := by
    induction width generalizing n with
    | zero => simp [hexDigits]
    | succ width ih =>
        intro c member
        rw [hexDigits, List.mem_append, List.mem_singleton] at member
        rcases member with front | rfl
        · exact ih (n / 16) c front
        · exact digit _ (Nat.mod_lt _ (by decide))
  refine scans_still (fun c member => ?_) fun c member => ?_
  · obtain ⟨-, quote, slash⟩ := each c member
    exact inside_still depth quote slash
  · exact obeys.escapes depth .inside (by decide) c (each c member).1

theorem escape_scans (c : Char) (rest : List Char) (escape : c ∈ escapes)
    (others : Scans rule tail ⟨depth, .inside⟩ rest ⟨depth, .inside⟩) :
    Scans rule tail ⟨depth, .inside⟩ ('\\' :: c :: rest) ⟨depth, .inside⟩ :=
  .cons (obeys.escapes depth .inside (by decide) '\\' (by decide) _)
    (.cons (obeys.escapes depth .escaped (by decide) c escape _) others)

theorem unit_scans (unit : Nat) : Scans rule tail ⟨depth, .inside⟩ (unitForm unit) ⟨depth, .inside⟩ :=
  escape_scans obeys depth 'u' _ (by decide) (hex_scans obeys depth 4 unit)

theorem code_scans (code : Nat) : Scans rule tail ⟨depth, .inside⟩ (codeForm code) ⟨depth, .inside⟩ := by
  by_cases single : code ≤ 0xFFFF
  · rw [codeForm, if_pos single]
    exact unit_scans obeys depth code
  · rw [codeForm, if_neg single]
    exact scans_append (unit_scans obeys depth _) (unit_scans obeys depth _)

theorem char_scans (c : Char) :
    Scans rule tail ⟨depth, .inside⟩ (charForm layout.asciiOnly c) ⟨depth, .inside⟩ := by
  have escape (e : Char) (member : e ∈ escapes) :
      Scans rule tail ⟨depth, .inside⟩ ['\\', e] ⟨depth, .inside⟩ :=
    escape_scans obeys depth e [] member (.nil _)
  unfold charForm
  split
  · exact escape '"' (by decide)
  split
  · exact escape '\\' (by decide)
  split
  · exact escape 'n' (by decide)
  split
  · exact escape 'r' (by decide)
  split
  · exact escape 't' (by decide)
  split
  · exact escape 'b' (by decide)
  split
  · exact escape 'f' (by decide)
  split
  · exact unit_scans obeys depth c.toNat
  split
  · exact code_scans obeys depth c.toNat
  · next quote slash _ _ _ _ _ printed plain =>
    have verbatim : Verbatim layout.asciiOnly c := 
      ⟨quote, slash, Nat.le_of_not_lt printed, fun ascii => Nat.lt_of_not_le fun wide => plain ⟨ascii, wide⟩⟩
    refine scans_still (fun d member => ?_) fun d member => ?_
    · cases List.mem_singleton.mp member
      exact inside_still depth quote slash
    · cases List.mem_singleton.mp member
      exact obeys.literals depth c verbatim

theorem text_scans (s : String) :
    Scans rule tail ⟨depth, .outside⟩ (textForm layout.asciiOnly s) ⟨depth, .outside⟩ := by
  have inner (cs after : List Char) :
      Scans rule after ⟨depth, .inside⟩ (cs.flatMap (charForm layout.asciiOnly)) ⟨depth, .inside⟩ := by
    induction cs with
    | nil => exact .nil _
    | cons c rest ih => exact scans_append (char_scans obeys depth c) ih
  have quote (spot : Spot) (rest : List Char) : rule spot '"' rest := obeys.signs spot '"' (by decide) rest
  exact .cons (quote _ _) (scans_append (inner s.toList _) (.cons (quote _ _) (.nil _)))

theorem int_scans (n : Int) : Scans rule tail ⟨depth, .outside⟩ (intText n).toList ⟨depth, .outside⟩ := by
  refine word_scans obeys depth _ (fun c member => ?_) fun c member moves => ?_
  · rcases mem_int_text_code member with rfl | bounds
    · decide
    · exact digit_sign c bounds
  · rcases mem_int_text_code member with rfl | bounds
    · exact absurd moves (by decide)
    · simp only [movers, List.mem_cons, List.not_mem_nil, or_false] at moves
      rcases moves with rfl | rfl | rfl | rfl | rfl <;> exact absurd bounds (by decide)

theorem enclosed_scans (opening closing : Char) (body : List Char)
    (brackets : opening = '[' ∧ closing = ']' ∨ opening = '\x7b' ∧ closing = '\x7d')
    (inside : body = [] ∨ Opens body ∧
      ∀ after, Scans rule after ⟨depth + 1, .outside⟩ body ⟨depth + 1, .outside⟩) :
    Scans rule tail ⟨depth, .outside⟩ (enclosed layout depth opening closing body) ⟨depth, .outside⟩ := by
  have sign (spot : Spot) (c : Char) (rest : List Char) (member : c ∈ signs) : rule spot c rest :=
    obeys.signs spot c member rest
  have opens : opening ∈ signs ∧ (Spot.mk depth .outside).next opening = ⟨depth + 1, .outside⟩ := by
    rcases brackets with ⟨rfl, -⟩ | ⟨rfl, -⟩ <;> exact ⟨by decide, rfl⟩
  have closes : closing ∈ signs ∧ (Spot.mk (depth + 1) .outside).next closing = ⟨depth, .outside⟩ := by
    rcases brackets with ⟨-, rfl⟩ | ⟨-, rfl⟩ <;> exact ⟨by decide, rfl⟩
  have last : Scans rule tail ⟨depth + 1, .outside⟩ [closing] ⟨depth, .outside⟩ :=
    .cons (sign _ _ _ closes.1) (closes.2 ▸ .nil _)
  rcases inside with rfl | ⟨filled, inner⟩
  · exact .cons (sign _ _ _ opens.1) (opens.2 ▸ last)
  · rw [enclosed_filled layout depth opening closing body filled, List.append_assoc, List.append_assoc]
    refine .cons (sign _ _ _ opens.1) (opens.2 ▸ ?_)
    refine scans_append (obeys.begins (depth + 1) _ (opens_append _ tail (opens_append body _ filled))) ?_
    refine scans_append (inner _) (scans_append (obeys.ends depth closing tail ?_) last)
    rcases brackets with ⟨-, rfl⟩ | ⟨-, rfl⟩
    · exact .inl rfl
    · exact .inr rfl

theorem joined_scans (item others : List Char)
    (first : ∀ after, Scans rule after ⟨depth, .outside⟩ item ⟨depth, .outside⟩)
    (later : others = [] ∨ Opens others ∧
      ∀ after, Scans rule after ⟨depth, .outside⟩ others ⟨depth, .outside⟩) :
    Scans rule tail ⟨depth, .outside⟩ (joined layout depth item others) ⟨depth, .outside⟩ := by
  rcases later with rfl | ⟨opens, more⟩
  · exact first tail
  · rw [joined_filled layout depth item others opens]
    refine scans_append (first _) (.cons (obeys.signs _ ',' (by decide) _) ?_)
    exact scans_append (obeys.begins depth _ (opens_append others tail opens)) (more tail)

-- A form scans back to the level it is written at.
def Stays (rule : Rule) (level : Nat) (form : Except Defect (List Char)) : Prop :=
  ∀ cs, form = .ok cs → ∀ tail, Scans rule tail ⟨level, .outside⟩ cs ⟨level, .outside⟩

theorem name_stays (name : List Char) (written : ∀ c ∈ name, c ∈ signs) (still : ∀ c ∈ name, c ∉ movers) :
    Stays rule depth (.ok name) := by
  intro cs same tail
  cases same
  exact word_scans obeys depth name written still

theorem list_stays (items : List Value) (plain : PlainItems items)
    (inside : Stays rule (depth + 1) (itemsForm layout (depth + 1) items)) :
    Stays rule depth (valueForm layout depth (.list items)) := by
  intro cs written tail
  rw [valueForm] at written
  obtain ⟨body, form, rfl⟩ := (except_map_ok ..).mp written
  obtain ⟨same, sameForm, filled⟩ := items_kept layout (depth + 1) items plain
  cases form.symm.trans sameForm
  exact enclosed_scans obeys depth '[' ']' body (.inl ⟨rfl, rfl⟩)
    (filled.imp And.right fun opens => ⟨opens.1, inside body form⟩)

theorem map_stays (entries : Entries) (plain : PlainEntries entries)
    (inside : Stays rule (depth + 1) (entriesForm layout (depth + 1) entries)) :
    Stays rule depth (valueForm layout depth (.map entries)) := by
  intro cs written tail
  rw [valueForm] at written
  obtain ⟨body, form, rfl⟩ := (except_map_ok ..).mp written
  obtain ⟨same, sameForm, filled⟩ := entries_kept layout (depth + 1) entries plain
  cases form.symm.trans sameForm
  exact enclosed_scans obeys depth '\x7b' '\x7d' body (.inr ⟨rfl, rfl⟩)
    (filled.imp And.right fun opens => ⟨opens.1, inside body form⟩)

theorem items_cons_stays (v : Value) (more : List Value) (plain : PlainItems more)
    (first : Stays rule depth (valueForm layout depth v)) (others : Stays rule depth (itemsForm layout depth more)) :
    Stays rule depth (itemsForm layout depth (v :: more)) := by
  intro cs written tail
  rw [itemsForm] at written
  obtain ⟨item, itemForm, written⟩ := (except_bind_ok ..).mp written
  obtain ⟨rest, restForm, written⟩ := (except_bind_ok ..).mp written
  cases written
  obtain ⟨same, sameForm, filled⟩ := items_kept layout depth more plain
  cases restForm.symm.trans sameForm
  exact joined_scans obeys depth item rest (first item itemForm)
    (filled.imp And.right fun opens => ⟨opens.1, others rest restForm⟩)

theorem entries_cons_stays (key v : Value) (more : Entries) (plain : PlainEntries more)
    (first : Stays rule depth (valueForm layout depth v))
    (others : Stays rule depth (entriesForm layout depth more)) :
    Stays rule depth (entriesForm layout depth ((key, v) :: more)) := by
  intro cs written tail
  rw [entriesForm] at written
  obtain ⟨name, -, written⟩ := (except_bind_ok ..).mp written
  obtain ⟨value, valueForm, written⟩ := (except_bind_ok ..).mp written
  obtain ⟨rest, restForm, written⟩ := (except_bind_ok ..).mp written
  cases written
  obtain ⟨same, sameForm, filled⟩ := entries_kept layout depth more plain
  cases restForm.symm.trans sameForm
  have colons (after : List Char) : Scans rule after ⟨depth, .outside⟩ (colon layout) ⟨depth, .outside⟩ :=
    scans_still (fun c member => outside_still depth (colon_still member)) fun c member => obeys.colons depth c member
  refine joined_scans obeys depth _ rest (fun after => ?_)
    (filled.imp And.right fun opens => ⟨opens.1, others rest restForm⟩)
  exact scans_append (scans_append (text_scans obeys depth name) (colons _)) (first value valueForm after)

end

mutual

theorem value_stays {layout : Layout} {rule : Rule} (obeys : Obeys layout rule) (level : Nat) :
    (v : Value) → Plain v → Stays rule level (valueForm layout level v)
  | .null, _ => by
      rw [valueForm]
      exact name_stays obeys level _ (by simp [signs]) (by simp [movers])
  | .bool true, _ => by
      rw [valueForm]
      exact name_stays obeys level _ (by simp [signs]) (by simp [movers])
  | .bool false, _ => by
      rw [valueForm]
      exact name_stays obeys level _ (by simp [signs]) (by simp [movers])
  | .int n, plain => by
      rw [Plain] at plain
      rw [valueForm, integer_text_readable plain]
      intro cs same tail
      cases same
      exact int_scans obeys level n
  | .str s, _ => by
      rw [valueForm]
      intro cs same tail
      cases same
      exact text_scans obeys level s
  | .list items, plain => by
      rw [Plain] at plain
      exact list_stays obeys level items plain (items_stays obeys (level + 1) items plain)
  | .map entries, plain => by
      rw [Plain] at plain
      exact map_stays obeys level entries plain.1 (entries_stays obeys (level + 1) entries plain.1)
  | .float _, plain | .date _, plain | .dateTime _, plain | .bytes _, plain | .set _, plain | .tuple _, plain => by
      simp [Plain] at plain

theorem items_stays {layout : Layout} {rule : Rule} (obeys : Obeys layout rule) (level : Nat) :
    (items : List Value) → PlainItems items → Stays rule level (itemsForm layout level items)
  | [], _ => by
      rw [itemsForm]
      exact name_stays obeys level [] (by simp) (by simp)
  | v :: more, plain => by
      rw [PlainItems] at plain
      exact items_cons_stays obeys level v more plain.2 (value_stays obeys level v plain.1)
        (items_stays obeys level more plain.2)

theorem entries_stays {layout : Layout} {rule : Rule} (obeys : Obeys layout rule) (level : Nat) :
    (entries : List (Value × Value)) → PlainEntries entries → Stays rule level (entriesForm layout level entries)
  | [], _ => by
      rw [entriesForm]
      exact name_stays obeys level [] (by simp) (by simp)
  | (key, v) :: more, plain => by
      rw [PlainEntries] at plain
      exact entries_cons_stays obeys level key v more plain.2.2 (value_stays obeys level v plain.2.1)
        (entries_stays obeys level more plain.2.2)

end

-- Every character of a written value keeps the rule at the spot where it stands.
theorem written_obeys {layout : Layout} {rule : Rule} (obeys : Obeys layout rule) {v : Value} (plain : Plain v)
    {text : String} (written : write layout v = some text) :
    ∀ before c after, text.toList = before ++ c :: after → rule (spotAfter before) c after := by
  obtain ⟨cs, form, rfl⟩ := (except_map_ok ..).mp (render_of_write written)
  rw [String.toList_ofList]
  exact scans_rule (value_stays obeys 0 v plain cs form [])

end ApiStubs.Json
