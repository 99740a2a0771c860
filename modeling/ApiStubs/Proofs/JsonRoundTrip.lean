import ApiStubs.Proofs.JsonNumber
import ApiStubs.Proofs.JsonText
import ApiStubs.Proofs.Returns

/- What is written as JSON is read back. A value that JSON has is written under every layout, and from its form
   reading takes exactly that value, whatever stands behind it that does not go on with a number. Every form
   holds two steps of the reader's budget for each of its characters. -/

set_option autoImplicit false

namespace ApiStubs

open ApiStubs.Decimal

namespace Value

theorem same_key_text (key : Value) (name : String) : sameKey key (.str name) = true ↔ key = .str name := by
  cases key <;> simp [sameKey, sameNumber, asInt?]

end Value

namespace Entries

theorem put_new (entries : Entries) (name : String) (value : Value) (fresh : .str name ∉ entries.map (·.1)) :
    entries.put (.str name) value = entries ++ [(.str name, value)] := by
  induction entries with
  | nil => rfl
  | cons entry rest ih =>
      simp only [List.map_cons, List.mem_cons, not_or] at fresh
      have other : ¬ Value.sameKey entry.1 (.str name) = true :=
        fun same => fresh.1 ((Value.same_key_text _ _).mp same).symm
      rw [put, if_neg other, ih fresh.2]
      rfl

end Entries

namespace Json

mutual

-- The values that JSON keeps as they are.
def Plain : Value → Prop
  | .null => True
  | .bool _ => True
  | .int n => Readable n
  | .str _ => True
  | .list items => PlainItems items
  | .map entries => PlainEntries entries ∧ (entries.map (·.1)).Nodup
  | _ => False

def PlainItems : List Value → Prop
  | [] => True
  | v :: rest => Plain v ∧ PlainItems rest

def PlainEntries : List (Value × Value) → Prop
  | [] => True
  | (key, v) :: rest => (∃ name, key = .str name) ∧ Plain v ∧ PlainEntries rest

end

theorem plain_entries_iff (entries : Entries) :
    PlainEntries entries ↔ ∀ e ∈ entries, (∃ name, e.1 = .str name) ∧ Plain e.2 := by
  induction entries with
  | nil => simp [PlainEntries]
  | cons entry rest ih => rw [PlainEntries, ih, List.forall_mem_cons, and_assoc]

-- A character that begins neither a text nor a container and may stand first.
def Bare (c : Char) : Prop :=
  c ∉ ['"', '[', '\x7b', ' ', '\t', '\n', '\r', ']', '\x7d', '\uFEFF']

instance (c : Char) : Decidable (Bare c) :=
  inferInstanceAs (Decidable (_ ∉ _))

def Blank (gap : List Char) : Prop :=
  ∀ c ∈ gap, isSpace c = true

-- Neither a blank nor a closing bracket nor a byte order mark stands first.
def Opens (cs : List Char) : Prop :=
  ∃ c rest, cs = c :: rest ∧ isSpace c = false ∧ c ≠ ']' ∧ c ≠ '\x7d' ∧ c ≠ '\uFEFF'

-- Two steps for each character are enough: a container spends one on its bracket, each item one on its separator.
def ReadsAs (v : Value) (cs : List Char) : Prop :=
  ∀ (budget : Nat) (rest : List Char), 2 * cs.length ≤ budget → Stops rest →
    readValue budget (cs ++ rest) = .ok (v, rest)

-- Under a layout a value has a form, from which it is read back.
def Keeps (layout : Layout) (level : Nat) (v : Value) : Prop :=
  ∃ cs, valueForm layout level v = .ok cs ∧ Opens cs ∧ ReadsAs v cs

def ItemsRead (items : List Value) (cs : List Char) : Prop :=
  ∀ (budget : Nat) (gap rest : List Char), 2 * cs.length < budget → Blank gap →
    readItems budget (cs ++ (gap ++ ']' :: rest)) = .ok (items, rest)

-- Members are put into what was read before them, so the keys have to be distinct across both.
def MembersRead (entries : Entries) (cs : List Char) : Prop :=
  ∀ (budget : Nat) (before : Entries) (gap rest : List Char), 2 * cs.length < budget → Blank gap →
    ((before ++ entries).map (·.1)).Nodup →
    readMembers budget before (cs ++ (gap ++ '\x7d' :: rest)) = .ok (before ++ entries, rest)

def KeepsItems (layout : Layout) (level : Nat) (items : List Value) : Prop :=
  ∃ cs, itemsForm layout level items = .ok cs ∧ (items = [] ∧ cs = [] ∨ Opens cs ∧ ItemsRead items cs)

def KeepsEntries (layout : Layout) (level : Nat) (entries : Entries) : Prop :=
  ∃ cs, entriesForm layout level entries = .ok cs ∧ (entries = [] ∧ cs = [] ∨ Opens cs ∧ MembersRead entries cs)

theorem skip_blank (gap cs : List Char) (blank : Blank gap) : skipSpace (gap ++ cs) = skipSpace cs :=
  List.dropWhile_append_of_pos blank

theorem skip_to (gap : List Char) (c : Char) (rest : List Char) (blank : Blank gap) (filled : isSpace c = false) :
    skipSpace (gap ++ c :: rest) = c :: rest := by
  rw [skip_blank gap _ blank]
  exact List.dropWhile_cons_of_neg (by simp [filled])

theorem skip_to_opening (gap cs rest : List Char) (blank : Blank gap) (opens : Opens cs) :
    skipSpace (gap ++ (cs ++ rest)) = cs ++ rest := by
  obtain ⟨c, others, rfl, filled, -⟩ := opens
  exact skip_to gap c (others ++ rest) blank filled

theorem line_break_blank (layout : Layout) (level : Nat) : Blank (lineBreak layout level) := by
  intro c member
  unfold lineBreak at member
  split at member
  · cases member
  · rcases List.mem_cons.mp member with rfl | spaces
    · rfl
    · rw [List.eq_of_mem_replicate spaces]
      rfl

theorem space_stops (c : Char) (rest : List Char) (blank : isSpace c = true) : Stops (c :: rest) := by
  simp only [isSpace, Bool.or_eq_true, beq_iff_eq] at blank
  intro d first
  cases first
  rcases blank with ((rfl | rfl) | rfl) | rfl <;> decide

theorem stops_at (c : Char) (rest : List Char) (closing : c ∈ [',', ']', '\x7d']) : Stops (c :: rest) := by
  simp only [List.mem_cons, List.not_mem_nil, or_false] at closing
  intro d first
  cases first
  rcases closing with rfl | rfl | rfl <;> decide

theorem stops_after_blank (gap rest : List Char) (blank : Blank gap) (stops : Stops rest) : Stops (gap ++ rest) := by
  cases gap with
  | nil => exact stops
  | cons c more => exact space_stops c (more ++ rest) (blank c (List.mem_cons_self ..))

theorem skip_nothing (c : Char) (rest : List Char) (filled : isSpace c = false) :
    skipSpace (c :: rest) = c :: rest :=
  skip_to [] c rest (by simp [Blank]) filled

theorem scalar_reads (v : Value) (c : Char) (others : List Char) (bare : Bare c)
    (read : ∀ rest, Stops rest → readScalar (c :: others ++ rest) = .ok (v, rest)) : ReadsAs v (c :: others) := by
  intro budget rest enough stops
  simp only [Bare, List.mem_cons, List.not_mem_nil, or_false, not_or] at bare
  cases budget with
  | zero => simp at enough
  | succ budget =>
      rw [List.cons_append, readValue]
      · exact read rest stops
      · exact fun more same => bare.1 (List.cons.inj same).1
      · exact fun more same => bare.2.1 (List.cons.inj same).1
      · exact fun more same => bare.2.2.1 (List.cons.inj same).1

theorem text_reads (asciiOnly : Bool) (s : String) : ReadsAs (.str s) (textForm asciiOnly s) := by
  intro budget rest enough stops
  cases budget with
  | zero => simp [textForm] at enough
  | succ budget =>
      have whole : textForm asciiOnly s ++ rest = '"' :: (s.toList.flatMap (charForm asciiOnly) ++ '"' :: rest) := by
        simp [textForm]
      rw [whole, readValue, read_text_form]

theorem empty_list_reads : ReadsAs (.list []) ['[', ']'] := by
  intro budget rest enough stops
  cases budget with
  | zero => simp at enough
  | succ budget =>
      rw [List.cons_append, readValue]
      rfl

theorem empty_map_reads : ReadsAs (.map []) ['\x7b', '\x7d'] := by
  intro budget rest enough stops
  cases budget with
  | zero => simp at enough
  | succ budget =>
      rw [List.cons_append, readValue]
      rfl

theorem list_reads (items : List Value) (front body back : List Char) (opens : Opens body)
    (before : Blank front) (behind : Blank back) (inside : ItemsRead items body) :
    ReadsAs (.list items) ('[' :: (front ++ body ++ back ++ [']'])) := by
  intro budget rest enough stops
  cases budget with
  | zero => simp at enough
  | succ budget =>
      have whole : '[' :: (front ++ body ++ back ++ [']']) ++ rest =
          '[' :: (front ++ (body ++ (back ++ ']' :: rest))) := by simp
      have room : 2 * body.length < budget := by
        simp only [List.length_cons, List.length_append] at enough
        omega
      have read := inside budget back rest room behind
      rw [whole, readValue, skip_to_opening front body _ before opens]
      obtain ⟨c, others, rfl, -, notClosing, -⟩ := opens
      rw [List.cons_append] at read ⊢
      split
      · next tail same => exact absurd (List.cons.inj same).1 notClosing
      · rw [read]

theorem map_reads (entries : Entries) (front body back : List Char) (opens : Opens body)
    (before : Blank front) (behind : Blank back) (inside : MembersRead entries body)
    (distinct : (entries.map (·.1)).Nodup) :
    ReadsAs (.map entries) ('\x7b' :: (front ++ body ++ back ++ ['\x7d'])) := by
  intro budget rest enough stops
  cases budget with
  | zero => simp at enough
  | succ budget =>
      have whole : '\x7b' :: (front ++ body ++ back ++ ['\x7d']) ++ rest =
          '\x7b' :: (front ++ (body ++ (back ++ '\x7d' :: rest))) := by simp
      have room : 2 * body.length < budget := by
        simp only [List.length_cons, List.length_append] at enough
        omega
      have read := inside budget [] back rest room behind distinct
      rw [whole, readValue, skip_to_opening front body _ before opens]
      obtain ⟨c, others, rfl, -, -, notClosing, -⟩ := opens
      rw [List.cons_append] at read ⊢
      split
      · next tail same => exact absurd (List.cons.inj same).1 notClosing
      · rw [read]
        rfl

theorem last_item_reads (v : Value) (item : List Char) (read : ReadsAs v item) : ItemsRead [v] item := by
  intro budget gap rest enough blank
  cases budget with
  | zero => simp at enough
  | succ budget =>
      have stops := stops_after_blank gap _ blank (stops_at ']' rest (by simp))
      rw [readItems, read budget _ (by omega) stops]
      simp only [skip_to gap ']' rest blank rfl]

theorem item_reads (v : Value) (more : List Value) (item front tail : List Char) (opens : Opens tail)
    (before : Blank front) (read : ReadsAs v item) (others : ItemsRead more tail) :
    ItemsRead (v :: more) (item ++ ',' :: (front ++ tail)) := by
  intro budget gap rest enough blank
  cases budget with
  | zero => simp at enough
  | succ budget =>
      have whole : item ++ ',' :: (front ++ tail) ++ (gap ++ ']' :: rest) =
          item ++ ',' :: (front ++ (tail ++ (gap ++ ']' :: rest))) := by simp
      simp only [List.length_append, List.length_cons] at enough
      have stops := stops_at ',' (front ++ (tail ++ (gap ++ ']' :: rest))) (by simp)
      rw [whole, readItems, read budget _ (by omega) stops]
      simp only [skip_nothing ',' _ rfl, skip_to_opening front tail _ before opens,
        others budget gap rest (by omega) blank]

theorem member_reads (asciiOnly : Bool) (name : String) (v : Value) (gap value more : List Char) (budget : Nat)
    (before : Entries) (blank : Blank gap) (opens : Opens value)
    (read : readValue budget (value ++ more) = .ok (v, more)) (fresh : .str name ∉ before.map (·.1)) :
    (∀ tail, skipSpace more = '\x7d' :: tail →
      readMembers (budget + 1) before (textForm asciiOnly name ++ (':' :: gap ++ value ++ more)) =
        .ok (before ++ [(.str name, v)], tail)) ∧
    ∀ tail, skipSpace more = ',' :: tail →
      readMembers (budget + 1) before (textForm asciiOnly name ++ (':' :: gap ++ value ++ more)) =
        readMembers budget (before ++ [(.str name, v)]) (skipSpace tail) := by
  have whole : textForm asciiOnly name ++ (':' :: gap ++ value ++ more) =
      '"' :: (name.toList.flatMap (charForm asciiOnly) ++ '"' :: ':' :: (gap ++ (value ++ more))) := by
    simp [textForm]
  constructor
  · intro tail closed
    rw [whole, readMembers, read_text_form]
    simp only [skip_nothing ':' _ rfl, skip_to_opening gap value more blank opens, read,
      Entries.put_new _ _ _ fresh, closed]
  · intro tail continued
    rw [whole, readMembers, read_text_form]
    simp only [skip_nothing ':' _ rfl, skip_to_opening gap value more blank opens, read,
      Entries.put_new _ _ _ fresh, continued]

theorem fresh_of_nodup (before : Entries) (key v : Value) (after : Entries)
    (distinct : ((before ++ (key, v) :: after).map (·.1)).Nodup) : key ∉ before.map (·.1) := by
  rw [List.map_append, List.nodup_append] at distinct
  exact fun member => distinct.2.2 key member key (by simp) rfl

theorem last_member_reads (asciiOnly : Bool) (name : String) (v : Value) (between value : List Char)
    (spaced : Blank between) (opens : Opens value) (read : ReadsAs v value) :
    MembersRead [(.str name, v)] (textForm asciiOnly name ++ (':' :: between ++ value)) := by
  intro budget before gap rest enough blank distinct
  cases budget with
  | zero => simp at enough
  | succ budget =>
      have whole : textForm asciiOnly name ++ (':' :: between ++ value) ++ (gap ++ '\x7d' :: rest) =
          textForm asciiOnly name ++ (':' :: between ++ value ++ (gap ++ '\x7d' :: rest)) := by simp
      simp only [List.length_append, List.length_cons] at enough
      have stops := stops_after_blank gap _ blank (stops_at '\x7d' rest (by simp))
      rw [whole]
      exact (member_reads asciiOnly name v between value _ budget before spaced opens (read budget _ (by omega) stops)
        (fresh_of_nodup before _ v [] distinct)).1 rest (skip_to gap '\x7d' rest blank rfl)

theorem members_reads (asciiOnly : Bool) (name : String) (v : Value) (more : Entries)
    (between value front tail : List Char) (spaced : Blank between) (opens : Opens value) (read : ReadsAs v value)
    (before : Blank front) (next : Opens tail) (others : MembersRead more tail) :
    MembersRead ((.str name, v) :: more)
      (textForm asciiOnly name ++ (':' :: between ++ value) ++ ',' :: (front ++ tail)) := by
  intro budget earlier gap rest enough blank distinct
  cases budget with
  | zero => simp at enough
  | succ budget =>
      have whole : textForm asciiOnly name ++ (':' :: between ++ value) ++ ',' :: (front ++ tail) ++
          (gap ++ '\x7d' :: rest) = textForm asciiOnly name ++
            (':' :: between ++ value ++ ',' :: (front ++ (tail ++ (gap ++ '\x7d' :: rest)))) := by simp
      simp only [List.length_append, List.length_cons] at enough
      have stops := stops_at ',' (front ++ (tail ++ (gap ++ '\x7d' :: rest))) (by simp)
      have later : ((earlier ++ [(Value.str name, v)] ++ more).map (·.1)).Nodup := by simpa using distinct
      rw [whole, (member_reads asciiOnly name v between value _ budget earlier spaced opens
        (read budget _ (by omega) stops) (fresh_of_nodup earlier _ v more distinct)).2 _ (skip_nothing ',' _ rfl),
        skip_to_opening front tail _ before next]
      have following := others budget (earlier ++ [(Value.str name, v)]) gap rest (by omega) blank later
      rwa [List.append_assoc earlier, List.singleton_append] at following

theorem opens_bare (c : Char) (rest : List Char) (bare : Bare c) : Opens (c :: rest) := by
  simp only [Bare, List.mem_cons, List.not_mem_nil, or_false, not_or] at bare
  exact ⟨c, rest, rfl, by simp [isSpace, bare], by simp [bare], by simp [bare], by simp [bare]⟩

theorem bare_digit (c : Char) (digit : isDigit c = true) : Bare c := by
  have others : ∀ d ∈ ['"', '[', '\x7b', ' ', '\t', '\n', '\r', ']', '\x7d', '\uFEFF'], isDigit d = false := by
    simp [isDigit]
  intro member
  rw [others c member] at digit
  exact Bool.false_ne_true digit

theorem int_text_bare (n : Int) : ∃ c rest, (intText n).toList = c :: rest ∧ Bare c := by
  cases n with
  | ofNat n =>
      obtain ⟨first, others, form⟩ := List.exists_cons_of_ne_nil (digits_ne_nil n)
      have digit := digits_are_digits n first (by simp [form])
      exact ⟨first, others, (int_text_natural n).trans form, bare_digit first digit⟩
  | negSucc n =>
      exact ⟨'-', digits (n + 1), int_text_negative n, by decide⟩

theorem integer_text_readable {n : Int} (readable : Readable n) : integerText n = .ok (intText n) :=
  if_pos readable

theorem int_kept (layout : Layout) (level : Nat) (n : Int) (readable : Readable n) :
    Keeps layout level (.int n) := by
  obtain ⟨c, others, form, bare⟩ := int_text_bare n
  refine ⟨c :: others, by rw [valueForm, integer_text_readable readable, Except.map, form], opens_bare c others bare, ?_⟩
  refine scalar_reads (.int n) c others bare fun rest stops => ?_
  rw [← form]
  exact read_scalar_int n rest stops readable

theorem name_kept (layout : Layout) (level : Nat) (v : Value) (c : Char) (others : List Char) (bare : Bare c)
    (form : valueForm layout level v = .ok (c :: others))
    (named : ∀ rest, readName (c :: others ++ rest) = some (v, rest)) : Keeps layout level v := by
  refine ⟨c :: others, form, opens_bare c others bare, ?_⟩
  exact scalar_reads v c others bare fun rest _ => by simp only [readScalar, named rest]

theorem text_kept (layout : Layout) (level : Nat) (s : String) : Keeps layout level (.str s) :=
  ⟨textForm layout.asciiOnly s, by rw [valueForm], ⟨'"', _, rfl, by decide⟩, text_reads layout.asciiOnly s⟩

theorem enclosed_filled (layout : Layout) (level : Nat) (opening closing : Char) (body : List Char)
    (opens : Opens body) : enclosed layout level opening closing body =
      opening :: (lineBreak layout (level + 1) ++ body ++ lineBreak layout level ++ [closing]) := by
  obtain ⟨c, rest, rfl, -⟩ := opens
  rfl

theorem joined_filled (layout : Layout) (level : Nat) (item tail : List Char) (opens : Opens tail) :
    joined layout level item tail = item ++ ',' :: (lineBreak layout level ++ tail) := by
  obtain ⟨c, rest, rfl, -⟩ := opens
  rfl

theorem opens_append (front back : List Char) (opens : Opens front) : Opens (front ++ back) := by
  obtain ⟨c, rest, rfl, allowed⟩ := opens
  exact ⟨c, rest ++ back, rfl, allowed⟩

theorem colon_spaced (layout : Layout) : ∃ gap, Blank gap ∧ colon layout = ':' :: gap := by
  unfold colon
  split
  · exact ⟨[], by simp [Blank], rfl⟩
  · exact ⟨[' '], by simp [Blank, isSpace], rfl⟩

theorem list_kept (layout : Layout) (level : Nat) (items : List Value)
    (inside : KeepsItems layout (level + 1) items) : Keeps layout level (.list items) := by
  obtain ⟨body, form, ⟨rfl, rfl⟩ | ⟨opens, read⟩⟩ := inside
  · exact ⟨['[', ']'], by rw [valueForm, form]; rfl, ⟨'[', [']'], rfl, by decide⟩, empty_list_reads⟩
  · refine ⟨_, by rw [valueForm, form, Except.map, enclosed_filled layout level '[' ']' body opens],
      ⟨'[', _, rfl, by decide⟩, ?_⟩
    exact list_reads items _ body _ opens (line_break_blank layout (level + 1)) (line_break_blank layout level) read

theorem map_kept (layout : Layout) (level : Nat) (entries : Entries)
    (inside : KeepsEntries layout (level + 1) entries) (distinct : (entries.map (·.1)).Nodup) :
    Keeps layout level (.map entries) := by
  obtain ⟨body, form, ⟨rfl, rfl⟩ | ⟨opens, read⟩⟩ := inside
  · exact ⟨['\x7b', '\x7d'], by rw [valueForm, form]; rfl, ⟨'\x7b', ['\x7d'], rfl, by decide⟩, empty_map_reads⟩
  · refine ⟨_, by rw [valueForm, form, Except.map, enclosed_filled layout level _ _ body opens],
      ⟨'\x7b', _, rfl, by decide⟩, ?_⟩
    exact map_reads entries _ body _ opens (line_break_blank layout (level + 1)) (line_break_blank layout level) read
      distinct

theorem items_kept_cons (layout : Layout) (level : Nat) (v : Value) (more : List Value)
    (first : Keeps layout level v) (others : KeepsItems layout level more) :
    KeepsItems layout level (v :: more) := by
  obtain ⟨item, itemForm, opens, read⟩ := first
  obtain ⟨tail, tailForm, ⟨rfl, rfl⟩ | ⟨tailOpens, tailRead⟩⟩ := others
  · exact ⟨item, by rw [itemsForm, itemForm, tailForm]; rfl, .inr ⟨opens, last_item_reads v item read⟩⟩
  · refine ⟨item ++ ',' :: (lineBreak layout level ++ tail), ?_, .inr ⟨opens_append _ _ opens, ?_⟩⟩
    · rw [itemsForm, itemForm, tailForm, ← joined_filled layout level item tail tailOpens]
      rfl
    · exact item_reads v more item _ tail tailOpens (line_break_blank layout level) read tailRead

theorem entries_kept_cons (layout : Layout) (level : Nat) (name : String) (v : Value) (more : Entries)
    (first : Keeps layout level v) (others : KeepsEntries layout level more) :
    KeepsEntries layout level ((.str name, v) :: more) := by
  obtain ⟨value, valueForm, opens, read⟩ := first
  obtain ⟨gap, spaced, colonForm⟩ := colon_spaced layout
  have member : textForm layout.asciiOnly name ++ colon layout ++ value =
      textForm layout.asciiOnly name ++ (':' :: gap ++ value) := by rw [colonForm, List.append_assoc]
  have memberOpens : Opens (textForm layout.asciiOnly name ++ (':' :: gap ++ value)) :=
    opens_append _ _ ⟨'"', _, rfl, by decide⟩
  obtain ⟨tail, tailForm, ⟨rfl, rfl⟩ | ⟨tailOpens, tailRead⟩⟩ := others
  · refine ⟨textForm layout.asciiOnly name ++ (':' :: gap ++ value), ?_, .inr ⟨memberOpens, ?_⟩⟩
    · rw [entriesForm, keyText, valueForm, tailForm, ← member]
      rfl
    · exact last_member_reads layout.asciiOnly name v gap value spaced opens read
  · refine ⟨textForm layout.asciiOnly name ++ (':' :: gap ++ value) ++ ',' :: (lineBreak layout level ++ tail), ?_,
      .inr ⟨opens_append _ _ memberOpens, ?_⟩⟩
    · rw [entriesForm, keyText, valueForm, tailForm, ← member, ← joined_filled layout level _ tail tailOpens]
      rfl
    · exact members_reads layout.asciiOnly name v more gap value _ tail spaced opens read
        (line_break_blank layout level) tailOpens tailRead

mutual

-- One case for each kind of value; what a container holds is written and read one level deeper.
theorem value_kept (layout : Layout) (level : Nat) : (v : Value) → Plain v → Keeps layout level v
  | .null, _ => name_kept layout level .null 'n' _ (by decide) (by rw [valueForm]; rfl) fun _ => rfl
  | .bool true, _ => name_kept layout level (.bool true) 't' _ (by decide) (by rw [valueForm]; rfl) fun _ => rfl
  | .bool false, _ => name_kept layout level (.bool false) 'f' _ (by decide) (by rw [valueForm]; rfl) fun _ => rfl
  | .int n, plain => int_kept layout level n (by simpa only [Plain] using plain)
  | .str s, _ => text_kept layout level s
  | .list items, plain =>
      list_kept layout level items (items_kept layout (level + 1) items (by simpa only [Plain] using plain))
  | .map entries, plain => by
      rw [Plain] at plain
      exact map_kept layout level entries (entries_kept layout (level + 1) entries plain.1) plain.2
  | .float _, plain | .date _, plain | .dateTime _, plain | .bytes _, plain | .set _, plain | .tuple _, plain => by
      simp [Plain] at plain

theorem items_kept (layout : Layout) (level : Nat) :
    (items : List Value) → PlainItems items → KeepsItems layout level items
  | [], _ => ⟨[], by rw [itemsForm], .inl ⟨rfl, rfl⟩⟩
  | v :: more, plain => by
      rw [PlainItems] at plain
      exact items_kept_cons layout level v more (value_kept layout level v plain.1)
        (items_kept layout level more plain.2)

theorem entries_kept (layout : Layout) (level : Nat) :
    (entries : List (Value × Value)) → PlainEntries entries → KeepsEntries layout level entries
  | [], _ => ⟨[], by rw [entriesForm], .inl ⟨rfl, rfl⟩⟩
  | (key, v) :: more, plain => by
      rw [PlainEntries] at plain
      obtain ⟨⟨name, rfl⟩, first, others⟩ := plain
      exact entries_kept_cons layout level name v more (value_kept layout level v first)
        (entries_kept layout level more others)

end

theorem read_document_form (v : Value) (cs gap : List Char) (opens : Opens cs) (read : ReadsAs v cs)
    (blank : Blank gap) : readDocument (cs ++ gap) = .ok v := by
  have stops : Stops gap := by simpa using stops_after_blank gap [] blank (by simp [Stops])
  have value := read (2 * (cs ++ gap).length + 2) gap (by rw [List.length_append]; omega) stops
  have start : skipSpace (cs ++ gap) = cs ++ gap := skip_to_opening [] cs gap (by simp [Blank]) opens
  have finish : skipSpace gap = [] := by simpa [skipSpace] using skip_blank gap [] blank
  obtain ⟨c, rest, rfl, -, -, -, noMark⟩ := opens
  rw [List.cons_append] at start value ⊢
  unfold readDocument
  split
  · next same => exact absurd (List.cons.inj same).1 noMark
  · simp only [start, value, finish]

theorem render_of_write {layout : Layout} {v : Value} {s : String} (written : write layout v = some s) :
    render layout v = .ok s :=
  to_option_some written

-- Blanks behind a written text are no part of it.
theorem read_written (layout : Layout) (v : Value) (plain : Plain v) :
    ∃ s, write layout v = some s ∧ ∀ gap : String, Blank gap.toList → read (s ++ gap) = .ok v := by
  obtain ⟨cs, form, opens, reads⟩ := value_kept layout 0 v plain
  refine ⟨String.ofList cs, by rw [write, render, form]; rfl, fun gap blank => ?_⟩
  rw [read, String.toList_append, String.toList_ofList]
  exact read_document_form v cs gap.toList opens reads blank

theorem written_alone (layout : Layout) (v : Value) (plain : Plain v) :
    ∃ s, write layout v = some s ∧ read s = .ok v := by
  obtain ⟨s, written, reads⟩ := read_written layout v plain
  have read := reads "" (by simp [Blank])
  rw [String.append_empty] at read
  exact ⟨s, written, read⟩

end Json

end ApiStubs
