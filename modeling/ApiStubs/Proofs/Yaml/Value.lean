import ApiStubs.Proofs.Returns
import ApiStubs.Yaml.Document

/- Why the nodes of a YAML document give no value. Everything that is wrong with the shape of a document is
   malformed. Any other fault is that of one scalar of the document, whose tag promises a truth value, a number or
   a time that its text is not. -/

set_option autoImplicit false

namespace ApiStubs.Yaml

inductive Within : Node → Node → Prop where
  | self {node : Node} : Within node node
  | item {tag : Tag} {items : List Node} {item node : Node} (member : item ∈ items) (within : Within item node) :
      Within (.sequence tag items) node
  | key {tag : Tag} {entries : List (Node × Node)} {entry : Node × Node} {node : Node} (member : entry ∈ entries)
      (within : Within entry.1 node) : Within (.mapping tag entries) node
  | value {tag : Tag} {entries : List (Node × Node)} {entry : Node × Node} {node : Node} (member : entry ∈ entries)
      (within : Within entry.2 node) : Within (.mapping tag entries) node

-- The tags of scalars whose text has to be of a form of its own.
def Promises (tag : Tag) : Prop :=
  tag = .bool ∨ tag = .int ∨ tag = .float ∨ tag = .timestamp

-- Every scalar with a promise that stands in `node` stands in `root`.
def Covers (root node : Node) : Prop :=
  ∀ inner, Within node inner → Promises (tagOf inner) → Within root inner

-- Why `root` gives no value: the document is malformed, or one of its scalars breaks its promise.
def Faulty (root : Node) (fault : Fault) : Prop :=
  fault = .malformed ∨
    ∃ inner, Within root inner ∧ Promises (tagOf inner) ∧ scalarValue inner = .error fault

theorem covers_self (root : Node) : Covers root root :=
  fun _ within _ => within

theorem covers_item {root : Node} {tag : Tag} {items : List Node} (covered : Covers root (.sequence tag items)) :
    ∀ item ∈ items, Covers root item :=
  fun _ member inner within promises => covered inner (.item member within) promises

theorem covers_entry {root : Node} {tag : Tag} {entries : List (Node × Node)}
    (covered : Covers root (.mapping tag entries)) :
    ∀ entry ∈ entries, Covers root entry.1 ∧ Covers root entry.2 :=
  fun _ member => ⟨fun inner within promises => covered inner (.key member within) promises,
    fun inner within promises => covered inner (.value member within) promises⟩

-- A value key becomes an ordinary text, which promises nothing.
theorem covers_plain_key {root key : Node} (covered : Covers root key) : Covers root (plainKey key) := by
  intro inner within promises
  unfold plainKey at within
  split at within
  · cases within with
    | self => simp [Promises, tagOf] at promises
  · cases within with
    | self => simp [Promises, tagOf] at promises
    | item member within => exact covered inner (.item member within) promises
  · cases within with
    | self => simp [Promises, tagOf] at promises
    | key member within => exact covered inner (.key member within) promises
    | value member within => exact covered inner (.value member within) promises
  · exact covered inner within promises

mutual

theorem text_of_malformed : (node : Node) → (fault : Fault) → textOf node = .error fault → fault = .malformed
  | .scalar _ _, _, failure => by
      rw [textOf] at failure
      cases failure
  | .mapping _ entries, fault, failure => by
      rw [textOf] at failure
      exact text_of_entries_malformed entries fault failure
  | .sequence _ _, _, failure => by
      rw [textOf] at failure
      cases failure
      rfl

theorem text_of_entries_malformed : (entries : List (Node × Node)) → (fault : Fault) →
    textOf.textOfEntries entries = .error fault → fault = .malformed
  | [], _, failure => by
      cases failure
      rfl
  | (key, value) :: rest, fault, failure => by
      unfold textOf.textOfEntries at failure
      split at failure
      · cases failure
        rfl
      · next same =>
          cases same
          exact text_of_malformed value fault failure
      · next same =>
          cases same
          exact text_of_malformed value fault failure
      · next same =>
          cases same
          exact text_of_malformed value fault failure
      · next same =>
          cases same
          exact text_of_entries_malformed rest fault failure

end

def EntriesCovered (root : Node) (entries : List (Node × Node)) : Prop :=
  ∀ entry ∈ entries, Covers root entry.1 ∧ Covers root entry.2

theorem entries_covered_append {root : Node} {front back : List (Node × Node)} (first : EntriesCovered root front)
    (second : EntriesCovered root back) : EntriesCovered root (front ++ back) :=
  List.forall_mem_append.mpr ⟨first, second⟩

mutual

theorem flatten_reads (root : Node) : (node : Node) → Covers root node →
    Returns (EntriesCovered root) (Faulty root) (flatten node)
  | .mapping tag entries, covered => by
      rw [flatten]
      exact returns_bind (flatten_entries_reads root entries (covers_entry covered)) fun _ parts =>
        .ok (entries_covered_append parts.1 parts.2)
  | .scalar _ _, _ => by
      rw [flatten]
      · exact .error (.inl rfl)
      · simp
  | .sequence _ _, _ => by
      rw [flatten]
      · exact .error (.inl rfl)
      · simp

theorem flatten_entries_reads (root : Node) : (entries : List (Node × Node)) → EntriesCovered root entries →
    Returns (fun parts => EntriesCovered root parts.1 ∧ EntriesCovered root parts.2) (Faulty root) (flattenEntries entries)
  | [], _ => by
      rw [flattenEntries]
      exact .ok ⟨by simp [EntriesCovered], by simp [EntriesCovered]⟩
  | (key, value) :: rest, covered => by
      obtain ⟨first, others⟩ := List.forall_mem_cons.mp covered
      have later := flatten_entries_reads root rest others
      rw [flattenEntries]
      split
      · exact returns_bind (merges_reads root value first.2) fun _ merged =>
          returns_bind later fun _ parts => .ok ⟨entries_covered_append merged parts.1, parts.2⟩
      · exact returns_bind later fun _ parts =>
          .ok ⟨parts.1, List.forall_mem_cons.mpr ⟨⟨covers_plain_key first.1, first.2⟩, parts.2⟩⟩

theorem merges_reads (root : Node) : (node : Node) → Covers root node →
    Returns (EntriesCovered root) (Faulty root) (merges node)
  | .mapping tag entries, covered => by
      rw [merges]
      exact flatten_reads root (.mapping tag entries) covered
  | .sequence _ items, covered => by
      rw [merges]
      exact flatten_items_reads root items (covers_item covered)
  | .scalar _ _, _ => by
      rw [merges]
      exact .error (.inl rfl)

theorem flatten_items_reads (root : Node) : (items : List Node) → (∀ item ∈ items, Covers root item) →
    Returns (EntriesCovered root) (Faulty root) (flattenItems items)
  | [], _ => by
      rw [flattenItems]
      exact .ok (by simp [EntriesCovered])
  | item :: rest, covered => by
      obtain ⟨first, others⟩ := List.forall_mem_cons.mp covered
      rw [flattenItems]
      exact returns_bind (flatten_reads root item first) fun _ own =>
        returns_bind (flatten_items_reads root rest others) fun _ later => .ok (entries_covered_append later own)

end

theorem text_reads (root node : Node) : Returns (fun _ => True) (Faulty root) (textOf node) := by
  cases text : textOf node with
  | ok s => exact .ok trivial
  | error fault =>
      cases text_of_malformed node fault text
      exact .error (.inl rfl)

theorem binary_reads (root : Node) (text : String) : Returns (fun _ => True) (Faulty root) (binaryOf text) := by
  unfold binaryOf
  split
  · split
    · exact .ok trivial
    · exact .error (.inl rfl)
  · exact .error (.inl rfl)

theorem scalar_reads (root node : Node) (covered : Covers root node) :
    Returns (fun _ => True) (Faulty root) (scalarValue node) := by
  by_cases promises : Promises (tagOf node)
  · cases value : scalarValue node with
    | ok v => exact .ok trivial
    | error fault => exact .error (.inr ⟨node, covered node .self promises, promises, value⟩)
  · unfold scalarValue
    have text := text_reads root node
    split
    · exact returns_bind text fun _ _ => .ok trivial
    · next tag => exact absurd (.inl tag) promises
    · next tag => exact absurd (.inr (.inl tag)) promises
    · next tag => exact absurd (.inr (.inr (.inl tag))) promises
    · exact returns_bind text fun _ _ => .ok trivial
    · exact returns_bind text fun _ _ => binary_reads root _
    · next tag => exact absurd (.inr (.inr (.inr tag))) promises
    · exact .error (.inl rfl)

theorem pair_reads (root item : Node) (covered : Covers root item) :
    Returns (fun pair => Covers root pair.1 ∧ Covers root pair.2) (Faulty root) (pairOf item) := by
  unfold pairOf
  split
  · exact .ok (covers_entry covered _ (List.mem_singleton_self _))
  · exact .error (.inl rfl)

def AllCovered (root : Node) (nodes : List Node) : Prop :=
  ∀ node ∈ nodes, Covers root node

def PartsCovered (root : Node) (parts : List (Bool × Node)) : Prop :=
  ∀ part ∈ parts, Covers root part.2

theorem all_covered_append {root : Node} {front back : List Node} (first : AllCovered root front)
    (second : AllCovered root back) : AllCovered root (front ++ back) :=
  List.forall_mem_append.mpr ⟨first, second⟩

theorem entry_parts_covered {root : Node} {entries : List (Node × Node)} (covered : EntriesCovered root entries) :
    PartsCovered root (entries.flatMap fun e => [(true, e.1), (false, e.2)]) := by
  intro part member
  obtain ⟨entry, inside, which⟩ := List.mem_flatMap.mp member
  have both := covered entry inside
  simp only [List.mem_cons, List.not_mem_nil, or_false] at which
  cases which with
  | inl same => exact same ▸ both.1
  | inr same => exact same ▸ both.2

theorem parts_reads (root node : Node) (covered : Covers root node) :
    Returns (PartsCovered root) (Faulty root) (partsOf node) := by
  unfold partsOf
  split
  · exact .ok (List.forall_mem_map.mpr (covers_item covered))
  · exact returns_bind (flatten_reads root _ covered) fun _ entries => .ok (entry_parts_covered entries)
  · exact returns_bind (flatten_reads root _ covered) fun _ entries => .ok (entry_parts_covered entries)
  · exact .error (.inl rfl)

theorem begin_part_reads (root : Node) (part : Bool × Node) (covered : Covers root part.2) :
    Returns (AllCovered root) (Faulty root) (beginPart part) := by
  unfold beginPart
  split
  · split
    · exact .error (.inl rfl)
    · exact .ok (by simpa [AllCovered] using covered)
  · exact returns_bind (scalar_reads root part.2 covered) fun _ _ => .ok (by simp [AllCovered])

theorem begin_parts_reads (root : Node) (parts : List (Bool × Node)) (covered : PartsCovered root parts) :
    Returns (AllCovered root) (Faulty root) (beginParts parts) := by
  induction parts with
  | nil => exact .ok (by simp [AllCovered])
  | cons part rest ih =>
      obtain ⟨first, others⟩ := List.forall_mem_cons.mp covered
      exact returns_bind (begin_part_reads root part first) fun _ kept =>
        returns_bind (ih others) fun _ more => .ok (all_covered_append kept more)

theorem begin_pairs_reads (root : Node) (items : List Node) (covered : AllCovered root items) :
    Returns (AllCovered root) (Faulty root) (beginPairs items) := by
  induction items with
  | nil => exact .ok (by simp [AllCovered])
  | cons item rest ih =>
      obtain ⟨first, others⟩ := List.forall_mem_cons.mp covered
      refine returns_bind (pair_reads root item first) fun pair both => ?_
      have parts : PartsCovered root [(false, pair.1), (false, pair.2)] := by
        simpa [PartsCovered] using both
      exact returns_bind (begin_parts_reads root _ parts) fun _ kept =>
        returns_bind (ih others) fun _ more => .ok (all_covered_append kept more)

theorem begin_collection_reads (root node : Node) (covered : Covers root node) :
    Returns (AllCovered root) (Faulty root) (beginCollection node) := by
  unfold beginCollection
  split
  · exact begin_pairs_reads root _ (covers_item covered)
  · exact begin_pairs_reads root _ (covers_item covered)
  · exact .error (.inl rfl)
  · exact .error (.inl rfl)
  · exact returns_bind (parts_reads root _ covered) fun parts each => begin_parts_reads root parts each

theorem begin_level_reads (root : Node) (nodes : List Node) (covered : AllCovered root nodes) :
    Returns (AllCovered root) (Faulty root) (beginLevel nodes) := by
  induction nodes with
  | nil => exact .ok (by simp [AllCovered])
  | cons node rest ih =>
      obtain ⟨first, others⟩ := List.forall_mem_cons.mp covered
      exact returns_bind (begin_collection_reads root node first) fun _ inner =>
        returns_bind (ih others) fun _ more => .ok (all_covered_append inner more)

theorem check_levels_reads (root : Node) (limit : Nat) (nodes : List Node) (covered : AllCovered root nodes) :
    Returns (fun _ => True) (Faulty root) (checkLevels limit nodes) := by
  induction limit generalizing nodes with
  | zero => exact .ok trivial
  | succ limit ih =>
      unfold checkLevels
      split
      · exact .ok trivial
      · exact returns_bind (begin_level_reads root nodes covered) fun next inner => ih next inner

theorem entries_of_reads (root : Node) (limit : Nat) (entries : List (Node × Node))
    (covered : EntriesCovered root entries)
    (each : ∀ node, Covers root node → Returns (fun _ => True) (Faulty root) (valueOf limit node)) :
    Returns (fun _ => True) (Faulty root) (valueOf.entriesOf limit entries) := by
  unfold valueOf.entriesOf
  generalize ([] : Entries) = found
  induction entries generalizing found with
  | nil => exact .ok trivial
  | cons entry rest ih =>
      obtain ⟨first, others⟩ := List.forall_mem_cons.mp covered
      rw [List.foldlM_cons]
      have added : Returns (fun _ => True) (Faulty root) (do
          let key ← valueOf limit entry.1
          let v ← valueOf limit entry.2
          if key.isKey then return Entries.put found key v else throw .malformed) := by
        refine returns_bind (each entry.1 first.1) fun key _ => returns_bind (each entry.2 first.2) fun value _ => ?_
        split
        · exact .ok trivial
        · exact .error (.inl rfl)
      exact returns_bind added fun next _ => ih others next

theorem pair_value_reads (root : Node) (limit : Nat) (item : Node) (covered : Covers root item)
    (each : ∀ node, Covers root node → Returns (fun _ => True) (Faulty root) (valueOf limit node)) :
    Returns (fun _ => True) (Faulty root) (valueOf.pairValue limit item) := by
  unfold valueOf.pairValue
  exact returns_bind (pair_reads root item covered) fun pair both =>
    returns_bind (each pair.1 both.1) fun _ _ => returns_bind (each pair.2 both.2) fun _ _ => .ok trivial

theorem value_reads (root : Node) (limit : Nat) (node : Node) (covered : Covers root node) :
    Returns (fun _ => True) (Faulty root) (valueOf limit node) := by
  induction limit generalizing node with
  | zero =>
      rw [valueOf]
      exact .error (.inl rfl)
  | succ limit ih =>
      have pairs := fun items (inside : AllCovered root items) => returns_map_all fun item member =>
        pair_value_reads root limit item (inside item member) ih
      unfold valueOf
      split
      · exact returns_bind (returns_map_all fun item member => ih item (covers_item covered item member)) fun _ _ =>
          .ok trivial
      · exact returns_bind (flatten_reads root _ covered) fun entries each =>
          returns_bind (entries_of_reads root limit entries each ih) fun _ _ => .ok trivial
      · exact returns_bind (flatten_reads root _ covered) fun entries each =>
          returns_bind (entries_of_reads root limit entries each ih) fun _ _ => .ok trivial
      · exact returns_bind (pairs _ (covers_item covered)) fun _ _ => .ok trivial
      · exact returns_bind (pairs _ (covers_item covered)) fun _ _ => .ok trivial
      · exact .error (.inl rfl)
      · exact .error (.inl rfl)
      · exact .error (.inl rfl)
      · exact .error (.inl rfl)
      · exact .error (.inl rfl)
      · exact scalar_reads root _ covered

end ApiStubs.Yaml
