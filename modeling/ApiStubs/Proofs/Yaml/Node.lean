import ApiStubs.Proofs.Returns
import ApiStubs.Yaml.Node

/- Why the tokens of a YAML text make no nodes. Tokens in a wrong order are malformed; where the tokens end too
   early, the fault is the one that ended them. -/

set_option autoImplicit false

namespace ApiStubs.Yaml

variable {α β : Type} {ended : Fault}

def Stops (ended : Fault) (result : Result α) : Prop :=
  Returns (fun _ => True) (fun fault => fault = .malformed ∨ fault = ended) result

theorem stops_ok (a : α) : Stops ended (.ok a : Result α) :=
  .ok trivial

theorem stops_malformed : Stops ended (malformed : Result α) :=
  .error (.inl rfl)

theorem stops_ended : Stops ended (.error ended : Result α) :=
  .error (.inr rfl)

theorem stops_bind {first : Result α} {next : α → Result β} (begins : Stops ended first)
    (goes : ∀ a, Stops ended (next a)) : Stops ended (first >>= next) :=
  returns_bind begins fun a _ => goes a

theorem peek_stops (scope : Scope) (r : Reader) : Stops scope.fault (peek scope r) := by
  unfold peek
  split
  · exact stops_ok _
  · exact stops_ended

theorem properties_stops (scope : Scope) (r : Reader) : Stops scope.fault (properties scope r) := by
  refine stops_bind (peek_stops scope r) fun t => ?_
  split
  · refine stops_bind (peek_stops scope _) fun t => ?_
    split <;> exact stops_ok _
  · refine stops_bind (peek_stops scope _) fun t => ?_
    split <;> exact stops_ok _
  · exact stops_ok _

theorem full_tag_stops (scope : Scope) (tag : Option (Option String × String)) :
    Stops scope.fault (fullTag scope tag) := by
  unfold fullTag
  split
  · exact stops_ok _
  · exact stops_ok _
  · split
    · exact stops_ok _
    · exact stops_malformed

-- What holds of all readers once it holds of them with one step less.
structure ReadersStop (scope : Scope) (limit : Nat) : Prop where
  node : ∀ inBlock indentless r, Stops scope.fault (readNode scope inBlock indentless limit r)
  optional : ∀ inBlock indentless stops r, Stops scope.fault (readOptional scope inBlock indentless stops limit r)
  items : ∀ r, Stops scope.fault (readItems scope limit r)
  indentless : ∀ r, Stops scope.fault (readIndentless scope limit r)
  value : ∀ inBlock stops r, Stops scope.fault (readEntryValue scope inBlock stops limit r)
  entries : ∀ r, Stops scope.fault (readEntries scope limit r)
  flowItems : ∀ first r, Stops scope.fault (readFlowItems scope first limit r)
  flowEntries : ∀ first r, Stops scope.fault (readFlowEntries scope first limit r)

section

variable {scope : Scope} {limit : Nat}

theorem node_stops (less : ReadersStop scope limit) (inBlock indentless : Bool) (r : Reader) :
    Stops scope.fault (readNode scope inBlock indentless (limit + 1) r) := by
  unfold readNode
  refine stops_bind (peek_stops scope r) fun t => ?_
  split
  · split
    · exact stops_ok _
    · exact stops_malformed
  · refine stops_bind (properties_stops scope r) fun found => stops_bind (full_tag_stops scope _) fun tag => ?_
    split
    · exact stops_malformed
    · refine stops_bind (peek_stops scope _) fun next => stops_bind ?_ fun _ => stops_ok _
      split
      · split
        · exact stops_bind (less.indentless _) fun _ => stops_ok _
        · split
          · exact stops_ok _
          · exact stops_malformed
      · exact stops_ok _
      · exact stops_bind (less.flowItems _ _) fun _ => stops_ok _
      · exact stops_bind (less.flowEntries _ _) fun _ => stops_ok _
      · split
        · exact stops_bind (less.items _) fun _ => stops_ok _
        · split
          · exact stops_bind (less.entries _) fun _ => stops_ok _
          · split
            · exact stops_ok _
            · exact stops_malformed

theorem optional_stops (less : ReadersStop scope limit) (inBlock indentless : Bool) (stops : List Token) (r : Reader) :
    Stops scope.fault (readOptional scope inBlock indentless stops (limit + 1) r) := by
  unfold readOptional
  refine stops_bind (peek_stops scope r) fun t => ?_
  split
  · exact stops_ok _
  · exact less.node _ _ _

theorem items_stops (less : ReadersStop scope limit) (r : Reader) :
    Stops scope.fault (readItems scope (limit + 1) r) := by
  unfold readItems
  refine stops_bind (peek_stops scope r) fun t => ?_
  split
  · exact stops_bind (less.optional _ _ _ _) fun _ => stops_bind (less.items _) fun _ => stops_ok _
  · exact stops_ok _
  · exact stops_malformed

theorem indentless_stops (less : ReadersStop scope limit) (r : Reader) :
    Stops scope.fault (readIndentless scope (limit + 1) r) := by
  unfold readIndentless
  refine stops_bind (peek_stops scope r) fun t => ?_
  split
  · exact stops_bind (less.optional _ _ _ _) fun _ => stops_bind (less.indentless _) fun _ => stops_ok _
  · exact stops_ok _

theorem entry_value_stops (less : ReadersStop scope limit) (inBlock : Bool) (stops : List Token) (r : Reader) :
    Stops scope.fault (readEntryValue scope inBlock stops (limit + 1) r) := by
  unfold readEntryValue
  refine stops_bind (peek_stops scope r) fun t => ?_
  split
  · exact less.optional _ _ _ _
  · exact stops_ok _

theorem entries_stops (less : ReadersStop scope limit) (r : Reader) :
    Stops scope.fault (readEntries scope (limit + 1) r) := by
  unfold readEntries
  refine stops_bind (peek_stops scope r) fun t => ?_
  split
  · exact stops_bind (less.optional _ _ _ _) fun _ => stops_bind (less.value _ _ _) fun _ =>
      stops_bind (less.entries _) fun _ => stops_ok _
  · exact stops_ok _
  · exact stops_malformed

theorem flow_items_stops (less : ReadersStop scope limit) (first : Bool) (r : Reader) :
    Stops scope.fault (readFlowItems scope first (limit + 1) r) := by
  unfold readFlowItems
  refine stops_bind (peek_stops scope r) fun t => ?_
  split
  · exact stops_ok _
  · split
    · exact stops_malformed
    · refine stops_bind (peek_stops scope _) fun t => ?_
      split
      · exact stops_bind (less.optional _ _ _ _) fun _ => stops_bind (less.value _ _ _) fun _ =>
          stops_bind (less.flowItems _ _) fun _ => stops_ok _
      · exact stops_ok _
      · exact stops_bind (less.node _ _ _) fun _ => stops_bind (less.flowItems _ _) fun _ => stops_ok _

theorem flow_entries_stops (less : ReadersStop scope limit) (first : Bool) (r : Reader) :
    Stops scope.fault (readFlowEntries scope first (limit + 1) r) := by
  unfold readFlowEntries
  refine stops_bind (peek_stops scope r) fun t => ?_
  split
  · exact stops_ok _
  · split
    · exact stops_malformed
    · refine stops_bind (peek_stops scope _) fun t => ?_
      split
      · exact stops_bind (less.optional _ _ _ _) fun _ => stops_bind (less.value _ _ _) fun _ =>
          stops_bind (less.flowEntries _ _) fun _ => stops_ok _
      · exact stops_ok _
      · exact stops_bind (less.node _ _ _) fun _ => stops_bind (less.flowEntries _ _) fun _ => stops_ok _

end

theorem readers_stop (scope : Scope) (limit : Nat) : ReadersStop scope limit := by
  induction limit with
  | zero =>
      constructor <;> intros
      · rw [readNode]
        exact stops_malformed
      · rw [readOptional]
        exact stops_malformed
      · rw [readItems]
        exact stops_malformed
      · rw [readIndentless]
        exact stops_malformed
      · rw [readEntryValue]
        exact stops_malformed
      · rw [readEntries]
        exact stops_malformed
      · rw [readFlowItems]
        exact stops_malformed
      · rw [readFlowEntries]
        exact stops_malformed
  | succ limit less =>
      exact {
        node := node_stops less
        optional := optional_stops less
        items := items_stops less
        indentless := indentless_stops less
        value := entry_value_stops less
        entries := entries_stops less
        flowItems := flow_items_stops less
        flowEntries := flow_entries_stops less }

theorem directives_stops (ended : Fault) (versioned : Bool) (handles : List (String × String)) (tokens : List Token) :
    Stops ended (directives ended versioned handles tokens) := by
  induction tokens generalizing versioned handles with
  | nil =>
      unfold directives
      exact stops_ended
  | cons t rest ih =>
      unfold directives
      split
      · split
        · exact stops_malformed
        · exact ih _ _
      · split
        · exact stops_malformed
        · exact ih _ _
      · exact ih _ _
      · exact stops_ok _

theorem ends_stream_stops (ended : Fault) (tokens : List Token) : Stops ended (endsStream ended tokens) := by
  induction tokens with
  | nil => exact stops_ended
  | cons t rest ih =>
      unfold endsStream
      split
      · next same =>
          cases same
          exact ih
      · exact stops_ok _
      · exact stops_malformed
      · exact stops_ended

theorem content_stops (scope : Scope) (optional : Bool) (tokens : List Token) :
    Stops scope.fault (readContent scope optional tokens) :=
  stops_bind ((readers_stop scope _).optional _ _ _ _) fun _ =>
    stops_bind (ends_stream_stops scope.fault _) fun _ => stops_ok _

theorem marked_stops (ended : Fault) (tokens : List Token) : Stops ended (readMarked ended tokens) := by
  unfold readMarked
  split
  · exact stops_ok _
  · refine stops_bind (directives_stops ended false [] _) fun (handles, rest) => ?_
    simp only
    split
    · exact stops_bind (content_stops ⟨_, ended⟩ true _) fun _ => stops_ok _
    · exact stops_malformed

theorem node_of_text_fault (text : List Char) (fault : Fault) (failure : Node.ofText text = .error fault)
    (wellFormed : fault ≠ .malformed) : (Token.ofText text).2 = some fault := by
  have stops : Stops ((Token.ofText text).2.getD .malformed) (Node.ofText text) := by
    unfold Node.ofText
    simp only
    split
    · exact stops_ended
    · exact stops_ok _
    · exact marked_stops _ _
    · exact marked_stops _ _
    · exact marked_stops _ _
    · exact marked_stops _ _
    · exact stops_bind (content_stops ⟨_, _⟩ false _) fun _ => stops_ok _
  have same := (returns_known stops failure).resolve_left wellFormed
  cases ended : (Token.ofText text).2 with
  | none =>
      rw [ended] at same
      exact absurd same wellFormed
  | some reason =>
      rw [ended] at same
      exact congrArg some same.symm

end ApiStubs.Yaml
