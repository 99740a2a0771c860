import ApiStubs.Proofs.Below
import ApiStubs.Proofs.JsonRoundTrip

/- What has a JSON form under every layout: null, truth values, numbers, texts, sequences of such values, and mappings
   of such values whose keys become names. Only whole numbers may have too many digits for it. What has a form need not
   be kept by it, as a number among the keys is read back as a text. -/

set_option autoImplicit false

namespace ApiStubs.Json

open ApiStubs.Decimal

mutual

def Formed : Value → Prop
  | .null | .bool _ | .float _ | .str _ => True
  | .int n => Readable n
  | .list items | .tuple items => FormedItems items
  | .map entries => FormedEntries entries
  | .date _ | .dateTime _ | .bytes _ | .set _ => False

def FormedItems : List Value → Prop
  | [] => True
  | v :: rest => Formed v ∧ FormedItems rest

def FormedEntries : List (Value × Value) → Prop
  | [] => True
  | (key, v) :: rest => (∃ name, keyText key = .ok name) ∧ Formed v ∧ FormedEntries rest

end

theorem formed_items_iff (items : List Value) : FormedItems items ↔ ∀ v ∈ items, Formed v := by
  induction items with
  | nil => simp [FormedItems]
  | cons v rest ih => rw [FormedItems, ih, List.forall_mem_cons]

theorem formed_entries_iff (entries : Entries) :
    FormedEntries entries ↔ ∀ e ∈ entries, (∃ name, keyText e.1 = .ok name) ∧ Formed e.2 := by
  induction entries with
  | nil => simp [FormedEntries]
  | cons entry rest ih => rw [FormedEntries, ih, List.forall_mem_cons, and_assoc]

theorem formed_item {items : List Value} {v : Value} (formed : Formed (.list items)) (member : v ∈ items) :
    Formed v := by
  rw [Formed, formed_items_iff] at formed
  exact formed v member

theorem formed_entry {entries : Entries} {e : Value × Value} (formed : Formed (.map entries)) (member : e ∈ entries) :
    (∃ name, keyText e.1 = .ok name) ∧ Formed e.2 := by
  rw [Formed, formed_entries_iff] at formed
  exact formed e member

theorem formed_below {v node : Value} (formed : Formed v) (below : Below v node) : Formed node := by
  induction below with
  | self => exact formed
  | entry member _ ih => exact ih (formed_entry formed member).2
  | item member _ ih => exact ih (formed_item formed member)

theorem readable_of_text {n : Int} {s : String} (written : integerText n = .ok s) : Readable n := by
  unfold integerText at written
  split at written
  · next few => exact few
  · cases written

-- What becomes a name has a form of its own.
theorem formed_key {key : Value} {name : String} (named : keyText key = .ok name) : Formed key := by
  cases key with
  | int n => exact readable_of_text named
  | list _ | map _ | tuple _ | set _ | date _ | dateTime _ | bytes _ => cases named
  | _ => trivial

mutual

theorem formed_value (layout : Layout) (level : Nat) : (v : Value) → Formed v → ∃ cs, valueForm layout level v = .ok cs
  | .null, _ | .bool _, _ | .float _, _ | .str _, _ => ⟨_, rfl⟩
  | .int n, readable => ⟨(intText n).toList, by rw [valueForm, integer_text_readable readable]; rfl⟩
  | .list items, formed | .tuple items, formed => by
      obtain ⟨cs, form⟩ := formed_items layout (level + 1) items formed
      exact ⟨_, by rw [valueForm, form]; rfl⟩
  | .map entries, formed => by
      obtain ⟨cs, form⟩ := formed_entries layout (level + 1) entries formed
      exact ⟨_, by rw [valueForm, form]; rfl⟩
  | .date _, formed | .dateTime _, formed | .bytes _, formed | .set _, formed => formed.elim

theorem formed_items (layout : Layout) (level : Nat) :
    (items : List Value) → FormedItems items → ∃ cs, itemsForm layout level items = .ok cs
  | [], _ => ⟨_, rfl⟩
  | v :: rest, formed => by
      obtain ⟨head, first⟩ := formed_value layout level v formed.1
      obtain ⟨tail, others⟩ := formed_items layout level rest formed.2
      exact ⟨_, by rw [itemsForm, first, others]; rfl⟩

theorem formed_entries (layout : Layout) (level : Nat) :
    (entries : List (Value × Value)) → FormedEntries entries → ∃ cs, entriesForm layout level entries = .ok cs
  | [], _ => ⟨_, rfl⟩
  | (key, v) :: rest, formed => by
      obtain ⟨name, named⟩ := formed.1
      obtain ⟨value, first⟩ := formed_value layout level v formed.2.1
      obtain ⟨tail, others⟩ := formed_entries layout level rest formed.2.2
      exact ⟨_, by rw [entriesForm, named, first, others]; rfl⟩

end

theorem formed_written (layout : Layout) {v : Value} (formed : Formed v) : ∃ s, render layout v = .ok s := by
  obtain ⟨cs, form⟩ := formed_value layout 0 v formed
  exact ⟨String.ofList cs, by rw [render, form]; rfl⟩

mutual

theorem plain_formed : (v : Value) → Plain v → Formed v
  | .null, _ | .bool _, _ | .str _, _ => trivial
  | .int _, readable => readable
  | .list items, plain => plain_items_formed items plain
  | .map entries, plain => plain_entries_formed entries plain.1

theorem plain_items_formed : (items : List Value) → PlainItems items → FormedItems items
  | [], _ => trivial
  | v :: rest, plain => ⟨plain_formed v plain.1, plain_items_formed rest plain.2⟩

theorem plain_entries_formed : (entries : List (Value × Value)) → PlainEntries entries → FormedEntries entries
  | [], _ => trivial
  | (key, v) :: rest, plain => by
      obtain ⟨⟨name, rfl⟩, first, others⟩ := plain
      exact ⟨⟨name, rfl⟩, plain_formed v first, plain_entries_formed rest others⟩

end

end ApiStubs.Json
