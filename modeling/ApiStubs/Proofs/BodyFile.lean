import ApiStubs.Proofs.StubDocument

/- Body files. What one holds is the text of its body, indented by two blanks a level; decoding and reading the file
   gives the body back. -/

set_option autoImplicit false

namespace ApiStubs

namespace Json

mutual

-- As `Plain`, with whole numbers of any length.
def Whole : Value → Prop
  | .null => True
  | .bool _ => True
  | .int _ => True
  | .str _ => True
  | .list items => WholeItems items
  | .map entries => WholeEntries entries ∧ (entries.map (·.1)).Nodup
  | _ => False

def WholeItems : List Value → Prop
  | [] => True
  | v :: rest => Whole v ∧ WholeItems rest

def WholeEntries : List (Value × Value) → Prop
  | [] => True
  | (key, v) :: rest => (∃ name, key = .str name) ∧ Whole v ∧ WholeEntries rest

end

theorem integer_text_ok {n : Int} {s : String} (written : integerText n = .ok s) : Readable n := by
  unfold integerText at written
  split at written
  · next readable => exact readable
  · cases written

mutual

-- A number that is too long to be read back is not written in the first place.
theorem plain_of_form (layout : Layout) (level : Nat) :
    (v : Value) → (cs : List Char) → Whole v → valueForm layout level v = .ok cs → Plain v
  | .null, _, _, _ | .bool _, _, _, _ | .str _, _, _, _ => by simp only [Plain]
  | .int n, cs, _, form => by
      rw [valueForm, except_map_ok] at form
      obtain ⟨s, written, -⟩ := form
      rw [Plain]
      exact integer_text_ok written
  | .list items, cs, whole, form => by
      rw [valueForm, except_map_ok] at form
      obtain ⟨body, inside, -⟩ := form
      rw [Whole] at whole
      rw [Plain]
      exact plain_of_items_form layout (level + 1) items body whole inside
  | .map entries, cs, whole, form => by
      rw [valueForm, except_map_ok] at form
      obtain ⟨body, inside, -⟩ := form
      rw [Whole] at whole
      rw [Plain]
      exact ⟨plain_of_entries_form layout (level + 1) entries body whole.1 inside, whole.2⟩
  | .float _, _, whole, _ | .date _, _, whole, _ | .dateTime _, _, whole, _ | .bytes _, _, whole, _
  | .set _, _, whole, _ | .tuple _, _, whole, _ => by simp [Whole] at whole

theorem plain_of_items_form (layout : Layout) (level : Nat) :
    (items : List Value) → (cs : List Char) → WholeItems items → itemsForm layout level items = .ok cs →
      PlainItems items
  | [], _, _, _ => by rw [PlainItems]; trivial
  | v :: rest, cs, whole, form => by
      simp only [itemsForm, except_bind_ok] at form
      obtain ⟨head, first, tail, others, -⟩ := form
      rw [WholeItems] at whole
      rw [PlainItems]
      exact ⟨plain_of_form layout level v head whole.1 first,
        plain_of_items_form layout level rest tail whole.2 others⟩

theorem plain_of_entries_form (layout : Layout) (level : Nat) :
    (entries : List (Value × Value)) → (cs : List Char) → WholeEntries entries →
      entriesForm layout level entries = .ok cs → PlainEntries entries
  | [], _, _, _ => by rw [PlainEntries]; trivial
  | (key, v) :: rest, cs, whole, form => by
      simp only [entriesForm, except_bind_ok] at form
      obtain ⟨name, -, value, first, tail, others, -⟩ := form
      rw [WholeEntries] at whole
      rw [PlainEntries]
      exact ⟨whole.1, plain_of_form layout level v value whole.2.1 first,
        plain_of_entries_form layout level rest tail whole.2.2 others⟩

end

end Json

namespace BodyFile

theorem filed_decodes {name : String} {v : Value} {file : BodyFile} (whole : Json.Whole v)
    (filed : ofValue name v = .ok file) :
    ∃ text, String.fromUTF8? file.content = some text ∧ Json.read text = .ok v := by
  unfold ofValue at filed
  split at filed
  · next s rendered =>
      obtain ⟨cs, form, rfl⟩ := (except_map_ok _ _ _).mp rendered
      obtain ⟨text, written, read⟩ := Json.written_alone .document v (Json.plain_of_form _ _ _ _ whole form)
      have same : text = String.ofList cs := by
        have again := Json.render_of_write written
        rw [rendered] at again
        exact (Except.ok.inj again).symm
      cases filed
      exact ⟨text, by rw [same]; exact Source.encoded_decodes _, read⟩
  · cases filed

theorem content_decodes (name : String) (v : Value) (plain : Json.Plain v) :
    ∃ file text, ofValue name v = .ok file ∧ file.name = name ∧ String.fromUTF8? file.content = some text ∧
      Source.textOf? file.content = some text ∧ Json.read text = .ok v ∧
      ∀ before c after, text.toList = before ++ c :: after → Json.Indented 2 (Json.spotAfter before) c after := by
  obtain ⟨text, written, read⟩ := Json.written_alone .document v plain
  have unreturned : '\r' ∉ text.toList := fun member =>
    absurd (Json.written_printed .document v plain text written '\r' member) (by decide)
  refine ⟨⟨name, text.toUTF8⟩, text, ?_, rfl, Source.encoded_decodes text,
    Source.text_of_encoded text unreturned, read, ?_⟩
  · rw [ofValue, Json.render_of_write written]
  · exact Json.written_obeys (Json.layout_indented rfl) plain written

def sampleBody : Value :=
  .map [(.str "name", .str "Zoë\n"), (.str "tags", .list [.int (-12), .list [], .null])]

theorem sample_body_decodes :
    Json.Plain sampleBody ∧ ∃ file text, ofValue "pet.json" sampleBody = .ok file ∧
      String.fromUTF8? file.content = some text ∧ Json.read text = .ok sampleBody ∧
      text = "\x7b\n  \"name\": \"Zoë\\n\",\n  \"tags\": [\n    -12,\n    [],\n    null\n  ]\n\x7d" := by
  have readable : Json.Readable (-12) := by decide
  have plain : Json.Plain sampleBody := by
    simp [sampleBody, Json.Plain, Json.PlainEntries, Json.PlainItems, readable]
  have written : Json.write .document sampleBody =
      some "\x7b\n  \"name\": \"Zoë\\n\",\n  \"tags\": [\n    -12,\n    [],\n    null\n  ]\n\x7d" := by
    decide +kernel
  obtain ⟨file, text, filed, -, decoded, -, read, -⟩ := content_decodes "pet.json" sampleBody plain
  refine ⟨plain, file, text, filed, decoded, read, ?_⟩
  rw [ofValue, Json.render_of_write written] at filed
  cases filed
  rw [Source.encoded_decodes] at decoded
  exact (Option.some.inj decoded).symm

end BodyFile

end ApiStubs
