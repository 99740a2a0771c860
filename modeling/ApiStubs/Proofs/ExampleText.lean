import ApiStubs.Proofs.JsonCharacters
import ApiStubs.Proofs.PathTemplate.Fill

/- What a structured example puts into a URL pattern or a header: its value as JSON, from which the value is read
   back, in printable ASCII and without blanks but those of its texts. -/

set_option autoImplicit false

namespace ApiStubs.Parameter

open ApiStubs.Json

theorem text_of_structured {v : Value} {text : String} (plain : Plain v) (structured : ∀ s, v ≠ .str s)
    (rendered : render .inline v = .ok text) : exampleText v = .ok text := by
  unfold exampleText
  split
  · exact absurd rfl (structured _)
  · simp [Plain] at plain
  · simp [Plain] at plain
  · rw [rendered]

theorem structured_example_text (v : Value) (plain : Plain v) (structured : ∀ s, v ≠ .str s) :
    ∃ text, exampleText v = .ok text ∧ Json.read text = .ok v ∧
      (∀ before c after, text.toList = before ++ c :: after →
        (0x20 ≤ c.toNat ∧ c.toNat ≤ 0x7E) ∧ ((spotAfter before).quoting = .outside → isSpace c = false)) ∧
      (v ≠ .null → ∀ settings, textOrPlaceholder settings (some v) = .ok text ∧
        ∀ document param name, exampleOf settings document param = .ok (some v) →
          PathTemplate.filling settings document param name = .ok text.toList) := by
  obtain ⟨text, written, read⟩ := written_alone .inline v plain
  have told : exampleText v = .ok text := text_of_structured plain structured (render_of_write written)
  refine ⟨text, told, read, written_obeys (layout_compact rfl rfl) plain written, fun given settings => ⟨?_, ?_⟩⟩
  · cases v with
    | null => exact absurd rfl given
    | _ => exact told
  · intro document param name found
    rw [PathTemplate.filling_declared found given, told]
    rfl

def sampleExample : Value :=
  .map [(.str "wer?", .str "Zoë 😀\n"), (.str "ids", .list [.int (-7), .null, .bool true, .map []])]

theorem sample_example_text :
    Plain sampleExample ∧ (∀ s, sampleExample ≠ .str s) ∧
      ∃ text, exampleText sampleExample = .ok text ∧ Json.read text = .ok sampleExample ∧
        text = "\x7b\"wer?\":\"Zo\\u00eb \\ud83d\\ude00\\n\",\"ids\":[-7,null,true,\x7b\x7d]\x7d" := by
  have readable : Readable (-7) := by decide
  have plain : Plain sampleExample := by
    simp [sampleExample, Plain, PlainEntries, PlainItems, readable]
  have structured : ∀ s, sampleExample ≠ .str s := by simp [sampleExample]
  obtain ⟨text, told, read, -⟩ := structured_example_text sampleExample plain structured
  have written : exampleText sampleExample =
      .ok "\x7b\"wer?\":\"Zo\\u00eb \\ud83d\\ude00\\n\",\"ids\":[-7,null,true,\x7b\x7d]\x7d" := by
    decide +kernel
  exact ⟨plain, structured, text, told, read, Except.ok.inj (told.symm.trans written)⟩

end ApiStubs.Parameter
