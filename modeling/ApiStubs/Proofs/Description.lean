import Mathlib
import ApiStubs.Description
import ApiStubs.Proofs.JsonConsumed
import ApiStubs.Proofs.Yaml.Node
import ApiStubs.Proofs.Yaml.Value

/- What comes of reading a description. A text gives an object or an error that is reported, unless something is
   wrong with a single value in it: a whole number that is too long in JSON, or a scalar in YAML. -/

set_option autoImplicit false

namespace ApiStubs

namespace Yaml

-- The tokens of the text end with the fault, or a scalar of its document has a tag that promises something else
-- than its text.
def Broken (text : String) (fault : Fault) : Prop :=
  (Token.ofText text.toList).2 = some fault ∨
    ∃ root inner, Node.ofText text.toList = .ok (some root) ∧ Within root inner ∧ Promises (tagOf inner) ∧
      scalarValue inner = .error fault

theorem read_reads (text : String) (root : Node) (made : Node.ofText text.toList = .ok (some root)) :
    Returns (fun _ => True) (Faulty root) (read text) := by
  have covered : AllCovered root [root] := by simpa [AllCovered] using covers_self root
  have levels := check_levels_reads root (text.toList.length + 2) [root] covered
  have value := value_reads root (text.toList.length + 2) root (covers_self root)
  unfold read
  rw [made]
  change Returns _ _ (if isCollection root = true then checkLevels _ _ >>= fun _ => valueOf _ _ else valueOf _ _)
  split
  · exact returns_bind levels fun _ _ => value
  · exact value

theorem read_broken (text : String) (fault : Fault) (failure : read text = .error fault)
    (wellFormed : fault ≠ .malformed) : Broken text fault := by
  cases made : Node.ofText text.toList with
  | error e =>
      simp only [read, made] at failure
      cases failure
      exact .inl (node_of_text_fault text.toList fault made wellFormed)
  | ok node =>
      cases node with
      | none =>
          simp only [read, made] at failure
          cases failure
      | some root =>
          obtain ⟨inner, within, promises, fails⟩ :=
            (returns_known (read_reads text root made) failure).resolve_left wellFormed
          exact .inr ⟨root, inner, made, within, promises, fails⟩

end Yaml

namespace Description

-- How reading a text as a description ends.
inductive Ends (form : Form) (content : String) : Except Error Entries → Prop where
  | object (document : Entries) : Ends form content (.ok document)
  | reported {e : Error} (category : e.category = some .description) : Ends form content (.error e)
  | oversized (asJson : form ≠ .yaml) {run : List Char} (within : run <:+: content.toList)
      (digits : ∀ c ∈ run, Json.isDigit c = true) (long : Decimal.digitLimit < run.length) :
      Ends form content (.error (.defect .oversized))
  | broken (asYaml : form ≠ .json) {fault : Yaml.Fault} (wellFormed : fault ≠ .malformed)
      (broken : Yaml.Broken content fault) : Ends form content (.error (.defect (.scalar fault)))

variable {form : Form} {content : String}

theorem object_ends (v : Value) : Ends form content (requireObject v) := by
  unfold requireObject
  split
  · exact .object _
  · exact .reported rfl
  · exact .reported rfl

theorem yaml_ends (asYaml : form ≠ .json) (notes : List String) : Ends form content (readYaml notes content) := by
  unfold readYaml
  split
  · exact object_ends _
  · exact .reported rfl
  · next fault wellFormed failure =>
      exact .broken asYaml wellFormed (Yaml.read_broken content fault failure wellFormed)

theorem parse_ends (form : Form) (content : String) : Ends form content (parse form content) := by
  unfold parse
  by_cases asYaml : form = .yaml
  · subst asYaml
    exact yaml_ends (by simp) []
  · rw [if_neg asYaml]
    split
    · exact object_ends _
    · next count failure =>
        obtain ⟨long, run, within, length, digits⟩ := Json.read_oversized content count failure
        exact .oversized asYaml within digits (length ▸ long)
    · by_cases asJson : form = .json
      · simp only [if_pos asJson]
        exact .reported rfl
      · simp only [if_neg asJson]
        exact yaml_ends asJson _

theorem impossible_month_unreported :
    ¬ ((∃ document, parse .yaml "a: 2024-13-45\n" = .ok document) ∨
      ∃ e, parse .yaml "a: 2024-13-45\n" = .error e ∧ e.category = some .description) := by
  have run : parse .yaml "a: 2024-13-45\n" = .error (.defect (.scalar .badValue)) := by cbv
  rw [run]
  rintro (⟨document, read⟩ | ⟨e, failed, category⟩)
  · cases read
  · cases failed
    cases category

end Description

end ApiStubs
