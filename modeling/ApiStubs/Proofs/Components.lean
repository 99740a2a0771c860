import ApiStubs.Proofs.Below

/- References into the components of a description. Such a reference reads nothing of a description but what stands
   under `components`, and what it leads to stands there as well, so that its own references lead there too. -/

set_option autoImplicit false

namespace ApiStubs

def PointsIntoComponents (v : Value) : Prop :=
  ∀ node pointer, Below v node → node.reference? = some pointer →
    ∃ rest, pointer = .str ("#/components/" ++ rest)

namespace Pointer

theorem components_segments (rest : List Char) :
    segments ("/components/".toList ++ rest) =
      "components" :: (Text.splitOn '/' rest).map fun part => String.ofList (unescape part) := by
  have front : ("/components/".toList ++ rest).dropWhile (· == '/') = "components".toList ++ '/' :: rest := by
    have text : "/components/".toList = '/' :: "components".toList ++ ['/'] := by decide
    rw [text]
    simp
  have parts := Text.split_on_part '/' "components".toList rest (by decide)
  have name : String.ofList (unescape "components".toList) = "components" := by decide
  unfold segments
  rw [front]
  split
  · next empty => cases List.append_eq_nil_iff.mp empty |>.1
  · rw [parts, List.map_cons, name]

theorem lookup_components (document : Entries) (rest : String) :
    lookup (.map document) (.str ("#/components/" ++ rest)) =
      walk ("#/components/" ++ rest) (.map document)
        ("components" :: (Text.splitOn '/' rest.toList).map fun part => String.ofList (unescape part)) := by
  have front : ("#/components/" ++ rest).toList = '#' :: ("/components/".toList ++ rest.toList) := by
    have text : "#/components/".toList = '#' :: "/components/".toList := by decide
    rw [String.toList_append, text, List.cons_append]
  simp only [lookup, front, components_segments]

theorem lookup_components_same (document changed : Entries) (rest : String)
    (same : document.get? "components" = changed.get? "components") :
    lookup (.map document) (.str ("#/components/" ++ rest)) =
      lookup (.map changed) (.str ("#/components/" ++ rest)) := by
  rw [lookup_components, lookup_components]
  simp only [walk, step?, same]

end Pointer

theorem points_below (v node : Value) (inside : PointsIntoComponents v) (below : Below v node) :
    PointsIntoComponents node :=
  fun inner pointer further reference => inside inner pointer (below_trans v node inner below further) reference

def isComponentPointer : Value → Bool
  | .str s => "#/components/".toList.isPrefixOf s.toList
  | _ => false

theorem is_component_pointer_iff (pointer : Value) :
    isComponentPointer pointer = true ↔ ∃ rest, pointer = .str ("#/components/" ++ rest) := by
  cases pointer with
  | str s =>
      simp only [isComponentPointer, List.isPrefixOf_iff_prefix, Value.str.injEq]
      constructor
      · rintro ⟨rest, same⟩
        refine ⟨String.ofList rest, String.toList_inj.mp ?_⟩
        rw [String.toList_append, ← same, @String.toList_ofList rest]
      · rintro ⟨rest, rfl⟩
        exact ⟨rest.toList, by rw [String.toList_append]⟩
  | _ => simp [isComponentPointer]

theorem points_iff (v : Value) :
    everyMapping (fun entries => (entries.get? "$ref").all isComponentPointer) v = true ↔
      PointsIntoComponents v := by
  simp only [every_mapping_iff, Option.all_eq_true, is_component_pointer_iff]
  constructor
  · intro each node pointer below reference
    cases node with
    | map entries => exact each entries below pointer reference
    | _ => cases reference
  · intro inside entries below pointer reference
    exact inside (.map entries) pointer below reference

instance (v : Value) : Decidable (PointsIntoComponents v) :=
  decidable_of_iff _ (points_iff v)

namespace Reference

open Value (follow resolve resolved)

-- By induction on the hops: a chain that begins in the components never leaves them.
theorem follow_components_same (document changed : Entries) (pointer : Value) (bound : Int) (hops : Nat)
    (inside : PointsIntoComponents (.map document)) (same : document.get? "components" = changed.get? "components")
    (begins : ∃ rest, pointer = .str ("#/components/" ++ rest)) :
    follow (.map document) bound hops pointer = follow (.map changed) bound hops pointer := by
  induction hops generalizing pointer with
  | zero => rfl
  | succ hops ih =>
      obtain ⟨rest, rfl⟩ := begins
      have lookups := Pointer.lookup_components_same document changed rest same
      cases found : Pointer.lookup (.map document) (.str ("#/components/" ++ rest)) with
      | error e => rw [follow_unfound _ _ _ _ _ found, follow_unfound _ _ _ _ _ (lookups ▸ found)]
      | ok target =>
          cases points : target.reference? with
          | none => rw [follow_end _ _ _ _ _ found points, follow_end _ _ _ _ _ (lookups ▸ found) points]
          | some next =>
              rw [follow_reference _ _ _ _ _ _ found points,
                follow_reference _ _ _ _ _ _ (lookups ▸ found) points]
              exact ih next (inside target next (Pointer.lookup_below _ _ _ found) points)

theorem resolved_components_same (document changed : Entries) (v : Value) (bound : Int)
    (inside : PointsIntoComponents (.map document)) (same : document.get? "components" = changed.get? "components")
    (known : PointsIntoComponents v) :
    resolved (.map document) bound v = resolved (.map changed) bound v := by
  unfold resolved
  cases points : v.reference? with
  | none => rfl
  | some pointer =>
      exact follow_components_same document changed pointer bound _ inside same (known v pointer .self points)

theorem resolved_points (document : Entries) (v node : Value) (bound : Int)
    (inside : PointsIntoComponents (.map document)) (known : PointsIntoComponents v)
    (success : resolved (.map document) bound v = .ok node) : PointsIntoComponents node := by
  rcases resolved_below _ _ _ _ success with rfl | below
  · exact known
  · exact points_below _ _ inside below

end Reference

end ApiStubs
