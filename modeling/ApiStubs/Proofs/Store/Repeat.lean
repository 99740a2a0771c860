import ApiStubs.Proofs.Store.Atomic

/- Replacing a file more than once. Whether a file in a directory that is there can be replaced depends on all but what
   the file holds, so that what was replaced once can be replaced again, with any content. -/

set_option autoImplicit false

namespace ApiStubs.Store

variable {directory place : Place} {p : Path} {content : ByteArray} {s t u : Store}

-- Two stores that differ at most in the file at a place.
structure Beside (place : Place) (s t : Store) : Prop where
  others : ∀ other, other ≠ place → t.node other = s.node other
  directory : t.node place = some .directory ↔ s.node place = some .directory

theorem beside_directory (beside : Beside place s t) (other : Place) :
    t.node other = some .directory ↔ s.node other = some .directory := by
  by_cases same : other = place
  · rw [same]
    exact beside.directory
  · rw [beside.others other same]

theorem beside_symm (beside : Beside place s t) : Beside place t s where
  others := fun other different => (beside.others other different).symm
  directory := beside.directory.symm

theorem beside_locate (beside : Beside place s t) {reached : Place} (located : s.locate directory p = .ok reached) :
    t.locate directory p = .ok reached :=
  follow_kept s t (fun other held => (beside_directory beside other).mpr held) _ _ _ located

theorem beside_there (beside : Beside place s t) (there : s.stat directory p = .ok .directory) :
    t.stat directory p = .ok .directory := by
  obtain ⟨folder, located, held⟩ := (stat_iff ..).mp there
  exact (stat_iff ..).mpr ⟨folder, beside_locate beside located, (beside_directory beside folder).mpr held⟩

-- The draft has the first name that is not taken.
theorem draft_first (s : Store) (directory : Place) (name : String) :
    ∃ k, draftFor s directory name = directory ++ [draftName name k] ∧
      s.node (directory ++ [draftName name k]) = none ∧
      ∀ j < k, (s.node (directory ++ [draftName name j])).isSome = true := by
  obtain ⟨k, -, named, taken, -⟩ := free_draft_first s directory name s.nodes.length 0
  obtain ⟨n, -, own, vacant⟩ := draft_vacant s directory name
  simp only [Nat.zero_add] at named taken
  have same : draftFor s directory name = directory ++ [draftName name k] := named
  exact ⟨k, same, by rwa [← same, own], taken⟩

theorem draft_same {name : String}
    (same : ∀ n, t.node (directory ++ [draftName name n]) = s.node (directory ++ [draftName name n])) :
    draftFor t directory name = draftFor s directory name := by
  obtain ⟨k, own, vacant, taken⟩ := draft_first s directory name
  obtain ⟨l, other, free, used⟩ := draft_first t directory name
  have here : k = l := by
    rcases Nat.lt_trichotomy k l with before | equal | after
    · have busy := used k before
      rw [same, vacant] at busy
      cases busy
    · exact equal
    · have busy := taken l after
      rw [← same, free] at busy
      cases busy
  rw [own, other, here]

theorem draft_name_other (name : String) (n : Nat) : draftName name n ≠ name := by
  intro same
  have long := congrArg (fun text => text.toList.length) same
  simp [draftName] at long
  omega

section

variable {q : Path} {name : String}

theorem child_parent (q : Path) (file : FileName name) : (q.child name).parent = q := by
  simp [Path.child_step q file.step, Path.parent]

theorem replace_beside (file : FileName name) (there : s.stat directory q = .ok .directory)
    (done : Ran (replace undisturbed directory (q.child name) content) s () t) :
    Beside (placeOf directory (q.child name)) s t := by
  rw [← child_parent q file] at there
  obtain ⟨folder, target, -, located, -, free, rfl⟩ := (ran_replace_there there).mp done
  rw [← locate_place _ _ _ _ located]
  obtain ⟨n, -, own, vacant⟩ := draft_vacant s folder (q.child name).name
  rw [← own] at vacant
  have replaced := swapped_replaces vacant ((draft_free content vacant).mpr free)
  constructor
  · intro other different
    by_cases drafted : other = draftFor s folder (q.child name).name
    · subst drafted
      rw [swapped, node_put_other _ _ _ _ different, node_erase_self _ _ (vacant_named vacant), vacant]
    · exact replaced.others other drafted different
  · exact ⟨fun held => by simp [replaced.held] at held, fun held => absurd held free⟩

theorem replace_repeats (file : FileName name) (there : s.stat directory q = .ok .directory)
    (beside : Beside (placeOf directory (q.child name)) s t) (other : ByteArray)
    (done : Ran (replace undisturbed directory (q.child name) content) s () u) :
    ∃ v, Ran (replace undisturbed directory (q.child name) other) t () v := by
  have parent := child_parent q file
  have own : s.stat directory (q.child name).parent = .ok .directory := by rwa [parent]
  obtain ⟨folder, target, entered, located, fits, free, -⟩ := (ran_replace_there own).mp done
  have place : target = folder ++ [name] := by
    rw [locate_place _ _ _ _ located, place_child _ _ file, ← parent, ← locate_place _ _ _ _ entered]
  have draft : draftFor t folder (q.child name).name = draftFor s folder (q.child name).name := by
    refine draft_same fun n => beside.others _ fun same => ?_
    rw [← locate_place _ _ _ _ located, place, Path.child_name q file.step, List.append_right_inj,
      List.singleton_inj] at same
    exact draft_name_other name n same
  have unbarred : t.node target ≠ some .directory := mt (beside_directory beside target).mp free
  exact ⟨_, (ran_replace_there (beside_there beside own)).mpr ⟨folder, target, beside_locate beside entered,
    beside_locate beside located, draft ▸ fits, unbarred, rfl⟩⟩

end

end ApiStubs.Store
