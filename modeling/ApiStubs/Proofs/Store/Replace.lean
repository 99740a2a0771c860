import ApiStubs.Proofs.Ran
import ApiStubs.Store.Replace

/- Replacing a file puts the content under its path. The draft is a place where nothing was and the target is no
   directory, so that the directories a path is followed through stay where they are. -/

set_option autoImplicit false

namespace ApiStubs.Store

theorem ran_lift {α : Type} (result : Except FileFault α) (a : α) (s s' : Store) :
    Ran (lift result) s a s' ↔ result = .ok a ∧ s = s' :=
  ran_result result a s s'

theorem ran_perform (disturbance : Disturbance) (operation : Operation) (s s' : Store) (u : Unit) :
    Ran (perform disturbance operation) s u s' ↔ disturbance operation = none ∧ operation.apply s = .ok s' := by
  unfold perform
  cases disturbed : disturbance operation with
  | some fault => simp [ran_bind, ran_throw]
  | none =>
      simp only [ran_bind, ran_get, ran_lift, ran_set, true_and]
      constructor
      · rintro ⟨_, _, ⟨rfl, rfl⟩, after, _, ⟨applied, rfl⟩, rfl⟩
        exact applied
      · intro applied
        exact ⟨s, s, ⟨rfl, rfl⟩, s', s, ⟨applied, rfl⟩, rfl⟩

theorem create_at_ok (s s' : Store) (place : Place) (node : Node) :
    createAt s place node = .ok s' ↔
      nameFits (place.getLastD "") = true ∧ s.node place = none ∧ s' = s.put place node := by
  unfold createAt
  cases nameFits (place.getLastD "") <;> cases s.node place <;> simp [eq_comm]

theorem rename_to_ok (s s' : Store) (source target : Place) :
    renameTo s source target = .ok s' ↔
      s.node target ≠ some .directory ∧
        ∃ node, s.node source = some node ∧ s' = (s.erase source).put target node := by
  unfold renameTo
  split
  · next found => split <;> simp [found]
  · next missing =>
    cases s.node source with
    | none => simp
    | some node => simpa [eq_comm] using fun _ => missing

-- A draft with the content has taken the place of the target.
def swapped (s : Store) (draft target : Place) (content : ByteArray) : Store :=
  ((s.put draft (.file content)).erase draft).put target (.file content)

theorem ran_finish (disturbance : Disturbance) (draft target : Place) (content : ByteArray) (s s' : Store) (u : Unit)
    (named : draft ≠ []) (done : Ran (finish disturbance draft target content) s u s') :
    (s.put draft (.file content)).node target ≠ some .directory ∧ s' = s.swapped draft target content := by
  unfold finish at done
  simp only [ran_bind, ran_perform, Operation.apply, Except.ok.injEq] at done
  obtain ⟨_, _, ⟨-, rfl⟩, _, _, ⟨-, rfl⟩, -, renamed⟩ := done
  obtain ⟨free, node, held, rfl⟩ := (rename_to_ok _ _ _ _).mp renamed
  rw [node_put_self _ _ _ named] at held
  cases held
  exact ⟨free, rfl⟩

-- What a store holds after a draft in it took the place of the target.
structure Replaced (s : Store) (draft target : Place) (content : ByteArray) (s' : Store) : Prop where
  vacant : s.node draft = none
  noDirectory : s.node target ≠ some .directory
  held : s'.node target = some (.file content)
  others : ∀ place, place ≠ draft → place ≠ target → s'.node place = s.node place

theorem node_root (s : Store) : s.node [] = some .directory :=
  rfl

theorem vacant_named {s : Store} {place : Place} (vacant : s.node place = none) : place ≠ [] := by
  rintro rfl
  rw [node_root] at vacant
  cases vacant

theorem swapped_replaces {s : Store} {draft target : Place} {content : ByteArray} (vacant : s.node draft = none)
    (free : ((s.put draft (.file ⟨#[]⟩)).put draft (.file content)).node target ≠ some .directory) :
    Replaced s draft target content ((s.put draft (.file ⟨#[]⟩)).swapped draft target content) := by
  have targetNamed : target ≠ [] := by
    rintro rfl
    exact free (node_root _)
  refine ⟨vacant, ?_, node_put_self _ _ _ targetNamed, ?_⟩
  · by_cases same : target = draft
    · simp [same, vacant]
    · rwa [node_put_other _ _ _ _ same, node_put_other _ _ _ _ same] at free
  · intro place notDraft notTarget
    rw [swapped, node_put_other _ _ _ _ notTarget, node_erase_other _ _ _ notDraft, node_put_other _ _ _ _ notDraft,
      node_put_other _ _ _ _ notDraft]

theorem finish_replaces (disturbance : Disturbance) (draft target : Place) (content : ByteArray) (s s' : Store)
    (u : Unit) (vacant : s.node draft = none)
    (done : Ran (finish disturbance draft target content) (s.put draft (.file ⟨#[]⟩)) u s') :
    Replaced s draft target content s' := by
  obtain ⟨free, rfl⟩ := ran_finish disturbance draft target content _ s' u (vacant_named vacant) done
  exact swapped_replaces vacant free

theorem replace_replaces (disturbance : Disturbance) (directory : Place) (p : Path) (content : ByteArray)
    (s s' : Store) (u : Unit) (done : Ran (replace disturbance directory p content) s u s') :
    ∃ ready draft target, Ran (makeDirectories disturbance directory p.parent) s () ready ∧
      ready.locate directory p = .ok target ∧ Replaced ready draft target content s' := by
  unfold replace at done
  simp only [ran_bind, ran_get, ran_lift, ran_perform, ran_catch] at done
  obtain ⟨_, ready, made, _, _, ⟨rfl, rfl⟩, folder, _, ⟨-, rfl⟩, target, _, ⟨located, rfl⟩, _, opened,
    ⟨-, created⟩, finished⟩ := done
  obtain ⟨-, vacant, rfl⟩ := (create_at_ok _ _ _ _).mp created
  rcases finished with finished | ⟨fault, _, -, _, _, -, thrown⟩
  · exact ⟨_, _, target, made, located, finish_replaces disturbance _ target content _ s' u vacant finished⟩
  -- The handler throws again, so that no run ends well through it.
  · exact absurd thrown (ran_throw fault u _ s')

-- Following enters directories only; what is at the end of the path is not looked at.
theorem follow_kept (s s' : Store)
    (kept : ∀ place, s.node place = some .directory → s'.node place = some .directory)
    (names : List String) (here place : Place) (found : s.follow here names = .ok place) :
    s'.follow here names = .ok place := by
  induction names generalizing here with
  | nil => exact found
  | cons name rest ih =>
      rw [follow] at found ⊢
      split at found
      · cases found
      · cases found
      · next entered =>
        rw [kept here entered]
        split at found
        · next up =>
          simp only [if_pos up]
          exact ih here.dropLast found
        · next down =>
          split at found
          · next fits =>
            simp only [if_neg down, if_pos fits]
            exact ih (here ++ [name]) found
          · cases found

theorem replaced_directories {s s' : Store} {draft target : Place} {content : ByteArray}
    (replaced : Replaced s draft target content s') (place : Place) (directory : s.node place = some .directory) :
    s'.node place = some .directory := by
  have notDraft : place ≠ draft := by
    rintro rfl
    rw [replaced.vacant] at directory
    cases directory
  have notTarget : place ≠ target := by
    rintro rfl
    exact replaced.noDirectory directory
  rw [replaced.others place notDraft notTarget, directory]

theorem replace_read (disturbance : Disturbance) (directory : Place) (p : Path) (content : ByteArray)
    (s s' : Store) (u : Unit) (done : Ran (replace disturbance directory p content) s u s') :
    s'.read directory p = .ok content := by
  obtain ⟨ready, draft, target, -, located, replaced⟩ :=
    replace_replaces disturbance directory p content s s' u done
  have found : s'.locate directory p = .ok target :=
    follow_kept ready s' (replaced_directories replaced) _ _ target located
  simp only [read, stat, found, replaced.held]

end ApiStubs.Store
