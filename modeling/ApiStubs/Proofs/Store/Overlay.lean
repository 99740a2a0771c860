import ApiStubs.Proofs.Ends
import ApiStubs.Proofs.Store.Tree

/- What replacing a file does to a store as a whole. When it goes well, the store is the one before with the content
   laid over it, and with the directories that were missing on the way. When it does not, only such directories are
   new, since the draft is removed again. -/

set_option autoImplicit false

namespace ApiStubs.Store

-- The places that a path leads through or to.
def OnWay (directory : Place) (p : Path) (place : Place) : Prop :=
  ∃ parts, parts <+: p.parts ∧ place = placeOf directory ⟨p.root, parts⟩

-- Directories are new at some places where nothing was.
def Grown (ways : Place → Prop) (s t : Store) : Prop :=
  ∀ place, t.node place = s.node place ∨
    (s.node place = none ∧ t.node place = some .directory ∧ ways place)

theorem grown_refl (ways : Place → Prop) (s : Store) : Grown ways s s :=
  fun _ => .inl rfl

theorem grown_imp {ways more : Place → Prop} {s t : Store} (grown : Grown ways s t)
    (implies : ∀ place, ways place → more place) : Grown more s t :=
  fun place => (grown place).imp_right fun ⟨vacant, made, way⟩ => ⟨vacant, made, implies place way⟩

theorem grown_trans {ways : Place → Prop} {s t u : Store} (first : Grown ways s t) (second : Grown ways t u) :
    Grown ways s u := by
  intro place
  rcases second place with same | ⟨vacant, made, way⟩
  · rw [same]
    exact first place
  · rcases first place with before | ⟨-, earlier, -⟩
    · exact .inr ⟨before ▸ vacant, made, way⟩
    · rw [vacant] at earlier
      cases earlier

theorem grown_kept {ways : Place → Prop} {s t : Store} (grown : Grown ways s t) {place : Place} {node : Node}
    (held : s.node place = some node) : t.node place = some node := by
  rcases grown place with same | ⟨vacant, -, -⟩
  · rw [same, held]
  · rw [held] at vacant
    cases vacant

-- The places that an operation may change although it fails.
def Operation.writes (operation : Operation) (place : Place) : Prop :=
  ∃ content, operation = .write place content

theorem interrupted_kept (disturbance : Disturbance) (operation : Operation) (s : Store) {place : Place}
    (other : ¬ operation.writes place) : (operation.interrupted disturbance s).node place = s.node place := by
  cases operation with
  | write draft content =>
      have different : place ≠ draft := by
        rintro rfl
        exact other ⟨content, rfl⟩
      exact node_put_other _ _ _ _ different
  | _ => rfl

theorem perform_ends (disturbance : Disturbance) (operation : Operation) (s : Store) :
    Ends (perform disturbance operation) s (fun _ t => operation.apply s = .ok t)
      (fun _ t => ∀ place, ¬ operation.writes place → t.node place = s.node place) := by
  unfold perform
  cases disturbance operation with
  | some fault => exact ends_modify_bind (ends_throw fun _ => interrupted_kept disturbance operation s)
  | none =>
      refine ends_get_bind (ends_result_bind ?_ fun _ _ _ _ => rfl)
      intro t applied
      exact ends_set applied

theorem make_directory_ends (disturbance : Disturbance) (directory : Place) (p : Path) (s : Store) :
    Ends (makeDirectory disturbance directory p) s (fun _ t => Grown (· = placeOf directory p) s t)
      (fun _ t => Grown (· = placeOf directory p) s t) := by
  unfold makeDirectory
  refine ends_get_bind (ends_result_bind ?_ fun _ _ => grown_refl _ _)
  intro place found
  split
  · exact ends_pure (grown_refl _ _)
  · refine ends_imp (perform_ends disturbance _ _) ?_ fun _ t same place => .inl (same place nofun)
    intro _ t applied
    obtain ⟨-, vacant, rfl⟩ := (create_at_ok _ _ _ _).mp applied
    intro other
    by_cases here : other = place
    · subst here
      exact .inr ⟨vacant, node_put_self _ _ _ (vacant_named vacant), locate_place _ _ _ _ found⟩
    · exact .inl (node_put_other _ _ _ _ here)

theorem make_all_ends (disturbance : Disturbance) (directory : Place) (root : String) (names : List String)
    (s : Store) :
    Ends (makeAll disturbance directory root names) s (fun _ t => Grown (OnWay directory ⟨root, names.reverse⟩) s t)
      (fun _ t => Grown (OnWay directory ⟨root, names.reverse⟩) s t) := by
  induction names generalizing s with
  | nil => exact ends_pure (grown_refl _ _)
  | cons name above ih =>
      have own (before : Store) := make_directory_ends disturbance directory ⟨root, (name :: above).reverse⟩ before
      have whole : ∀ place, place = placeOf directory ⟨root, (name :: above).reverse⟩ →
          OnWay directory ⟨root, (name :: above).reverse⟩ place := fun place same => ⟨_, List.prefix_refl _, same⟩
      have shorter : ∀ place, OnWay directory ⟨root, above.reverse⟩ place →
          OnWay directory ⟨root, (name :: above).reverse⟩ place := by
        rintro place ⟨parts, front, same⟩
        exact ⟨parts, front.trans (by simp), same⟩
      have make (before : Store) := ends_imp (own before) (fun _ _ grown => grown_imp grown whole)
        fun _ _ grown => grown_imp grown whole
      refine ends_catch (make s) fun fault between grown => ?_
      split
      · refine ends_bind (ends_imp (ih between) (fun _ _ more => grown_trans grown (grown_imp more shorter))
          fun _ _ more => grown_trans grown (grown_imp more shorter)) ?_
        intro _ later more
        exact ends_imp (make later) (fun _ _ last => grown_trans more last) fun _ _ last => grown_trans more last
      · exact ends_throw grown

theorem make_directories_ends (disturbance : Disturbance) (directory : Place) (p : Path) (s : Store) :
    Ends (makeDirectories disturbance directory p) s (fun _ t => Grown (OnWay directory p) s t)
      (fun _ t => Grown (OnWay directory p) s t) := by
  have ends := make_all_ends disturbance directory p.root p.parts.reverse s
  rwa [List.reverse_reverse] at ends

-- The handler of a failure finds the draft and nothing else changed.
theorem finish_ends (disturbance : Disturbance) (draft target : Place) (content : ByteArray) (s : Store)
    (named : draft ≠ []) :
    Ends (finish disturbance draft target content) s
      (fun _ t => (s.put draft (.file content)).node target ≠ some .directory ∧
        t = s.swapped draft target content)
      (fun _ t => ∀ place, place ≠ draft → t.node place = s.node place) := by
  have kept : ∀ place, place ≠ draft → (s.put draft (.file content)).node place = s.node place :=
    fun place other => node_put_other _ _ _ _ other
  refine ends_bind (ends_imp (perform_ends disturbance (.write draft content) s) (fun _ _ applied => applied)
    fun _ t same place other => same place ?_) fun _ written applied => ?_
  · rintro ⟨_, writes⟩
    cases writes
    exact other rfl
  cases applied
  refine ends_bind (ends_imp (perform_ends disturbance (.sync draft) _) (fun _ _ applied => applied)
    fun _ t same place other => (same place nofun).trans (kept place other)) fun _ synced applied => ?_
  cases applied
  refine ends_imp (perform_ends disturbance (.rename draft target) _) ?_
    fun _ t same place other => (same place nofun).trans (kept place other)
  intro _ t renamed
  obtain ⟨free, node, held, rfl⟩ := (rename_to_ok _ _ _ _).mp renamed
  rw [node_put_self _ _ _ named] at held
  cases held
  exact ⟨free, rfl⟩

-- Whatever is there stays, except that files may give way at the targets.
def Keeps (targets : Place → Prop) (s t : Store) : Prop :=
  ∀ place node, s.node place = some node → node = .directory ∨ ¬ targets place → t.node place = some node

theorem keeps_refl (targets : Place → Prop) (s : Store) : Keeps targets s s :=
  fun _ _ held _ => held

theorem keeps_trans {targets : Place → Prop} {s t u : Store} (first : Keeps targets s t)
    (second : Keeps targets t u) : Keeps targets s u :=
  fun place node held spared => second place node (first place node held spared) spared

theorem keeps_imp {targets more : Place → Prop} {s t : Store} (keeps : Keeps targets s t)
    (implies : ∀ place, targets place → more place) : Keeps more s t :=
  fun place node held spared => keeps place node held (spared.imp_right fun other target => other (implies place target))

theorem grown_keeps {ways targets : Place → Prop} {s t : Store} (grown : Grown ways s t) : Keeps targets s t :=
  fun _ _ held _ => grown_kept grown held

theorem stat_kept {targets : Place → Prop} {s t : Store} (keeps : Keeps targets s t) {directory : Place} {p : Path}
    {node : Node} (found : s.stat directory p = .ok node) (other : ¬ targets (placeOf directory p)) :
    t.stat directory p = .ok node := by
  obtain ⟨place, located, held⟩ := (stat_iff ..).mp found
  have same : place = placeOf directory p := locate_place _ _ _ _ located
  have directories : ∀ place, s.node place = some .directory → t.node place = some .directory :=
    fun place entered => keeps place .directory entered (.inl rfl)
  refine (stat_iff ..).mpr ⟨place, follow_kept s t directories _ _ place located, ?_⟩
  exact keeps place node held (.inr (same ▸ other))

-- A store with contents laid over it: they are held under their paths, and what is new beside them are directories
-- on the way to them.
structure Overlaid (directory : Place) (written : List (Path × ByteArray)) (s t : Store) : Prop where
  held : ∀ w ∈ written, t.stat directory w.1 = .ok (.file w.2)
  directories : ∀ place, s.node place = some .directory → t.node place = some .directory
  others : ∀ place, (∀ w ∈ written, place ≠ placeOf directory w.1) →
    t.node place = s.node place ∨
      (s.node place = none ∧ t.node place = some .directory ∧ ∃ w ∈ written, OnWay directory w.1.parent place)

theorem overlaid_nothing (directory : Place) (s : Store) : Overlaid directory [] s s where
  held := by simp
  directories := fun _ held => held
  others := fun _ _ => .inl rfl

theorem overlaid_kept {directory : Place} {written : List (Path × ByteArray)} {s t : Store}
    (overlaid : Overlaid directory written s t) {place : Place} {node : Node} (held : s.node place = some node)
    (other : ∀ w ∈ written, place ≠ placeOf directory w.1) : t.node place = some node := by
  rcases overlaid.others place other with same | ⟨vacant, -, -⟩
  · rw [same, held]
  · rw [held] at vacant
    cases vacant

theorem overlaid_keeps {directory : Place} {written : List (Path × ByteArray)} {targets : Place → Prop} {s t : Store}
    (overlaid : Overlaid directory written s t) (within : ∀ w ∈ written, targets (placeOf directory w.1)) :
    Keeps targets s t := by
  intro place node held spared
  rcases spared with rfl | other
  · exact overlaid.directories place held
  · exact overlaid_kept overlaid held fun w member same => other (same ▸ within w member)

theorem overlaid_append {directory : Place} {front back : List (Path × ByteArray)} {s t u : Store}
    (first : Overlaid directory front s t) (second : Overlaid directory back t u)
    (apart : ∀ v ∈ front, ∀ w ∈ back, placeOf directory v.1 ≠ placeOf directory w.1) :
    Overlaid directory (front ++ back) s u where
  held := by
    intro w member
    rcases List.mem_append.mp member with early | late
    · have keeps : Keeps (fun place => placeOf directory w.1 ≠ place) t u := overlaid_keeps second (apart w early)
      exact stat_kept keeps (first.held w early) fun other => other rfl
    · exact second.held w late
  directories := fun place held => second.directories place (first.directories place held)
  others := by
    intro place other
    obtain ⟨early, late⟩ := List.forall_mem_append.mp other
    rcases second.others place late with same | ⟨vacant, made, w, member, way⟩
    · rw [same]
      rcases first.others place early with before | ⟨vacant, made, w, member, way⟩
      · exact .inl before
      · exact .inr ⟨vacant, made, w, List.mem_append_left back member, way⟩
    · rcases first.others place early with before | ⟨-, earlier, -⟩
      · exact .inr ⟨before ▸ vacant, made, w, List.mem_append_right front member, way⟩
      · rw [vacant] at earlier
        cases earlier

theorem swapped_overlays {directory : Place} {p : Path} {content : ByteArray} {s ready : Store} {draft target : Place}
    (grown : Grown (OnWay directory p.parent) s ready) (vacant : ready.node draft = none)
    (located : ready.locate directory p = .ok target)
    (free : ((ready.put draft (.file ⟨#[]⟩)).put draft (.file content)).node target ≠ some .directory) :
    Overlaid directory [(p, content)] s ((ready.put draft (.file ⟨#[]⟩)).swapped draft target content) := by
  have replaced := swapped_replaces vacant free
  have place : target = placeOf directory p := locate_place _ _ _ _ located
  constructor
  · intro w member
    cases List.mem_singleton.mp member
    have found := follow_kept ready _ (replaced_directories replaced) _ _ target located
    exact (stat_iff ..).mpr ⟨target, found, replaced.held⟩
  · exact fun other held => replaced_directories replaced other (grown_kept grown held)
  · intro other different
    have apart : other ≠ target := place ▸ different (p, content) (List.mem_singleton_self _)
    have same : ((ready.put draft (.file ⟨#[]⟩)).swapped draft target content).node other = ready.node other := by
      by_cases drafted : other = draft
      · subst drafted
        rw [swapped, node_put_other _ _ _ _ apart, node_erase_self _ _ (vacant_named vacant), vacant]
      · exact replaced.others other drafted apart
    rw [same]
    rcases grown other with before | ⟨bare, made, way⟩
    · exact .inl before
    · exact .inr ⟨bare, made, (p, content), List.mem_singleton_self _, way⟩

theorem replace_ends (disturbance : Disturbance) (directory : Place) (p : Path) (content : ByteArray) (s : Store) :
    Ends (replace disturbance directory p content) s (fun _ t => Overlaid directory [(p, content)] s t)
      (fun _ t => Grown (OnWay directory p.parent) s t) := by
  refine ends_bind (make_directories_ends disturbance directory p.parent s) fun _ ready grown => ?_
  refine ends_get_bind (ends_result_bind ?_ fun _ _ => grown)
  intro folder _
  refine ends_result_bind ?_ fun _ _ => grown
  intro target located
  refine ends_bind (ends_imp (perform_ends disturbance (.create (draftFor ready folder p.name)) ready)
    (fun _ _ applied => applied) fun _ t same place => same place nofun ▸ grown place) fun _ opened created => ?_
  obtain ⟨-, vacant, rfl⟩ := (create_at_ok _ _ _ _).mp created
  generalize draftFor ready folder p.name = draft at vacant
  have named := vacant_named vacant
  refine ends_catch (ends_imp (finish_ends disturbance draft target content _ named)
    (fun _ _ done => done.2 ▸ swapped_overlays grown vacant located done.1) fun _ _ kept => kept) ?_
  intro fault left kept
  refine ends_modify_bind (ends_throw ?_)
  have same : ∀ place, (left.erase draft).node place = ready.node place := by
    intro place
    by_cases drafted : place = draft
    · rw [drafted, node_erase_self _ _ named, vacant]
    · rw [node_erase_other _ _ _ drafted, kept place drafted, node_put_other _ _ _ _ drafted]
  exact fun place => same place ▸ grown place

end ApiStubs.Store
