import ApiStubs.Proofs.Batch.Attempt

/- A whole batch. By induction on its files: a file that is still to be read is as it was found, since all that has been
   written stands in other directories, and what was written for a file is still there at the end, since the names of
   its contents are given by its own stem. So files of one stem in a directory are the only ones that can disturb each
   other. -/

set_option autoImplicit false

namespace ApiStubs.Batch

open Publish (filesDirectory)
open Store (Keeps Overlaid placeOf)

-- A description as it was found, in neither of the directories that are written to.
structure Ready (host : Host) (store : Store) (stubs files p : Path) : Prop where
  proper : p.Proper
  described : Source.isDescription p = true
  free : '/' ∉ p.stem.toList
  held : ∃ content, store.stat host.place p = .ok (.file content)
  aside : (placeOf host.place p).dropLast ≠ placeOf host.place stubs ∧
    (placeOf host.place p).dropLast ≠ placeOf host.place files

-- No file after this one has the same stem.
def LastOfStem (found : List Path) (i : Nat) (p : Path) : Prop :=
  ∀ (j : Nat) (q : Path), i < j → found[j]? = some q → p.stem ≠ q.stem

-- What has become of a store and of the files that a batch went through.
structure Gone (fresh : Settings → Generator) (host : Host) (settings : Settings) (stubs files : Path) (start : Store)
    (found : List Path) (before : Store) (outcomes : List Outcome) (after : Store) : Prop where
  told : List.Forall₂ (Told fresh host settings stubs files start) found outcomes
  keeps : Keeps (fun place => ∃ p ∈ found, Aims host settings stubs files p place) before after
  placed : ∀ w ∈ outcomes.flatMap (Outcome.contents stubs files),
    ∃ p ∈ found, Aims host settings stubs files p (placeOf host.place w.1)
  held : ∀ (i : Nat) (p : Path) (outcome : Outcome), found[i]? = some p → outcomes[i]? = some outcome →
    LastOfStem found i p → ∀ w ∈ outcome.contents stubs files, after.stat host.place w.1 = .ok (.file w.2)
  overlaid : (found.map Path.stem).Nodup → (∀ outcome ∈ outcomes, ¬ outcome.Unwritten) →
    Overlaid host.place (outcomes.flatMap (Outcome.contents stubs files)) before after

section

variable {fresh : Settings → Generator} {host : Host} {settings : Settings} {stubs files : Path} {start : Store}

theorem ready_kept {store : Store} {p : Path} (ready : Ready host start stubs files p)
    (keeps : Keeps (fun place => ∃ q, Aims host settings stubs files q place) start store) :
    store.stat host.place p = start.stat host.place p := by
  obtain ⟨content, held⟩ := ready.held
  rw [held]
  refine Store.stat_kept keeps held ?_
  rintro ⟨q, stub | ⟨text, use, -, body⟩⟩
  · exact ready.aside.1 (by rw [stub, List.dropLast_concat])
  · exact ready.aside.2 (by rw [body, List.dropLast_concat])

theorem told_kept {s t : Store} {p : Path} {outcome : Outcome} (proper : p.Proper)
    (described : Source.isDescription p = true) (held : t.stat host.place p = s.stat host.place p)
    (told : Told fresh host settings stubs files t p outcome) : Told fresh host settings stubs files s p outcome := by
  have prints : alone fresh host settings t p = alone fresh host settings s p :=
    alone_kept host settings proper described held
  have compiled : compiledAlone fresh host settings t p = compiledAlone fresh host settings s p :=
    compiled_alone_kept host settings proper described held
  cases told with
  | done compiles alike source written => exact .done (prints ▸ compiles) alike source written
  | failed fails => exact .failed (prints ▸ fails)
  | unwritten compiles => exact .unwritten (compiled ▸ compiles)

theorem attempted_held {p : Path} {before after : Store} {outcome : Outcome}
    (attempted : Attempted fresh host settings stubs files p before outcome after) :
    ∀ w ∈ outcome.contents stubs files, after.stat host.place w.1 = .ok (.file w.2) := by
  cases outcome with
  | done success =>
      refine (attempted.overlaid ?_).held
      rintro ⟨source, fault, impossible⟩
      cases impossible
  | failed source e => simp [Outcome.contents]

theorem gone_nil (store : Store) : Gone fresh host settings stubs files start [] store [] store where
  told := .nil
  keeps := Store.keeps_refl _ _
  placed := by simp
  held := by simp
  overlaid := fun _ _ => Store.overlaid_nothing _ _

theorem gone_cons {p : Path} {rest : List Path} {before between after : Store} {outcome : Outcome}
    {outcomes : List Outcome} (separate : placeOf host.place stubs ≠ placeOf host.place files)
    (told : Told fresh host settings stubs files start p outcome)
    (first : Attempted fresh host settings stubs files p before outcome between)
    (others : Gone fresh host settings stubs files start rest between outcomes after) :
    Gone fresh host settings stubs files start (p :: rest) before (outcome :: outcomes) after := by
  have spared : (∀ q ∈ rest, p.stem ≠ q.stem) → ∀ place, Aims host settings stubs files p place →
      ¬ ∃ q ∈ rest, Aims host settings stubs files q place := by
    rintro different place aims ⟨q, member, also⟩
    exact aims_apart separate (different q member) aims also
  constructor
  · exact .cons told others.told
  · exact Store.keeps_trans (Store.keeps_imp first.keeps fun _ aims => ⟨p, List.mem_cons_self, aims⟩)
      (Store.keeps_imp others.keeps fun _ ⟨q, member, aims⟩ => ⟨q, List.mem_cons_of_mem p member, aims⟩)
  · refine List.forall_mem_append.mpr ⟨fun w member => ⟨p, List.mem_cons_self, first.placed w member⟩, ?_⟩
    intro w member
    obtain ⟨q, inside, aims⟩ := others.placed w member
    exact ⟨q, List.mem_cons_of_mem p inside, aims⟩
  · intro i own given atFound atOutcome last w member
    cases i with
    | zero =>
        cases atFound
        cases atOutcome
        have different : ∀ q ∈ rest, p.stem ≠ q.stem := by
          intro q inside
          obtain ⟨j, place⟩ := List.mem_iff_getElem?.mp inside
          exact last (j + 1) q (Nat.succ_pos j) place
        exact Store.stat_kept others.keeps (attempted_held first w member) (spared different _ (first.placed w member))
    | succ i =>
        exact others.held i own given atFound atOutcome
          (fun j q later place => last (j + 1) q (Nat.succ_lt_succ later) place) w member
  · intro stems written
    obtain ⟨unused, distinct⟩ := List.nodup_cons.mp stems
    obtain ⟨one, more⟩ := List.forall_mem_cons.mp written
    have different : ∀ q ∈ rest, p.stem ≠ q.stem := fun q member same =>
      unused (same ▸ List.mem_map_of_mem member)
    refine Store.overlaid_append (first.overlaid one) (others.overlaid distinct more) ?_
    intro v early w late same
    exact spared different _ (first.placed v early) (same ▸ others.placed w late)

theorem attempt_all_ends (separate : placeOf host.place stubs ≠ placeOf host.place files) (found : List Path)
    (ready : ∀ p ∈ found, Ready host start stubs files p) (desk : Desk)
    (keeps : Keeps (fun place => ∃ q, Aims host settings stubs files q place) start desk.store) :
    Ends (attemptAll host ⟨stubs, some files⟩ settings fresh found) desk
      (fun outcomes after => Gone fresh host settings stubs files start found desk.store outcomes after.store)
      (fun e _ => ∃ p ∈ found, alone fresh host settings start p = .error e ∧ isContained e = false) := by
  induction found generalizing desk with
  | nil => exact ends_pure (gone_nil _)
  | cons p rest ih =>
      obtain ⟨here, later⟩ := List.forall_mem_cons.mp ready
      have held := ready_kept here keeps
      have same : alone fresh host settings desk.store p = alone fresh host settings start p :=
        alone_kept host settings here.proper here.described held
      refine ends_bind (ends_imp (attempt_ends here.free) (fun _ _ done => done) ?_) ?_
      · rintro e _ ⟨fails, raised⟩
        exact ⟨p, List.mem_cons_self, same ▸ fails, raised⟩
      · intro outcome between first
        have further := Store.keeps_trans keeps (Store.keeps_imp first.keeps fun _ aims => ⟨p, aims⟩)
        refine ends_bind (ends_imp (ih later between further) (fun _ _ done => done) ?_) ?_
        · rintro e _ ⟨q, member, raised⟩
          exact ⟨q, List.mem_cons_of_mem p member, raised⟩
        · intro outcomes after others
          exact ends_pure (gone_cons separate (told_kept here.proper here.described held first.told) first others)

end

-- Three directories, wherever their paths lead.
structure Separate (host : Host) (input stubs files : Path) : Prop where
  fromStubs : placeOf host.place input ≠ placeOf host.place stubs
  fromFiles : placeOf host.place input ≠ placeOf host.place files
  outputs : placeOf host.place stubs ≠ placeOf host.place files

section

variable {fresh : Settings → Generator} {host : Host} {settings : Settings} {input : Path} {target : Target}
  {desk : Desk} {found : List Path}

theorem found_ready {stubs files : Path} {store : Store} (proper : input.Proper) (orderly : store.Orderly)
    (separate : Separate host input stubs files) (listed : find host store input = .ok found) :
    ∀ p ∈ found, Ready host store stubs files p := by
  intro p member
  obtain ⟨held, described⟩ := found_held listed p member
  obtain ⟨names, rfl, -, named, -⟩ := find_lists orderly listed
  obtain ⟨name, inside, rfl⟩ := List.mem_map.mp member
  have file := named name inside
  have place : (placeOf host.place (input.child name)).dropLast = placeOf host.place input := by
    rw [Store.place_child _ _ file, List.dropLast_concat]
  refine ⟨Path.child_proper proper file.step, described, ?_, held, ?_⟩
  · exact Path.stem_free _ ((Path.child_name input file.step).symm ▸ file.step)
  · rw [place]
    exact ⟨separate.fromStubs, separate.fromFiles⟩

theorem compile_directory_ends (proper : input.Proper) (orderly : desk.store.Orderly)
    (separate : Separate host input target.stubs (filesDirectory target.stubs target.files))
    (listed : find host desk.store input = .ok found) :
    Ends (compileDirectory host input target settings fresh) desk
      (fun outcomes after => Gone fresh host settings target.stubs (filesDirectory target.stubs target.files) desk.store
        found desk.store outcomes after.store)
      (fun e _ => ∃ p ∈ found, alone fresh host settings desk.store p = .error e ∧ isContained e = false) := by
  have ready := found_ready proper orderly separate listed
  unfold compileDirectory
  refine Job.ends_store_bind (ends_result_bind ?_ ?_)
  · intro files same
    rw [listed] at same
    cases same
    have goes : Ends
        (attemptAll host ⟨target.stubs, some (filesDirectory target.stubs target.files)⟩ settings fresh found)
        desk _ _ := attempt_all_ends separate.outputs found ready desk (Store.keeps_refl _ _)
    cases found with
    | nil => exact ends_modify_bind (ends_pure (gone_nil _))
    | cons p rest => exact goes
  · intro e failed
    rw [listed] at failed
    cases failed

end

end ApiStubs.Batch
