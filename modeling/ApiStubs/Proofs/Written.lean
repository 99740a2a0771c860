import ApiStubs.Proofs.Publish
import ApiStubs.Proofs.Store.Overlay

/- What publishing a compilation does to the store: its contents are laid over it, or some of them are when a file
   cannot be written. -/

set_option autoImplicit false

namespace ApiStubs

open Store (Keeps Overlaid placeOf)

theorem Job.change_ends {α : Type} {action : Store.Action α} {desk : Desk} {good : α → Store → Prop}
    {bad : FileFault → Store → Prop} (ends : Ends action desk.store good bad) :
    Ends (Job.change action) desk (fun a after => good a after.store)
      (fun e after => ∃ fault, e = .file fault ∧ bad fault after.store) := by
  unfold Job.change
  refine ends_get_bind ?_
  unfold Ends at ends
  cases run : action.run.run desk.store with
  | mk result store =>
      rw [run] at ends
      refine ends_set_bind (ends_result ?_ ?_)
      · intro a done
        rw [(Job.of_fault_ok result a).mp done] at ends
        exact ends
      · intro e failed
        cases result with
        | ok a => cases failed
        | error fault =>
            cases failed
            exact ⟨fault, rfl, ends⟩

theorem Job.ends_store_bind {α : Type} {desk : Desk} {next : Store → Job α} {good : α → Desk → Prop}
    {bad : Error → Desk → Prop} (goes : Ends (next desk.store) desk good bad) :
    Ends (Job.store >>= next) desk good bad := by
  unfold Ends at goes ⊢
  exact goes

namespace Publish

def bodyContents (files : Path) (bodies : List BodyFile) : List (Path × ByteArray) :=
  bodies.map fun file => (bodyPath files file, file.content)

-- Contents that go to different places.
def Apart (directory : Place) (written : List (Path × ByteArray)) : Prop :=
  written.Pairwise fun v w => placeOf directory v.1 ≠ placeOf directory w.1

def Unwritten (targets : Place → Prop) (before : Store) (e : Error) (after : Desk) : Prop :=
  (∃ fault, e = .file fault) ∧ Keeps targets before after.store

theorem change_ends (disturbance : Store.Disturbance) (host : Host) (p : Path) (content : ByteArray) (desk : Desk)
    (targets : Place → Prop) :
    Ends (Job.change (Store.replace disturbance host.place p content)) desk
      (fun _ after => Overlaid host.place [(p, content)] desk.store after.store) (Unwritten targets desk.store) := by
  refine ends_imp (Job.change_ends (Store.replace_ends disturbance host.place p content desk.store))
    (fun _ _ done => done) ?_
  rintro e after ⟨fault, rfl, grown⟩
  exact ⟨⟨fault, rfl⟩, Store.grown_keeps grown⟩

theorem unwritten_later {targets : Place → Prop} {before between : Store} {e : Error} {after : Desk}
    (first : Keeps targets before between) (later : Unwritten targets between e after) :
    Unwritten targets before e after :=
  ⟨later.1, Store.keeps_trans first later.2⟩

theorem write_bodies_ends (disturbance : Store.Disturbance) (host : Host) (files : Path) (bodies : List BodyFile)
    (desk : Desk) (targets : Place → Prop) (apart : Apart host.place (bodyContents files bodies))
    (within : ∀ w ∈ bodyContents files bodies, targets (placeOf host.place w.1)) :
    Ends (writeBodies disturbance host files bodies) desk
      (fun paths after => paths = (bodyContents files bodies).map (·.1) ∧
        Overlaid host.place (bodyContents files bodies) desk.store after.store)
      (Unwritten targets desk.store) := by
  induction bodies generalizing desk with
  | nil => exact ends_pure ⟨rfl, Store.overlaid_nothing _ _⟩
  | cons file rest ih =>
      obtain ⟨different, others⟩ := List.pairwise_cons.mp apart
      obtain ⟨here, later⟩ := List.forall_mem_cons.mp within
      refine ends_bind (change_ends disturbance host _ file.content desk targets) fun _ between first => ?_
      have keeps : Keeps targets desk.store between.store := Store.overlaid_keeps first (by simpa using here)
      refine ends_modify_bind (ends_bind (ends_imp (ih _ others later) (fun _ _ done => done)
        fun _ _ failed => unwritten_later keeps failed) ?_)
      rintro paths after ⟨rfl, more⟩
      exact ends_pure ⟨rfl, Store.overlaid_append first more (by simpa using different)⟩

def stubContent (stubs : Path) (c : Compilation) : Path × ByteArray :=
  (stubPath stubs c.name, (Stub.dump c.stubs).toUTF8)

def contents (stubs files : Path) (c : Compilation) : List (Path × ByteArray) :=
  bodyContents files c.files ++ [stubContent stubs c]

-- A file could not be written, or the stubs have no text.
def Unfinished (targets : Place → Prop) (stubs : List Stub) (before : Store) (e : Error) (after : Desk) : Prop :=
  Unwritten targets before e after ∨ Stub.documentText stubs = .error e

theorem write_stubs_ends (disturbance : Store.Disturbance) (host : Host) (stubs : Path) (c : Compilation) (desk : Desk)
    (targets : Place → Prop) :
    Ends (writeStubs disturbance host stubs c) desk
      (fun p after => p = stubPath stubs c.name ∧ (∃ text, Stub.documentText c.stubs = .ok text) ∧
        Overlaid host.place [stubContent stubs c] desk.store after.store)
      (Unfinished targets c.stubs desk.store) := by
  refine ends_result_bind (fun text told => ?_) fun _ failed => .inr failed
  rw [stubContent, Stub.dump_of_text told]
  have changing := change_ends disturbance host (stubPath stubs c.name) (text ++ "\n").toUTF8 desk targets
  refine ends_bind (ends_imp changing (fun _ _ done => done) fun _ _ failed => .inl failed) fun _ between done => ?_
  exact ends_modify_bind (ends_pure ⟨rfl, ⟨text, told⟩, done⟩)

theorem write_ends (disturbance : Store.Disturbance) (host : Host) (stubs files : Path) (c : Compilation) (desk : Desk)
    (targets : Place → Prop) (apart : Apart host.place (contents stubs files c))
    (within : ∀ w ∈ contents stubs files c, targets (placeOf host.place w.1)) :
    Ends (write disturbance host stubs (some files) c) desk
      (fun paths after => paths = (contents stubs files c).map (·.1) ∧
        (∃ text, Stub.documentText c.stubs = .ok text) ∧
        Overlaid host.place (contents stubs files c) desk.store after.store)
      (Unfinished targets c.stubs desk.store) := by
  obtain ⟨bodies, -, across⟩ := List.pairwise_append.mp apart
  obtain ⟨inBodies, inStubs⟩ := List.forall_mem_append.mp within
  have given : filesDirectory stubs (some files) = files := rfl
  rw [write, given]
  have first := write_bodies_ends disturbance host files c.files desk targets bodies inBodies
  refine ends_bind (ends_imp first (fun _ _ done => done) fun _ _ failed => .inl failed) fun paths between done => ?_
  obtain ⟨rfl, written⟩ := done
  have keeps : Keeps targets desk.store between.store := Store.overlaid_keeps written inBodies
  have last := ends_imp (write_stubs_ends disturbance host stubs c between targets) (fun _ _ done => done)
    fun _ _ failed => failed.imp_left (unwritten_later keeps)
  refine ends_bind last fun p after done => ?_
  obtain ⟨rfl, told, more⟩ := done
  refine ends_pure ⟨?_, told, Store.overlaid_append written more across⟩
  simp [contents, stubContent]

end Publish

end ApiStubs
