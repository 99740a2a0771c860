import ApiStubs.Proofs.Batch.Found
import ApiStubs.Proofs.Compile.Identifiers
import ApiStubs.Proofs.Publication

/- One file of a batch. What is told of it is what compiling it alone comes to, whatever was done before; what is
   written is the contents of its compilation, and only under names that its own stem gives. -/

set_option autoImplicit false

namespace ApiStubs

open Compile (fileName stemOf)
open Publish (bodyContents bodyPath contents stubContent stubPath)
open Response (NamesStatus)
open Store (Keeps Overlaid placeOf)

namespace Batch

section

variable {fresh : Settings → Generator}

def compiledFrom (fresh : Settings → Generator) (host : Host) (store : Store) (issued : Nat) (source specName : String)
    (settings : Settings) : Except Error Compilation := do
  let document ← Source.load host store source
  let _ ← Description.versionOf document
  (compileFrom (fresh settings) issued settings specName document).outcome

variable (fresh) in
theorem compile_source_ends (host : Host) (source specName : String) (settings : Settings) (desk : Desk) :
    Ends (compileSource host source specName settings fresh) desk
      (fun c after => compiledFrom fresh host desk.store desk.issued source specName settings = .ok c ∧
        after.store = desk.store)
      (fun e after => compiledFrom fresh host desk.store desk.issued source specName settings = .error e ∧
        after.store = desk.store) := by
  unfold compileSource compiledFrom
  refine Job.ends_store_bind (ends_result_bind ?_ ?_)
  · intro document loaded
    rw [loaded]
    refine ends_result_bind ?_ ?_
    · intro version known
      refine ends_get_bind (ends_set_bind (ends_result ?_ ?_))
      · intro c compiles
        exact ⟨by simp only [bind, Except.bind, known]; exact compiles, rfl⟩
      · intro e fails
        exact ⟨by simp only [bind, Except.bind, known]; exact fails, rfl⟩
    · intro e unknown
      exact ⟨by simp only [bind, Except.bind, unknown], rfl⟩
  · intro e missing
    exact ⟨by rw [missing]; rfl, rfl⟩

-- The text of the stubs belongs to what a file comes to: without one, it is not published.
def printedFrom (fresh : Settings → Generator) (host : Host) (store : Store) (issued : Nat) (settings : Settings)
    (p : Path) : Except Error Compilation := do
  let c ← compiledFrom fresh host store issued p.text p.stem settings
  let _ ← Stub.documentText c.stubs
  return c

def compiledAlone (fresh : Settings → Generator) (host : Host) (settings : Settings) (store : Store) (p : Path) :
    Except Error Compilation :=
  ((compileSource host p.text p.stem settings fresh).run.run ⟨store, 0, []⟩).1

-- Compiling a file and putting its stubs into a text, with nothing compiled before it.
def alone (fresh : Settings → Generator) (host : Host) (settings : Settings) (store : Store) (p : Path) :
    Except Error Compilation := do
  let c ← compiledAlone fresh host settings store p
  let _ ← Stub.documentText c.stubs
  return c

theorem compiled_alone_eq (host : Host) (settings : Settings) (store : Store) (p : Path) :
    compiledAlone fresh host settings store p = compiledFrom fresh host store 0 p.text p.stem settings := by
  have ends := compile_source_ends fresh host p.text p.stem settings ⟨store, 0, []⟩
  unfold Ends at ends
  unfold compiledAlone
  cases run : (compileSource host p.text p.stem settings fresh).run.run ⟨store, 0, []⟩ with
  | mk result after =>
      rw [run] at ends
      cases result <;> exact ends.1.symm

theorem alone_eq (host : Host) (settings : Settings) (store : Store) (p : Path) :
    alone fresh host settings store p = printedFrom fresh host store 0 settings p := by
  rw [alone, compiled_alone_eq, printedFrom]

theorem compiled_of_printed {host : Host} {settings : Settings} {store : Store} {issued : Nat} {p : Path}
    {c : Compilation} (prints : printedFrom fresh host store issued settings p = .ok c) :
    compiledFrom fresh host store issued p.text p.stem settings = .ok c := by
  simp only [printedFrom, except_bind_ok] at prints
  obtain ⟨own, compiles, text, -, same⟩ := prints
  cases same
  exact compiles

theorem compiled_alone_kept (host : Host) (settings : Settings) {s t : Store} {p : Path} (proper : p.Proper)
    (described : Source.isDescription p = true) (held : t.stat host.place p = s.stat host.place p) :
    compiledAlone fresh host settings t p = compiledAlone fresh host settings s p := by
  rw [compiled_alone_eq, compiled_alone_eq, compiledFrom, compiledFrom, Source.load_same host proper described held]

theorem alone_kept (host : Host) (settings : Settings) {s t : Store} {p : Path} (proper : p.Proper)
    (described : Source.isDescription p = true) (held : t.stat host.place p = s.stat host.place p) :
    alone fresh host settings t p = alone fresh host settings s p := by
  rw [alone, alone, compiled_alone_kept host settings proper described held]

variable (fresh) in
theorem compiled_alike (host : Host) (store : Store) (issued : Nat) (p : Path) (settings : Settings) :
    exact.Agree Compilation.SameButIdentifiers (compiledAlone fresh host settings store p)
      (compiledFrom fresh host store issued p.text p.stem settings) := by
  rw [compiled_alone_eq]
  refine agree_bind (agree_same _) fun document _ same => ?_
  subst same
  exact agree_bind (agree_same _) fun _ _ _ =>
    Compile.identifiers_only (fresh settings) 0 issued settings p.stem document

variable (fresh) in
theorem printed_alike (host : Host) (store : Store) (issued : Nat) (p : Path) (settings : Settings) :
    exact.Agree Compilation.SameButIdentifiers (alone fresh host settings store p)
      (printedFrom fresh host store issued settings p) :=
  agree_bind (compiled_alike fresh host store issued p settings) fun _ _ same =>
    agree_bind (Stub.document_text_alike same.stubs) fun _ _ _ => .ok same

-- Whatever was issued before, the same comes out as alone.
theorem alone_of_printed {host : Host} {store : Store} {issued : Nat} {p : Path} {settings : Settings} {c : Compilation}
    (prints : printedFrom fresh host store issued settings p = .ok c) :
    ∃ a, alone fresh host settings store p = .ok a ∧ a.SameButIdentifiers c := by
  have alike := printed_alike fresh host store issued p settings
  rw [prints] at alike
  generalize alone fresh host settings store p = told at alike
  cases alike with
  | ok same => exact ⟨_, rfl, same⟩
  | excused excused => exact excused.elim

theorem alone_of_failed {host : Host} {store : Store} {issued : Nat} {p : Path} {settings : Settings} {e : Error}
    (fails : printedFrom fresh host store issued settings p = .error e) :
    alone fresh host settings store p = .error e := by
  have alike := printed_alike fresh host store issued p settings
  rw [fails] at alike
  generalize alone fresh host settings store p = told at alike
  cases alike with
  | failed same => exact congrArg Except.error same
  | excused excused => exact excused.elim

theorem compiled_alone_ok {host : Host} {store : Store} {issued : Nat} {p : Path} {settings : Settings}
    {c : Compilation} (compiles : compiledFrom fresh host store issued p.text p.stem settings = .ok c) :
    ∃ a, compiledAlone fresh host settings store p = .ok a := by
  have alike := compiled_alike fresh host store issued p settings
  rw [compiles] at alike
  generalize compiledAlone fresh host settings store p = told at alike
  cases alike with
  | ok same => exact ⟨_, rfl⟩
  | excused excused => exact excused.elim

theorem compiled_document {host : Host} {store : Store} {issued : Nat} {source specName : String} {settings : Settings}
    {c : Compilation} (compiles : compiledFrom fresh host store issued source specName settings = .ok c) :
    ∃ document, (compileFrom (fresh settings) issued settings specName document).outcome = .ok c := by
  simp only [compiledFrom, except_bind_ok] at compiles
  obtain ⟨document, -, _, -, compiled⟩ := compiles
  exact ⟨document, compiled⟩

end

-- The places that the name of a file may aim at.
def Aims (host : Host) (settings : Settings) (stubs files p : Path) (place : Place) : Prop :=
  place = placeOf host.place stubs ++ [stubFileName p.stem] ∨
    ∃ text use, NamesStatus settings text ∧ place = placeOf host.place files ++ [fileName (stemOf p.stem text) use]

section

variable {host : Host} {settings : Settings} {stubs files : Path}

theorem aims_apart {p q : Path} {place : Place} (separate : placeOf host.place stubs ≠ placeOf host.place files)
    (different : p.stem ≠ q.stem) (first : Aims host settings stubs files p place) :
    ¬ Aims host settings stubs files q place := by
  rintro (stub | ⟨other, m, also, body⟩)
  · rcases first with own | ⟨text, n, known, own⟩
    · rw [stub, List.append_right_inj, List.singleton_inj] at own
      exact different (stub_name_injective own).symm
    · rw [stub] at own
      exact separate (List.append_inj_left' own rfl)
  · rcases first with own | ⟨text, n, known, own⟩
    · rw [body] at own
      exact separate (List.append_inj_left' own rfl).symm
    · rw [body, List.append_right_inj, List.singleton_inj] at own
      exact different (Compile.body_name_stem also known own).symm

theorem contents_places {generator : Generator} {issued : Nat} {p : Path} {document : Entries} {c : Compilation}
    (free : '/' ∉ p.stem.toList) (compiled : (compileFrom generator issued settings p.stem document).outcome = .ok c) :
    ∀ w ∈ contents stubs files c, Aims host settings stubs files p (placeOf host.place w.1) := by
  refine List.forall_mem_append.mpr ⟨?_, ?_⟩
  · intro w member
    obtain ⟨file, inside, rfl⟩ := List.mem_map.mp member
    obtain ⟨text, use, status, same⟩ := (Compile.compiled_files compiled).2.2 file inside
    exact .inr ⟨text, use, status, same ▸ Publish.body_place host files free compiled inside⟩
  · intro w member
    cases List.mem_singleton.mp member
    exact .inl (Publish.stub_place host stubs free compiled)

theorem compile_file_ends {fresh : Settings → Generator} {p : Path} (free : '/' ∉ p.stem.toList) (desk : Desk) :
    Ends (compileFile host p ⟨stubs, some files⟩ settings none fresh) desk
      (fun success after => ∃ c, printedFrom fresh host desk.store desk.issued settings p = .ok c ∧
        success = ⟨p, c, (contents stubs files c).map (·.1)⟩ ∧
        Overlaid host.place (contents stubs files c) desk.store after.store)
      (fun e after => (printedFrom fresh host desk.store desk.issued settings p = .error e ∧
          (isContained e = true → after.store = desk.store)) ∨
        ((∃ c, compiledFrom fresh host desk.store desk.issued p.text p.stem settings = .ok c) ∧
          Publish.Unwritten (Aims host settings stubs files p) desk.store e after)) := by
  unfold compileFile
  refine ends_modify_bind ?_
  have compiling := compile_source_ends fresh host p.text p.stem settings
    { desk with journal := desk.journal ++ [.record ⟨.info, "Processing file: " ++ p.text⟩] }
  refine ends_bind (ends_imp compiling (fun _ _ done => done) ?_) fun c between done => ?_
  · rintro e after ⟨fails, same⟩
    refine .inl ⟨?_, fun _ => same⟩
    rw [printedFrom, fails]
    rfl
  · obtain ⟨compiles, same⟩ := done
    obtain ⟨document, compiled⟩ := compiled_document compiles
    have writing := Publish.write_ends Store.undisturbed host stubs files c between _
      (Publish.contents_apart host stubs files free compiled) (contents_places free compiled)
    rw [same] at writing
    refine ends_bind (ends_imp writing (fun _ _ done => done) ?_) ?_
    · rintro e after (failed | unprinted)
      · exact .inr ⟨⟨c, compiles⟩, failed⟩
      · obtain ⟨cause, rfl⟩ := Stub.document_text_defect unprinted
        refine .inl ⟨?_, fun contained => (nomatch contained)⟩
        simp only [printedFrom, compiles, unprinted, bind, Except.bind]
    · rintro paths after ⟨rfl, ⟨text, told⟩, overlaid⟩
      refine ends_pure ⟨c, ?_, rfl, overlaid⟩
      simp only [printedFrom, compiles, told, bind, Except.bind]
      rfl

end

def Outcome.contents (stubs files : Path) : Outcome → List (Path × ByteArray)
  | .done success => Publish.contents stubs files success.compilation
  | .failed _ _ => []

-- A file that could not be written.
def Outcome.Unwritten (outcome : Outcome) : Prop :=
  ∃ source fault, outcome = .failed source (.file fault)

-- What compiling a file alone comes to is told of it, unless its contents could not be written.
inductive Told (fresh : Settings → Generator) (host : Host) (settings : Settings) (stubs files : Path) (store : Store)
    (p : Path) : Outcome → Prop where
  | done {c : Compilation} {success : Success} (compiles : alone fresh host settings store p = .ok c)
      (same : c.SameButIdentifiers success.compilation) (source : success.source = p)
      (written : success.written = (contents stubs files success.compilation).map (·.1)) :
      Told fresh host settings stubs files store p (.done success)
  | failed {e : Error} (fails : alone fresh host settings store p = .error e) :
      Told fresh host settings stubs files store p (.failed p e)
  | unwritten {c : Compilation} {fault : FileFault} (compiles : compiledAlone fresh host settings store p = .ok c) :
      Told fresh host settings stubs files store p (.failed p (.file fault))

structure Attempted (fresh : Settings → Generator) (host : Host) (settings : Settings) (stubs files p : Path)
    (before : Store) (outcome : Outcome) (after : Store) : Prop where
  told : Told fresh host settings stubs files before p outcome
  keeps : Keeps (Aims host settings stubs files p) before after
  placed : ∀ w ∈ outcome.contents stubs files, Aims host settings stubs files p (placeOf host.place w.1)
  overlaid : ¬ outcome.Unwritten → Overlaid host.place (outcome.contents stubs files) before after

section

variable {fresh : Settings → Generator} {host : Host} {settings : Settings} {stubs files p : Path} {desk : Desk}

theorem attempted_done {after : Store} {c : Compilation} (free : '/' ∉ p.stem.toList)
    (prints : printedFrom fresh host desk.store desk.issued settings p = .ok c)
    (overlaid : Overlaid host.place (contents stubs files c) desk.store after) :
    Attempted fresh host settings stubs files p desk.store
      (.done ⟨p, c, (contents stubs files c).map (·.1)⟩) after := by
  obtain ⟨document, compiled⟩ := compiled_document (compiled_of_printed prints)
  obtain ⟨a, told, same⟩ := alone_of_printed prints
  have placed : ∀ w ∈ contents stubs files c, Aims host settings stubs files p (placeOf host.place w.1) :=
    contents_places free compiled
  exact ⟨.done told same rfl rfl, Store.overlaid_keeps overlaid placed, placed, fun _ => overlaid⟩

theorem attempt_ends (free : '/' ∉ p.stem.toList) :
    Ends (attempt host ⟨stubs, some files⟩ settings fresh p) desk
      (fun outcome after => Attempted fresh host settings stubs files p desk.store outcome after.store)
      (fun e _ => alone fresh host settings desk.store p = .error e ∧ isContained e = false) := by
  unfold attempt
  refine ends_catch (ends_bind (ends_imp (compile_file_ends free desk) (fun _ _ done => done)
    fun _ _ failed => failed) ?_) ?_
  · rintro success between ⟨c, prints, rfl, overlaid⟩
    exact ends_pure (attempted_done free prints overlaid)
  · intro e between failed
    by_cases contained : isContained e = true
    · rw [if_pos contained]
      refine ends_modify_bind (ends_pure ?_)
      rcases failed with ⟨fails, same⟩ | ⟨⟨c, compiles⟩, ⟨fault, rfl⟩, keeps⟩
      · rw [same contained]
        exact ⟨.failed (alone_of_failed fails), Store.keeps_refl _ _, by simp [Outcome.contents],
          fun _ => Store.overlaid_nothing _ _⟩
      · obtain ⟨a, told⟩ := compiled_alone_ok compiles
        exact ⟨.unwritten told, keeps, by simp [Outcome.contents], fun written => absurd ⟨p, fault, rfl⟩ written⟩
    · rw [if_neg contained]
      rcases failed with ⟨fails, -⟩ | ⟨-, ⟨fault, rfl⟩, -⟩
      · exact ends_throw ⟨alone_of_failed fails, by simpa using contained⟩
      · exact absurd rfl contained

end

end Batch

end ApiStubs
