import ApiStubs.Proofs.Batch.Outputs

/- Isolation. What is told of a file of a batch and what is written for it hang on that file alone, whichever other
   files there are and whatever becomes of them. -/

set_option autoImplicit false

namespace ApiStubs.Batch

open Publish (filesDirectory)
open Store (Overlaid placeOf)

theorem contained_of_reported {e : Error} (reported : e.isReported = true) : isContained e = true := by
  unfold isContained
  split
  · rfl
  · exact reported

theorem batch_isolated (fresh : Settings → Generator) (host : Host) (settings : Settings) (input : Path)
    (target : Target) (desk : Desk) (found : List Path) (proper : input.Proper) (orderly : desk.store.Orderly)
    (separate : Separate host input target.stubs (filesDirectory target.stubs target.files))
    (listed : find host desk.store input = .ok found) (stems : (found.map Path.stem).Nodup)
    (refused : ∀ p ∈ found, ∀ e, alone fresh host settings desk.store p = .error e → e.isReported = true) :
    (∃ names : List String, found = names.map input.child ∧ names.Pairwise (· < ·) ∧
        ∀ name, name ∈ names ↔ Holds desk.store (placeOf host.place input) input name) ∧
      (∀ p ∈ found, ∀ store : Store, store.stat host.place p = desk.store.stat host.place p →
        alone fresh host settings store p = alone fresh host settings desk.store p) ∧
      ∃ outcomes after, Ran (compileDirectory host input target settings fresh) desk outcomes after ∧
        List.Forall₂ (Told fresh host settings target.stubs (filesDirectory target.stubs target.files) desk.store) found
          outcomes ∧
        ((∀ outcome ∈ outcomes, ¬ outcome.Unwritten) →
          Overlaid host.place
            (outcomes.flatMap (Outcome.contents target.stubs (filesDirectory target.stubs target.files)))
            desk.store after.store) := by
  have ready := found_ready proper orderly separate listed
  have ends : Ends (compileDirectory host input target settings fresh) desk _ _ :=
    compile_directory_ends proper orderly separate listed
  refine ⟨?_, ?_, ?_⟩
  · obtain ⟨names, same, sorted, -, exactly⟩ := find_lists orderly listed
    exact ⟨names, same, sorted, exactly⟩
  · intro p member store held
    exact alone_kept host settings (ready p member).proper (ready p member).described held
  · have contained : ∀ (e : Error) (after : Desk),
        (∃ p ∈ found, alone fresh host settings desk.store p = .error e ∧ isContained e = false) → False := by
      rintro e _ ⟨p, member, fails, raised⟩
      rw [contained_of_reported (refused p member e fails)] at raised
      cases raised
    obtain ⟨outcomes, after, done, gone⟩ := ran_of_ends (ends_imp ends (fun _ _ gone => gone) contained)
    exact ⟨outcomes, after, done, gone.told, gone.overlaid stems⟩

-- A description, a file that is none although it is named like one, and a file that is passed over.
def mixedDesk : Desk :=
  ⟨⟨[(["home"], .directory), (["home", "specs"], .directory), (["home", "specs", "b.json"], .file newerText.toUTF8),
    (["home", "specs", "a.JSON"], .file "[1]".toUTF8), (["home", "specs", "notes.txt"], .file "".toUTF8)]⟩, 0, []⟩

def mixed : List Path :=
  [⟨"", ["specs", "a.JSON"]⟩, ⟨"", ["specs", "b.json"]⟩]

theorem mixed_orderly : mixedDesk.store.Orderly where
  distinct := by decide
  names := by decide

theorem mixed_found : find Publish.sampleHost mixedDesk.store sampleInput = .ok mixed := by
  rw [find_sorted ["b.json", "a.JSON", "notes.txt"] ["a.JSON", "b.json", "notes.txt"] rfl
    (by simp [List.mergeSort, List.MergeSort.Internal.splitInTwo])]
  exact congrArg Except.ok (by decide +kernel)

def refusal? : Except Error Compilation → Option Bool
  | .ok _ => none
  | .error e => some e.isReported

theorem mixed_refused :
    ∀ p ∈ mixed, ∀ e, alone Generator.start Publish.sampleHost {} mixedDesk.store p = .error e →
      e.isReported = true := by
  have evaluated : ∀ p ∈ mixed,
      refusal? (alone Generator.start Publish.sampleHost {} mixedDesk.store p) ≠ some false := by
    decide +kernel
  intro p member e fails
  have shown := evaluated p member
  rw [fails] at shown
  simpa [refusal?] using shown

def tellsFailedAndDone : Except Error (List Outcome) → Bool
  | .ok [.failed _ e, .done _] => e.isReported
  | _ => false

theorem mixed_written :
    ∃ source e success after, Ran (compileDirectory Publish.sampleHost sampleInput sampleTarget {}) mixedDesk
      [.failed source e, .done success] after ∧ e.isReported = true := by
  obtain ⟨result, after, run, both⟩ :=
    compile_directory_tested {} sampleTarget mixed_found tellsFailedAndDone (by decide +kernel)
  unfold tellsFailedAndDone at both
  split at both
  · next source e success =>
    exact ⟨source, e, success, after, run, both⟩
  · cases both

theorem mixed_batch_isolated :
    sampleInput.Proper ∧ mixedDesk.store.Orderly ∧
      Separate Publish.sampleHost sampleInput sampleTarget.stubs
        (filesDirectory sampleTarget.stubs sampleTarget.files) ∧
      find Publish.sampleHost mixedDesk.store sampleInput = .ok mixed ∧ (mixed.map Path.stem).Nodup ∧
      (∀ p ∈ mixed, ∀ e, alone Generator.start Publish.sampleHost {} mixedDesk.store p = .error e →
        e.isReported = true) ∧
      ∃ source e success after,
        Ran (compileDirectory Publish.sampleHost sampleInput sampleTarget {}) mixedDesk
          [.failed source e, .done success] after ∧
        List.Forall₂ (Told Generator.start Publish.sampleHost {} sampleTarget.stubs
          (filesDirectory sampleTarget.stubs sampleTarget.files) mixedDesk.store) mixed
          [.failed source e, .done success] ∧
        Overlaid Publish.sampleHost.place
          (Publish.contents sampleTarget.stubs (filesDirectory sampleTarget.stubs sampleTarget.files)
            success.compilation) mixedDesk.store after.store := by
  have stems : (mixed.map Path.stem).Nodup := by decide
  obtain ⟨-, -, outcomes, last, done, told, overlaid⟩ :=
    batch_isolated Generator.start Publish.sampleHost {} sampleInput sampleTarget mixedDesk mixed sample_input_proper
      mixed_orderly sample_separate mixed_found stems mixed_refused
  obtain ⟨source, e, success, after, ran, reported⟩ := mixed_written
  have both : (Except.ok outcomes, last) = (Except.ok [.failed source e, .done success], after) := done.symm.trans ran
  cases both
  have written : ∀ outcome ∈ [Outcome.failed source e, .done success], ¬ outcome.Unwritten := by
    rintro outcome member ⟨_, fault, rfl⟩
    simp only [List.mem_cons, Outcome.failed.injEq, List.not_mem_nil, or_false, reduceCtorEq] at member
    rw [← member.2] at reported
    cases reported
  refine ⟨sample_input_proper, mixed_orderly, sample_separate, mixed_found, stems, mixed_refused, source, e, success,
    last, ran, told, ?_⟩
  simpa [Outcome.contents] using overlaid written

end ApiStubs.Batch
