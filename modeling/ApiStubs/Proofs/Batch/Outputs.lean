import ApiStubs.Proofs.Batch.Directory

/- What a batch leaves of its outputs. Each output can be read back as it was told, unless a later file of the batch has
   the same stem: then both are compiled and told to be written, but the names of the earlier outputs are taken by the
   later ones. -/

set_option autoImplicit false

namespace ApiStubs.Batch

open Json (Readable)
open Publish (bodyPath filesDirectory stubPath)

section

variable {fresh : Settings → Generator} {host : Host} {settings : Settings}

theorem told_done {stubs files : Path} {store : Store} {p : Path} {success : Success}
    (known : Readable settings.defaultStatus) (told : Told fresh host settings stubs files store p (.done success)) :
    success.source = p ∧ success.compilation.name = p.stem ∧
      success.written = (Publish.contents stubs files success.compilation).map (·.1) ∧
      ∀ stub ∈ success.compilation.stubs, stub.WellFormed := by
  cases told with
  | done compiles same source written =>
      rw [alone_eq] at compiles
      obtain ⟨document, compiled⟩ := compiled_document (compiled_of_printed compiles)
      have formed := Compile.compiled_stubs_formed compiled known
      have both := (List.forall₂_and_left _ _).mpr ⟨formed, same.stubs⟩
      have named := (Compile.compiled_files compiled).1
      refine ⟨source, same.name ▸ named, written, forall_mem_of_related (both.imp ?_)⟩
      rintro a b ⟨⟨request, response, status⟩, sameRequest, sameResponse⟩
      exact ⟨sameRequest ▸ request, sameResponse ▸ response, sameResponse ▸ status⟩

theorem contents_read {stubs files : Path} {store : Store} {c : Compilation}
    (formed : ∀ stub ∈ c.stubs, stub.WellFormed)
    (held : ∀ w ∈ Publish.contents stubs files c, store.stat host.place w.1 = .ok (.file w.2)) :
    Publish.read host store (stubPath stubs c.name) = .ok c.stubs ∧
      ∀ file ∈ c.files, store.read host.place (bodyPath files file) = .ok file.content := by
  obtain ⟨bodies, stub⟩ := List.forall_mem_append.mp held
  refine ⟨?_, fun file member => ?_⟩
  · have document : store.stat host.place (stubPath stubs c.name) = .ok (.file (Stub.dump c.stubs).toUTF8) :=
      stub (Publish.stubContent stubs c) (List.mem_singleton_self _)
    exact Publish.stubs_of_content formed (Store.read_of_stat document)
  · have body : store.stat host.place (bodyPath files file) = .ok (.file file.content) :=
      bodies (bodyPath files file, file.content) (List.mem_map_of_mem member)
    exact Store.read_of_stat body

end

-- Only a later file of the same stem takes the place of what was written for a file.
theorem batch_outputs_kept (fresh : Settings → Generator) (host : Host) (settings : Settings) (input : Path)
    (target : Target) (desk after : Desk) (found : List Path) (outcomes : List Outcome) (proper : input.Proper)
    (orderly : desk.store.Orderly)
    (separate : Separate host input target.stubs (filesDirectory target.stubs target.files))
    (known : Readable settings.defaultStatus) (listed : find host desk.store input = .ok found)
    (done : Ran (compileDirectory host input target settings fresh) desk outcomes after) (i : Nat) (success : Success)
    (succeeded : outcomes[i]? = some (.done success)) (last : LastOfStem found i success.source) :
    success.written = success.compilation.files.map (bodyPath (filesDirectory target.stubs target.files)) ++
        [stubPath target.stubs success.compilation.name] ∧
      Publish.read host after.store (stubPath target.stubs success.compilation.name) = .ok success.compilation.stubs ∧
      ∀ file ∈ success.compilation.files,
        after.store.read host.place (bodyPath (filesDirectory target.stubs target.files) file) = .ok file.content := by
  have gone := good_of_ran (compile_directory_ends proper orderly separate listed) done
  obtain ⟨p, inside, told⟩ := related_at gone.told succeeded
  obtain ⟨rfl, -, written, formed⟩ := told_done known told
  refine ⟨?_, contents_read formed (gone.held i _ _ inside succeeded last)⟩
  rw [written]
  simp [Publish.contents, Publish.bodyContents, Publish.stubContent]

def olderText : String :=
  "\x7b\"openapi\":\"3.0\",\"paths\":\x7b\"/old\":\x7b\"get\":\x7b\"responses\":\x7b\"200\":\x7b\x7d\x7d\x7d\x7d\x7d\x7d"

def newerText : String :=
  "\x7b\"openapi\":\"3.0\",\"paths\":\x7b\"/new\":\x7b\"get\":\x7b\"responses\":\x7b\"200\":" ++
    "\x7b\"content\":\x7b\"application/json\":\x7b\"example\":1\x7d\x7d\x7d\x7d\x7d\x7d\x7d\x7d"

def sampleInput : Path :=
  .ofText "specs"

def sampleTarget : Target :=
  ⟨⟨"", ["out"]⟩, some ⟨"", ["bodies"]⟩⟩

-- Two files whose names differ only in how their ending is written.
def twinDesk : Desk :=
  ⟨⟨[(["home"], .directory), (["home", "specs"], .directory), (["home", "specs", "a.JSON"], .file olderText.toUTF8),
    (["home", "specs", "a.json"], .file newerText.toUTF8)]⟩, 0, []⟩

def twins : List Path :=
  [⟨"", ["specs", "a.JSON"]⟩, ⟨"", ["specs", "a.json"]⟩]

theorem sample_input_proper : sampleInput.Proper :=
  Path.of_text_proper "specs"

theorem sample_separate :
    Separate Publish.sampleHost sampleInput sampleTarget.stubs (filesDirectory sampleTarget.stubs sampleTarget.files) :=
  ⟨by decide +kernel, by decide +kernel, by decide⟩

theorem twins_orderly : twinDesk.store.Orderly where
  distinct := by decide
  names := by decide

theorem find_sorted {host : Host} {store : Store} {directory : Path} (names sorted : List String)
    (listed : store.list host.place directory = .ok names) (order : (names.mergeSort fun a b => a ≤ b) = sorted) :
    find host store directory = .ok ((sorted.map directory.child).filter (isCandidate host store)) := by
  rw [find, listed]
  simp only [order]

theorem twins_found : find Publish.sampleHost twinDesk.store sampleInput = .ok twins := by
  rw [find_sorted ["a.JSON", "a.json"] ["a.JSON", "a.json"] rfl
    (by simp [List.mergeSort, List.MergeSort.Internal.splitInTwo])]
  exact congrArg Except.ok (by decide +kernel)

theorem compile_directory_run {host : Host} {input p : Path} {desk : Desk} {rest : List Path} (settings : Settings)
    (target : Target) (listed : find host desk.store input = .ok (p :: rest)) :
    (compileDirectory host input target settings).run.run desk =
      (attemptAll host ⟨target.stubs, some (filesDirectory target.stubs target.files)⟩ settings Generator.start
        (p :: rest)).run.run desk := by
  have given : (Job.lift (find host desk.store input)).run.run desk = (.ok (p :: rest), desk) := by
    rw [listed]
    rfl
  unfold compileDirectory
  change ((Job.lift (find host desk.store input) >>= _).run.run desk) = _
  rw [run_bind, given]

theorem compile_directory_tested {host : Host} {input p : Path} {desk : Desk} {rest : List Path} (settings : Settings)
    (target : Target) (listed : find host desk.store input = .ok (p :: rest))
    (test : Except Error (List Outcome) → Bool)
    (passed : test ((attemptAll host ⟨target.stubs, some (filesDirectory target.stubs target.files)⟩ settings
      Generator.start (p :: rest)).run.run desk).1 = true) :
    ∃ result after, (compileDirectory host input target settings).run.run desk = (result, after) ∧ test result = true :=
  ⟨_, _, compile_directory_run settings target listed, passed⟩

def patterns (stubs : List Stub) : List String :=
  stubs.map fun stub => stub.request.urlPattern

def tellsBoth : Except Error (List Outcome) → Bool
  | .ok [.done older, .done newer] =>
      patterns older.compilation.stubs == ["/old"] && patterns newer.compilation.stubs == ["/new"]
  | _ => false

theorem twins_written :
    ∃ older newer after, Ran (compileDirectory Publish.sampleHost sampleInput sampleTarget {}) twinDesk
        [.done older, .done newer] after ∧
      patterns older.compilation.stubs = ["/old"] ∧ patterns newer.compilation.stubs = ["/new"] := by
  obtain ⟨result, after, run, both⟩ :=
    compile_directory_tested {} sampleTarget twins_found tellsBoth (by decide +kernel)
  unfold tellsBoth at both
  split at both
  · next older newer =>
    exact ⟨older, newer, after, run, by simpa using both⟩
  · cases both

theorem second_is_last (newer : Path) : LastOfStem twins 1 newer := by
  intro j q later place
  have beyond : twins.length ≤ j := later
  rw [List.getElem?_eq_none beyond] at place
  cases place

theorem newer_twin_kept :
    sampleInput.Proper ∧ twinDesk.store.Orderly ∧
      Separate Publish.sampleHost sampleInput sampleTarget.stubs
        (filesDirectory sampleTarget.stubs sampleTarget.files) ∧
      Readable ({} : Settings).defaultStatus ∧ find Publish.sampleHost twinDesk.store sampleInput = .ok twins ∧
      ∃ older newer after,
        Ran (compileDirectory Publish.sampleHost sampleInput sampleTarget {}) twinDesk [.done older, .done newer] after ∧
        newer.written = newer.compilation.files.map (bodyPath ⟨"", ["bodies"]⟩) ++
          [stubPath sampleTarget.stubs newer.compilation.name] ∧
        Publish.read Publish.sampleHost after.store (stubPath sampleTarget.stubs newer.compilation.name) =
          .ok newer.compilation.stubs ∧
        ∀ file ∈ newer.compilation.files,
          after.store.read Publish.sampleHost.place (bodyPath ⟨"", ["bodies"]⟩ file) = .ok file.content := by
  obtain ⟨older, newer, after, done, -, -⟩ := twins_written
  have known : Readable ({} : Settings).defaultStatus := by decide
  exact ⟨sample_input_proper, twins_orderly, sample_separate, known, twins_found, older, newer, after, done,
    batch_outputs_kept Generator.start Publish.sampleHost {} sampleInput sampleTarget twinDesk after twins _
      sample_input_proper twins_orderly sample_separate known twins_found done 1 newer rfl (second_is_last _)⟩

theorem older_twin_lost :
    twinDesk.store.Orderly ∧
      Separate Publish.sampleHost sampleInput sampleTarget.stubs
        (filesDirectory sampleTarget.stubs sampleTarget.files) ∧
      ∃ older newer after,
        Ran (compileDirectory Publish.sampleHost sampleInput sampleTarget {}) twinDesk [.done older, .done newer] after ∧
        Publish.read Publish.sampleHost after.store (stubPath sampleTarget.stubs older.compilation.name) ≠
          .ok older.compilation.stubs := by
  obtain ⟨older, newer, after, done, first, second⟩ := twins_written
  refine ⟨twins_orderly, sample_separate, older, newer, after, done, ?_⟩
  have gone := good_of_ran (compile_directory_ends sample_input_proper twins_orderly sample_separate twins_found) done
  have known : Readable ({} : Settings).defaultStatus := by decide
  obtain ⟨p, inside, told⟩ := related_at gone.told (i := 0) rfl
  obtain ⟨q, also, next⟩ := related_at gone.told (i := 1) rfl
  cases inside
  cases also
  obtain ⟨-, named, -, -⟩ := told_done known told
  obtain ⟨-, again, -, formed⟩ := told_done known next
  have same : older.compilation.name = newer.compilation.name := by
    rw [named, again]
    decide
  have read := (contents_read formed (gone.held 1 _ _ rfl rfl (second_is_last _))).1
  rw [same, read]
  intro equal
  have patterned := congrArg patterns (Except.ok.inj equal)
  rw [first, second] at patterned
  revert patterned
  decide

end ApiStubs.Batch
