import ApiStubs.Proofs.Compile.Bounds
import ApiStubs.Proofs.Compile.Output
import ApiStubs.Proofs.Written

/- Publishing a compilation as a sequence of writes, one for each content, the document of the stubs last. Wherever the
   sequence stops, what has been written is there as a whole and all other targets hold what they held, so that the
   document of the stubs is new only when all body files that it names are there. -/

set_option autoImplicit false

namespace ApiStubs

namespace Store

-- The content of the file at a place; a directory has none.
def content? (s : Store) (place : Place) : Option ByteArray :=
  match s.node place with
  | some (.file content) => some content
  | _ => none

-- What is left after some writes, one after the other, that all went well.
inductive Passes (disturbance : Disturbance) (directory : Place) : List (Path × ByteArray) → Store → Store → Prop where
  | nothing {s : Store} : Passes disturbance directory [] s s
  | write {w : Path × ByteArray} {rest : List (Path × ByteArray)} {s t u : Store}
      (first : Ran (replace disturbance directory w.1 w.2) s () t) (later : Passes disturbance directory rest t u) :
      Passes disturbance directory (w :: rest) s u

-- Some writes went well, and the next one failed.
def Stops (disturbance : Disturbance) (directory : Place) (written : List (Path × ByteArray)) (w : Path × ByteArray)
    (s : Store) (fault : FileFault) (t : Store) : Prop :=
  ∃ between, Passes disturbance directory written s between ∧
    (replace disturbance directory w.1 w.2).run.run between = (.error fault, t)

-- A place where nothing was may have become a directory on the way to another target.
structure Halfway (directory : Place) (written left : List (Path × ByteArray)) (s t : Store) : Prop where
  complete : ∀ w ∈ written, t.stat directory w.1 = .ok (.file w.2)
  untouched : ∀ w ∈ left, t.node (placeOf directory w.1) = s.node (placeOf directory w.1) ∨
    (s.node (placeOf directory w.1) = none ∧ t.node (placeOf directory w.1) = some .directory ∧
      ∃ v ∈ written ++ left, OnWay directory v.1.parent (placeOf directory w.1))

section

variable {disturbance : Disturbance} {directory : Place} {written left : List (Path × ByteArray)} {s t u : Store}

theorem passes_overlaid (passed : Passes disturbance directory written s t) (apart : Publish.Apart directory written) :
    Overlaid directory written s t := by
  induction passed with
  | nothing => exact overlaid_nothing directory _
  | @write w rest s _ _ first _ ih =>
      obtain ⟨different, others⟩ := List.pairwise_cons.mp apart
      have own := good_of_ran (replace_ends disturbance directory w.1 w.2 s) first
      exact overlaid_append own (ih others) (by simpa using different)

theorem passes_append {more : List (Path × ByteArray)} (first : Passes disturbance directory written s t)
    (second : Passes disturbance directory more t u) : Passes disturbance directory (written ++ more) s u := by
  induction first with
  | nothing => exact second
  | write own _ ih => exact .write own (ih second)

theorem passes_split (passed : Passes disturbance directory (written ++ left) s u) :
    ∃ t, Passes disturbance directory written s t ∧ Passes disturbance directory left t u := by
  induction written generalizing s with
  | nil => exact ⟨s, .nothing, passed⟩
  | cons w rest ih =>
      cases passed with
      | write first later =>
          obtain ⟨t, early, late⟩ := ih later
          exact ⟨t, .write first early, late⟩

theorem passes_same (passed : Passes disturbance directory written s t)
    (again : Passes disturbance directory written s u) : u = t := by
  induction passed with
  | nothing =>
      cases again
      rfl
  | write first _ ih =>
      cases again with
      | write once later =>
          cases first.symm.trans once
          exact ih later

theorem passes_never_stop {w : Path × ByteArray} {fault : FileFault}
    (passed : Passes disturbance directory (written ++ w :: left) s t) :
    ¬ Stops disturbance directory written w s fault u := by
  rintro ⟨between, early, failed⟩
  obtain ⟨reached, first, later⟩ := passes_split passed
  cases passes_same first early
  cases later with
  | write done _ => cases failed.symm.trans done

theorem passes_halfway (passed : Passes disturbance directory written s t)
    (apart : Publish.Apart directory (written ++ left)) : Halfway directory written left s t := by
  obtain ⟨own, -, across⟩ := List.pairwise_append.mp apart
  have overlaid := passes_overlaid passed own
  refine ⟨overlaid.held, fun w member => ?_⟩
  have others := overlaid.others _ fun v early same => across v early w member same.symm
  rcases others with same | ⟨vacant, made, v, early, way⟩
  · exact .inl same
  · exact .inr ⟨vacant, made, v, List.mem_append_left left early, way⟩

theorem halfway_grown {w : Path × ByteArray} (halfway : Halfway directory written left s t) (member : w ∈ left)
    (grown : Grown (OnWay directory w.1.parent) t u) : Halfway directory written left s u where
  complete := by
    intro v early
    have keeps : Keeps (fun _ => False) t u := grown_keeps grown
    exact stat_kept keeps (halfway.complete v early) id
  untouched := by
    intro v late
    rcases grown (placeOf directory v.1) with same | ⟨vacant, made, way⟩
    · rw [same]
      exact halfway.untouched v late
    · rcases halfway.untouched v late with before | ⟨-, earlier, -⟩
      · exact .inr ⟨before ▸ vacant, made, w, List.mem_append_right written member, way⟩
      · rw [vacant] at earlier
        cases earlier

theorem stops_halfway {w : Path × ByteArray} {fault : FileFault}
    (stopped : Stops disturbance directory written w s fault t)
    (apart : Publish.Apart directory (written ++ w :: left)) : Halfway directory written (w :: left) s t := by
  obtain ⟨between, passed, failed⟩ := stopped
  have grown := bad_of_failed (replace_ends disturbance directory w.1 w.2 between) failed
  exact halfway_grown (passes_halfway passed apart) List.mem_cons_self grown

theorem halfway_content {w : Path × ByteArray} (halfway : Halfway directory written left s t) (member : w ∈ left) :
    t.content? (placeOf directory w.1) = s.content? (placeOf directory w.1) := by
  unfold content?
  rcases halfway.untouched w member with same | ⟨vacant, made, -⟩
  · rw [same]
  · rw [vacant, made]

end

end Store

namespace Publish

open Store (Halfway Passes Stops placeOf)

section

variable {generator : Generator} {issued : Nat} {settings : Settings} {specName : String} {document : Entries}
    {c : Compilation}

-- The name of a body file has one hyphen more than the stub file's name.
theorem body_name_other (stem text : String) (use : Nat) :
    Compile.fileName (Compile.stemOf stem text) use ≠ stubFileName stem := by
  intro same
  have hyphens := congrArg (fun name => name.toList.count '-') same
  simp [Compile.body_name_chars, stubFileName, List.count_append] at hyphens

theorem body_place (host : Host) (files : Path) (free : '/' ∉ specName.toList)
    (success : (compileFrom generator issued settings specName document).outcome = .ok c) {file : BodyFile}
    (member : file ∈ c.files) :
    placeOf host.place (bodyPath files file) = placeOf host.place files ++ [file.name] := by
  obtain ⟨-, -, named⟩ := Compile.compiled_files success
  obtain ⟨text, use, status, same⟩ := named file member
  exact Store.place_child _ _ (same ▸ Compile.body_name_step free status use)

theorem stub_place (host : Host) (stubs : Path) (free : '/' ∉ specName.toList)
    (success : (compileFrom generator issued settings specName document).outcome = .ok c) :
    placeOf host.place (stubPath stubs c.name) = placeOf host.place stubs ++ [stubFileName specName] := by
  obtain ⟨rfl, -, -⟩ := Compile.compiled_files success
  exact Store.place_child _ _ (stub_name_step free)

theorem contents_apart (host : Host) (stubs files : Path) (free : '/' ∉ specName.toList)
    (success : (compileFrom generator issued settings specName document).outcome = .ok c) :
    Apart host.place (contents stubs files c) := by
  obtain ⟨-, distinct, named⟩ := Compile.compiled_files success
  refine List.pairwise_append.mpr ⟨?_, List.pairwise_singleton .., ?_⟩
  · rw [List.Nodup, List.pairwise_map] at distinct
    refine List.pairwise_map.mpr (distinct.imp_of_mem ?_)
    intro file other inside also different same
    rw [body_place host files free success inside, body_place host files free success also,
      List.append_right_inj, List.singleton_inj] at same
    exact different same
  · intro w member v last same
    obtain ⟨file, inside, rfl⟩ := List.mem_map.mp member
    cases List.mem_singleton.mp last
    obtain ⟨text, use, -, name⟩ := named file inside
    rw [body_place host files free success inside, stubContent, stub_place host stubs free success] at same
    have names := List.singleton_inj.mp (List.append_inj_right' same rfl)
    exact body_name_other specName text use (name.symm.trans names)

end

-- A sequence of writes has come to an end before all of them were done.
def Halted (disturbance : Store.Disturbance) (host : Host) (writes : List (Path × ByteArray)) (before : Store)
    (e : Error) (after : Desk) : Prop :=
  ∃ fault written w left, e = .file fault ∧ writes = written ++ w :: left ∧
    Stops disturbance host.place written w before fault after.store

theorem write_bodies_run (disturbance : Store.Disturbance) (host : Host) (files : Path) (bodies : List BodyFile)
    (desk : Desk) :
    Ends (writeBodies disturbance host files bodies) desk
      (fun paths after => paths = (bodyContents files bodies).map (·.1) ∧
        Passes disturbance host.place (bodyContents files bodies) desk.store after.store)
      (Halted disturbance host (bodyContents files bodies) desk.store) := by
  induction bodies generalizing desk with
  | nil => exact ends_pure ⟨rfl, .nothing⟩
  | cons file rest ih =>
      refine ends_bind (ends_imp (Job.change_ends ends_run) (fun _ _ done => done) ?_) fun _ between first => ?_
      · rintro e after ⟨fault, rfl, failed⟩
        exact ⟨fault, [], _, _, rfl, rfl, desk.store, .nothing, failed⟩
      · refine ends_modify_bind (ends_bind (ends_imp (ih _) (fun _ _ done => done) ?_) ?_)
        · rintro e after ⟨fault, written, w, left, rfl, same, middle, passed, failed⟩
          refine ⟨fault, (bodyPath files file, file.content) :: written, w, left, rfl, ?_, middle, .write first passed,
            failed⟩
          rw [List.cons_append, ← same]
          rfl
        · rintro paths after ⟨rfl, passed⟩
          exact ends_pure ⟨rfl, .write first passed⟩

-- All body files are written, but the stubs have no text.
def Unprinted (disturbance : Store.Disturbance) (host : Host) (files : Path) (c : Compilation) (before : Store)
    (e : Error) (after : Desk) : Prop :=
  Stub.documentText c.stubs = .error e ∧
    Passes disturbance host.place (bodyContents files c.files) before after.store

theorem write_stubs_run (disturbance : Store.Disturbance) (host : Host) (stubs : Path) (c : Compilation) (desk : Desk) :
    Ends (writeStubs disturbance host stubs c) desk
      (fun p after => p = stubPath stubs c.name ∧
        Ran (Store.replace disturbance host.place p (Stub.dump c.stubs).toUTF8) desk.store () after.store)
      (fun e after => (∃ fault, e = .file fault ∧
          (Store.replace disturbance host.place (stubPath stubs c.name) (Stub.dump c.stubs).toUTF8).run.run
            desk.store = (.error fault, after.store)) ∨
        Stub.documentText c.stubs = .error e ∧ after = desk) := by
  refine ends_result_bind (fun text told => ?_) fun _ failed => .inr ⟨failed, rfl⟩
  rw [Stub.dump_of_text told]
  refine ends_bind (ends_imp (Job.change_ends ends_run) (fun _ _ done => done) fun _ _ failed => .inl failed)
    fun _ between done => ?_
  exact ends_modify_bind (ends_pure ⟨rfl, done⟩)

theorem write_run (disturbance : Store.Disturbance) (host : Host) (stubs : Path) (files : Option Path) (c : Compilation)
    (desk : Desk) :
    Ends (write disturbance host stubs files c) desk
      (fun paths after => paths = (contents stubs (filesDirectory stubs files) c).map (·.1) ∧
        Passes disturbance host.place (contents stubs (filesDirectory stubs files) c) desk.store after.store)
      (fun e after =>
        Halted disturbance host (contents stubs (filesDirectory stubs files) c) desk.store e after ∨
          Unprinted disturbance host (filesDirectory stubs files) c desk.store e after) := by
  unfold write
  have bodies := write_bodies_run disturbance host (filesDirectory stubs files) c.files desk
  refine ends_bind (ends_imp bodies (fun _ _ done => done) ?_) fun paths between done => ?_
  · rintro e after ⟨fault, written, w, left, rfl, same, stopped⟩
    refine .inl ⟨fault, written, w, left ++ [stubContent stubs c], rfl, ?_, stopped⟩
    rw [contents, same, List.append_assoc, List.cons_append]
  · obtain ⟨rfl, passed⟩ := done
    refine ends_bind (ends_imp (write_stubs_run disturbance host stubs c between) (fun _ _ done => done) ?_) ?_
    · rintro e after (⟨fault, rfl, failed⟩ | ⟨failed, rfl⟩)
      · exact .inl ⟨fault, _, stubContent stubs c, [], rfl, rfl, between.store, passed, failed⟩
      · exact .inr ⟨failed, passed⟩
    · rintro p after ⟨rfl, last⟩
      refine ends_pure ⟨by simp [contents, stubContent], ?_⟩
      exact Store.passes_append passed (.write last .nothing)

-- Whether a compilation can be written depends on the store only.
theorem write_again {disturbance : Store.Disturbance} {host : Host} {stubs : Path} {files : Option Path}
    {c : Compilation} {desk other after : Desk} {paths : List Path} (same : other.store = desk.store)
    (done : Ran (write disturbance host stubs files c) desk paths after) :
    Ends (write disturbance host stubs files c) other
      (fun _ after => after.store.read host.place (stubPath stubs c.name) = .ok (Stub.dump c.stubs).toUTF8)
      fun _ _ => False := by
  obtain ⟨_, _, -, -, ⟨text, told⟩, -⟩ := ran_write disturbance host stubs files c desk after paths done
  have passed := (good_of_ran (write_run disturbance host stubs files c desk) done).2
  rw [← same] at passed
  refine ends_imp (ends_and (write_run disturbance host stubs files c other) ends_run) ?_ ?_
  · rintro paths after ⟨-, ran⟩
    obtain ⟨_, between, -, -, -, replaced⟩ := ran_write disturbance host stubs files c other after paths ran
    exact Store.replace_read disturbance host.place _ _ between.store after.store () replaced
  · rintro e after ⟨⟨fault, written, w, left, -, split, stopped⟩ | ⟨failed, -⟩, -⟩
    · rw [split] at passed
      exact Store.passes_never_stop passed stopped
    · cases failed.symm.trans told

-- The document of the stubs is the last to be written.
theorem stubs_left {stubs files : Path} {c : Compilation} {written left : List (Path × ByteArray)}
    {w : Path × ByteArray} (split : contents stubs files c = written ++ w :: left) :
    stubContent stubs c ∈ w :: left := by
  have last : (written ++ w :: left).getLast? = some (stubContent stubs c) := by
    rw [← split, contents, List.getLast?_concat]
  rw [List.getLast?_append_of_ne_nil _ (List.cons_ne_nil w left)] at last
  exact List.mem_of_getLast? last

theorem stub_files_read {host : Host} {stubs files : Path} {generator : Generator} {issued : Nat} {settings : Settings}
    {specName : String} {document : Entries} {c : Compilation} {store : Store}
    (success : (compileFrom generator issued settings specName document).outcome = .ok c)
    (held : ∀ w ∈ contents stubs files c, store.stat host.place w.1 = .ok (.file w.2)) {stub : Stub}
    (member : stub ∈ c.stubs) {name : String} (answers : stub.response.bodyFileName = some name) :
    ∃ file ∈ c.files, file.name = name ∧ store.read host.place (files.child name) = .ok file.content := by
  obtain ⟨file, inside, rfl⟩ := Compile.compiled_stub_file success member answers
  have body : (bodyPath files file, file.content) ∈ contents stubs files c :=
    List.mem_append_left _ (List.mem_map_of_mem inside)
  exact ⟨file, inside, rfl, Store.read_of_stat (held _ body)⟩

theorem unprinted_status {generator : Generator} {issued : Nat} {settings : Settings} {specName : String}
    {document : Entries} {c : Compilation} {e : Error}
    (success : (compileFrom generator issued settings specName document).outcome = .ok c)
    (failed : Stub.documentText c.stubs = .error e) : ¬ Json.Readable settings.defaultStatus := by
  intro known
  obtain ⟨text, told, -⟩ := Stub.document_text_written c.stubs (Compile.compiled_stubs_formed success known)
  rw [failed] at told
  cases told

-- What was left unwritten, and why: a write failed, or the status that stands for `default` has no text.
def BrokenOff (disturbance : Store.Disturbance) (host : Host) (settings : Settings) (c : Compilation)
    (written left : List (Path × ByteArray)) (before : Store) (e : Error) (after : Store) : Prop :=
  (∃ fault w rest, e = .file fault ∧ left = w :: rest ∧ Stops disturbance host.place written w before fault after) ∨
    ¬ Json.Readable settings.defaultStatus ∧ Stub.documentText c.stubs = .error e ∧
      Passes disturbance host.place written before after

-- Whatever write is made to fail, and whatever was there before.
theorem writes_are_whole (disturbance : Store.Disturbance) (host : Host) (stubs : Path) (files : Option Path)
    (generator : Generator) (issued : Nat) (settings : Settings) (specName : String) (document : Entries)
    (c : Compilation) (desk : Desk) (free : '/' ∉ specName.toList)
    (success : (compileFrom generator issued settings specName document).outcome = .ok c) :
    Apart host.place (contents stubs (filesDirectory stubs files) c) ∧
      (∀ written left between, contents stubs (filesDirectory stubs files) c = written ++ left →
        Passes disturbance host.place written desk.store between →
          Halfway host.place written left desk.store between ∧
            ∀ w ∈ left, between.content? (placeOf host.place w.1) = desk.store.content? (placeOf host.place w.1)) ∧
      Ends (write disturbance host stubs files c) desk
        (fun paths after => paths = (contents stubs (filesDirectory stubs files) c).map (·.1) ∧
          Passes disturbance host.place (contents stubs (filesDirectory stubs files) c) desk.store after.store ∧
          after.store.read host.place (stubPath stubs c.name) = .ok (Stub.dump c.stubs).toUTF8 ∧
          ∀ stub ∈ c.stubs, ∀ name, stub.response.bodyFileName = some name → ∃ file ∈ c.files, file.name = name ∧
            after.store.read host.place ((filesDirectory stubs files).child name) = .ok file.content)
        (fun e after => ∃ written left, contents stubs (filesDirectory stubs files) c = written ++ left ∧
          BrokenOff disturbance host settings c written left desk.store e after.store ∧
          Halfway host.place written left desk.store after.store ∧
          (∀ v ∈ left,
            after.store.content? (placeOf host.place v.1) = desk.store.content? (placeOf host.place v.1)) ∧
          after.store.content? (placeOf host.place (stubPath stubs c.name)) =
            desk.store.content? (placeOf host.place (stubPath stubs c.name))) := by
  have apart := contents_apart host stubs (filesDirectory stubs files) free success
  refine ⟨apart, ?_, ends_imp (write_run disturbance host stubs files c desk) ?_ ?_⟩
  · intro written left between split passed
    have halfway := Store.passes_halfway passed (split ▸ apart)
    exact ⟨halfway, fun w member => Store.halfway_content halfway member⟩
  · rintro paths after ⟨same, passed⟩
    have held := (Store.passes_overlaid passed apart).held
    have document := held (stubContent stubs c) (List.mem_append_right _ (List.mem_singleton_self _))
    refine ⟨same, passed, Store.read_of_stat document, ?_⟩
    intro stub member name answers
    exact stub_files_read success held member answers
  · rintro e after (⟨fault, written, w, left, rfl, split, stopped⟩ | ⟨failed, passed⟩)
    · have halfway := Store.stops_halfway stopped (split ▸ apart)
      have last : after.store.content? (placeOf host.place (stubContent stubs c).1) =
          desk.store.content? (placeOf host.place (stubContent stubs c).1) :=
        Store.halfway_content halfway (stubs_left split)
      exact ⟨written, w :: left, split, .inl ⟨fault, w, left, rfl, rfl, stopped⟩, halfway,
        fun v member => Store.halfway_content halfway member, last⟩
    · have halfway := Store.passes_halfway passed apart
      have last : after.store.content? (placeOf host.place (stubContent stubs c).1) =
          desk.store.content? (placeOf host.place (stubContent stubs c).1) :=
        Store.halfway_content halfway (List.mem_singleton_self _)
      exact ⟨_, [stubContent stubs c], rfl, .inr ⟨unprinted_status success failed, failed, passed⟩, halfway,
        fun v member => Store.halfway_content halfway member, last⟩

-- Bodies and stubs go into one directory, where an older document of stubs is.
def sharedDirectory : Path :=
  ⟨"", ["out"]⟩

def sharedDesk : Desk :=
  ⟨⟨[(["home"], .directory), (["home", "out"], .directory),
    (["home", "out", "WireMockStub-pets.json"], .file "older".toUTF8)]⟩, 0, []⟩

-- The draft of the document is complete, but does not take the document's name.
def noRename : Store.Disturbance
  | .rename _ target => if target = ["home", "out", "WireMockStub-pets.json"] then some .noSpace else none
  | _ => none

theorem pets_stop_whole :
    '/' ∉ "pets".toList ∧
      compile (Settings.withBounds {} 1 2) "pets" Compile.pets = .ok Compile.petsStubs ∧
      ∃ e after, (write noRename sampleHost sharedDirectory (some sharedDirectory) Compile.petsStubs).run.run
          sharedDesk = (.error e, after) ∧
        after.store.content? ["home", "out", "pets-response-200.json"] =
          some "\x7b\n  \"name\": \"Sentence 0 en_US.\"\n\x7d".toUTF8 ∧
        after.store.content? ["home", "out", "WireMockStub-pets.json"] = some "older".toUTF8 := by
  have free : '/' ∉ "pets".toList := by decide
  obtain ⟨-, -, ends⟩ := writes_are_whole noRename sampleHost sharedDirectory (some sharedDirectory)
    (Generator.start {}) 0 (Settings.withBounds {} 1 2) "pets" Compile.pets Compile.petsStubs sharedDesk free
    Compile.pets_compile
  have failed : ((write noRename sampleHost sharedDirectory (some sharedDirectory) Compile.petsStubs).run.run
      sharedDesk).1.toOption.isSome = false := by decide +kernel
  have written : ((write noRename sampleHost sharedDirectory (some sharedDirectory) Compile.petsStubs).run.run
      sharedDesk).2.store.content? ["home", "out", "pets-response-200.json"] =
        some "\x7b\n  \"name\": \"Sentence 0 en_US.\"\n\x7d".toUTF8 := by decide +kernel
  have place : placeOf sampleHost.place (stubPath sharedDirectory Compile.petsStubs.name) =
      ["home", "out", "WireMockStub-pets.json"] := by decide +kernel
  have older : sharedDesk.store.content? ["home", "out", "WireMockStub-pets.json"] = some "older".toUTF8 := by
    decide +kernel
  obtain ⟨e, after, ran⟩ := run_failed failed
  rw [ran] at written
  obtain ⟨_, _, -, -, -, -, kept⟩ := bad_of_failed ends ran
  rw [place, older] at kept
  exact ⟨free, Compile.pets_compile, e, after, ran, written, kept⟩

end Publish

end ApiStubs
