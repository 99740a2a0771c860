import ApiStubs.Proofs.Command.Opening
import ApiStubs.Proofs.Publication

/- A preview is the product. What a source compiles to does not depend on what a command does with it: the command that
   shows it and the command that writes it come to the same compilation or to failures of the same code, and the text
   shown is the content of the file that is written. -/

set_option autoImplicit false

namespace ApiStubs

namespace Command

open ApiStubs.Configuration (Flags Made made_directory made_grown resolution resolve_made)
open Store (SameFile grown_same_file placeOf same_file_trans)

-- What a source compiles to in a store that is opened.
def previewed (fresh : Settings → Generator) (host : Host) (store : Store) (issued : Nat) (source : String)
    (flags : Flags) : Except Error Compilation := do
  let r ← resolution host store flags
  let name ← nameOf source none
  Batch.compiledFrom fresh host store issued source name r.settings

def product (fresh : Settings → Generator) (host : Host) (desk : Desk) (source : String) (flags : Flags) :
    Except Error Compilation := do
  previewed fresh host (← opening host desk.store) desk.issued source flags

theorem opened_product (fresh : Settings → Generator) {host : Host} {g : Globals} {before between : Desk} {t : Terminal}
    (opened : Opened host g before t between) (source : String) (flags : Flags) :
    product fresh host before source flags = previewed fresh host between.store between.issued source flags := by
  rw [product, opened.found, opened.issued]
  rfl

theorem compile_source_shows (fresh : Settings → Generator) (host : Host) (source specName : String)
    (settings : Settings) (desk : Desk) :
    Ends (Batch.compileSource host source specName settings fresh) desk (fun _ after => Shows desk after "")
      (fun _ _ => True) := by
  unfold Batch.compileSource
  refine Job.ends_store_bind (ends_result_bind (fun document _ => ?_) fun _ _ => trivial)
  refine ends_result_bind (fun _ _ => ?_) fun _ _ => trivial
  refine ends_get_bind (ends_set_bind (ends_result (fun c _ => ?_) fun _ _ => trivial))
  refine shows_silent rfl ?_
  simp [Journal.Entry.isDrawing, Journal.Entry.dataText]

-- Whatever the source compiles to can be written.
def Writes (fresh : Settings → Generator) (host : Host) (before : Desk) (source : String) (stubs : Path)
    (files : Option Path) (flags : Flags) : Prop :=
  ∀ c between, Ran (compilePreview host source flags fresh) before c between →
    ∃ paths after, Ran (Publish.write Store.undisturbed host stubs files c) between paths after

section

variable {fresh : Settings → Generator} {host : Host} {g : Globals} {before between desk : Desk} {t : Terminal}
  {ready : Store} {source : String} {flags : Flags} {stubs : Path} {files : Option Path}

theorem opened_ready (opened : Opened host g before t between) : Made host between.store between.store :=
  Store.make_directories_kept (made_directory opened.made)

theorem previewed_resolved {r : Configuration.Resolution} {name : String} (issued : Nat)
    (resolved : resolution host ready flags = .ok r) (named : nameOf source none = .ok name) :
    previewed fresh host ready issued source flags =
      Batch.compiledFrom fresh host ready issued source name r.settings := by
  rw [previewed, resolved, named]
  rfl

theorem previewed_unresolved {e : Error} (issued : Nat) (failed : resolution host ready flags = .error e) :
    previewed fresh host ready issued source flags = .error e := by
  rw [previewed, failed]
  rfl

variable (fresh) in
theorem preview_made (source : String) (flags : Flags) (made : Made host desk.store ready) :
    Ends (compilePreview host source flags fresh) desk
      (fun c after => previewed fresh host ready desk.issued source flags = .ok c ∧ after.store = ready ∧
        Shows desk after "")
      (fun e after => previewed fresh host ready desk.issued source flags = .error e ∧ after.store = ready) := by
  unfold compilePreview
  refine ends_bind (ends_imp (resolve_made flags made) (fun _ _ resolved => resolved) ?_) ?_
  · rintro e after ⟨failed, rfl⟩
    exact ⟨previewed_unresolved _ failed, rfl⟩
  rintro r opened ⟨resolved, rfl⟩
  refine ends_result_bind (fun name named => ?_) fun e nameless => ?_
  · rw [previewed_resolved desk.issued resolved named]
    refine ends_imp (ends_and (Batch.compile_source_ends ..) (compile_source_shows ..)) ?_ fun _ _ failed => failed.1
    rintro c after ⟨⟨compiles, same⟩, told, extended, silent⟩
    exact ⟨compiles, same, told, extended, silent⟩
  · exact ⟨by rw [previewed, resolved, nameless]; rfl, rfl⟩

theorem previewed_ran {c : Compilation} (made : Made host desk.store ready)
    (success : previewed fresh host ready desk.issued source flags = .ok c) :
    ∃ after, Ran (compilePreview host source flags fresh) desk c after ∧ after.store = ready := by
  have ends : Ends (compilePreview host source flags fresh) desk (fun d after => d = c ∧ after.store = ready)
      fun _ _ => False := by
    refine ends_imp (preview_made fresh source flags made) ?_ ?_
    · rintro d after ⟨again, kept, -⟩
      exact ⟨Except.ok.inj (again.symm.trans success), kept⟩
    · rintro e after ⟨failed, -⟩
      cases failed.symm.trans success
  obtain ⟨_, after, ran, rfl, kept⟩ := ran_of_ends ends
  exact ⟨after, ran, kept⟩

-- What is compiled once the terminal is open can be written from there.
theorem writes_opened {c : Compilation} (writes : Writes fresh host before source stubs files flags)
    (opened : Opened host g before t between) (success : product fresh host before source flags = .ok c) :
    ∃ desk paths after, desk.store = between.store ∧
      Ran (Publish.write Store.undisturbed host stubs files c) desk paths after := by
  have shows : previewed fresh host between.store before.issued source flags = .ok c := by
    rw [← opened.issued, ← opened_product fresh opened source flags]
    exact success
  obtain ⟨shown, ran, same⟩ := previewed_ran opened.made shows
  obtain ⟨paths, after, done⟩ := writes c shown ran
  exact ⟨shown, paths, after, same, done⟩

-- What a run comes to that shows what a source compiles to. It writes no file but the log of a crash.
structure Previews (fresh : Settings → Generator) (host : Host) (account : Error → String) (before : Desk)
    (source : String) (flags : Flags) (ending : Ending) (after : Desk) : Prop where
  ended : ending = endingOf (product fresh host before source flags)
  kept : ∀ place, SameFile place before.store after.store ∨
    place = placeOf host.place (crashLog host host.dataDirectory) ∧
      ∃ e, product fresh host before source flags = .error e ∧ Crashes e
  logged : ∀ e, product fresh host before source flags = .error e → Crashes e →
    Logs host (prepared host before.store) (account e) →
      after.store.read host.place (crashLog host host.dataDirectory) = .ok (account e).toUTF8
  shown : ∀ c, product fresh host before source flags = .ok c → Shows before after (Stub.dump c.stubs)

-- With a format of JSON, the preview is the text of the document.
theorem preview_text {c : Compilation} {text : String} (json : t.format = .json)
    (told : Stub.documentText c.stubs = .ok text) : preview t c = .ok (Terminal.data text) := by
  rw [preview, if_pos json, told]
  rfl

theorem data_shows {c : Compilation} {text : String} {after : Desk} (told : Stub.documentText c.stubs = .ok text)
    (written : after.journal = desk.journal ++ Terminal.data text) : Shows desk after (Stub.dump c.stubs) := by
  refine ⟨_, written, by simp [Terminal.data, Journal.Entry.isDrawing], ?_⟩
  rw [Stub.dump_of_text told]
  simp [Journal.output, Terminal.data, Journal.Entry.dataText]

variable {account : Error → String}

theorem previews_compiled {c : Compilation} {after : Desk} (success : product fresh host before source flags = .ok c)
    (same : ∀ place, SameFile place before.store after.store) (shows : Shows before after (Stub.dump c.stubs)) :
    Previews fresh host account before source flags (.exit 0) after where
  ended := by rw [success]; rfl
  kept := fun place => .inl (same place)
  logged := by
    intro e fails
    cases success.symm.trans fails
  shown := by
    intro d again
    cases success.symm.trans again
    exact shows

theorem previews_failed {e : Error} {after : Desk} (fails : product fresh host before source flags = .error e)
    (left : between.store = prepared host before.store) (same : ∀ place, SameFile place before.store between.store)
    (spared : Spared host account e between after) :
    Previews fresh host account before source flags (.exit (endCode e)) after where
  ended := by rw [fails]; rfl
  kept := fun place => (spared.kept place).imp (same_file_trans (same place)) fun log => ⟨log.1, e, fails, log.2⟩
  logged := by
    intro f again crashes logs
    cases fails.symm.trans again
    exact spared.logged crashes (left ▸ logs)
  shown := by
    intro c success
    cases fails.symm.trans success

theorem inspect_shows (json : g.json = true) (writes : Writes fresh host before source stubs files flags)
    (opened : Opened host g before t between) :
    Ends (do
      Job.write (← Job.lift (preview t (← compilePreview host source flags fresh)))
      return 0 : Job Int) between
      (fun code after => Previews fresh host account before source flags (.exit code) after)
      (fun e after => product fresh host before source flags = .error e ∧ after.store = between.store) := by
  have same : ∀ place, SameFile place before.store between.store := grown_same_file (made_grown opened.made)
  have whole := opened_product fresh opened source flags
  rw [whole]
  have compiles := preview_made fresh source flags (opened_ready opened)
  refine ends_bind (ends_imp compiles (fun _ _ compiled => compiled) fun _ _ failed => failed) ?_
  rintro c compiled ⟨success, kept, silent⟩
  obtain ⟨desk, paths, after, -, done⟩ := writes_opened writes opened (whole.trans success)
  obtain ⟨_, _, -, -, ⟨text, told⟩, -⟩ := Publish.ran_write _ _ _ _ _ _ _ _ done
  rw [preview_text (opened.format json) told]
  have shown : Shows compiled { compiled with journal := compiled.journal ++ Terminal.data text } (Stub.dump c.stubs) :=
    data_shows told rfl
  refine ends_result_bind (fun entries chosen => ?_) fun _ failed => nomatch failed
  cases chosen
  refine ends_modify_bind (ends_pure ?_)
  refine previews_compiled (whole.trans success) (kept ▸ same) ?_
  simpa only [String.empty_append] using shows_then (shows_then opened.silent silent) shown

theorem inspect_concludes (json : g.json = true) (writes : Writes fresh host before source stubs files flags)
    (opened : Opened host g before t between) :
    Concludes host account t (inspect host t source flags fresh) between
      (Previews fresh host account before source flags) := by
  have same : ∀ place, SameFile place before.store between.store := grown_same_file (made_grown opened.made)
  refine concludes_spared host account t ?_
  unfold inspect orReport
  refine ends_catch (inspect_shows json writes opened) fun e failed ⟨fails, kept⟩ => ?_
  have left : failed.store = prepared host before.store := kept.trans (prepared_made opened.made).symm
  rw [← kept] at same
  exact report_ends host account t fun after spared => previews_failed fails left same spared

theorem inspect_previews {arguments : List String} (asked : Asks arguments g (.inspect source flags))
    (json : g.json = true) (writes : Writes fresh host before source stubs files flags) :
    Previews fresh host account before source flags ((run host account arguments fresh).run before).1.ending
      ((run host account arguments fresh).run before).2 := by
  refine run_reaches host account asked (fun _ => rfl) (open_terminal_opened host g before)
    (fun t between opened => inspect_concludes json writes opened) ?_
  rintro e t between ⟨failed, left, same⟩
  refine concludes_spared host account t (ends_throw fun after spared => previews_failed ?_ left same spared)
  rw [product, failed]
  rfl

-- What a run comes to that writes what a source compiles to.
structure Produces (fresh : Settings → Generator) (host : Host) (before : Desk) (source : String) (stubs : Path)
    (flags : Flags) (ending : Ending) (after : Desk) : Prop where
  ended : ending = endingOf (product fresh host before source flags)
  written : ∀ c, product fresh host before source flags = .ok c → ∃ name, nameOf source none = .ok name ∧
    after.store.read host.place (Publish.stubPath stubs name) = .ok (Stub.dump c.stubs).toUTF8

theorem produces_failed {e : Error} (fails : product fresh host before source flags = .error e) (after : Desk) :
    Produces fresh host before source stubs flags (.exit (endCode e)) after where
  ended := by rw [fails]; rfl
  written := by
    intro c success
    cases fails.symm.trans success

theorem unnamed_code {given : Option String} {e : Error} (unnamed : nameOf source given = .error e) :
    endCode e = 1 := by
  unfold nameOf at unnamed
  split at unnamed
  · cases unnamed
  · split at unnamed
    · cases unnamed
    · cases unnamed
      rfl

-- Without a name nothing is compiled, and it does not matter what else is wrong.
theorem previewed_unnamed {e : Error} (issued : Nat) (unnamed : nameOf source none = .error e) :
    ∃ f, previewed fresh host ready issued source flags = .error f ∧ endCode f = endCode e := by
  rw [unnamed_code unnamed]
  cases resolved : resolution host ready flags with
  | error f =>
      obtain ⟨p, trouble⟩ := returns_known (Configuration.resolution_returns host ready flags) resolved
      exact ⟨f, previewed_unresolved issued resolved, end_code_troubled trouble⟩
  | ok r => exact ⟨e, by rw [previewed, resolved, unnamed]; rfl, unnamed_code unnamed⟩

theorem compile_and_write_ends {name : String} (writes : Writes fresh host before source stubs files flags)
    (opened : Opened host g before t between) (named : nameOf source none = .ok name) :
    Ends (compileAndWrite host t source name stubs files flags fresh) between
      (fun code after => Produces fresh host before source stubs flags (.exit code) after)
      (fun e _ => product fresh host before source flags = .error e) := by
  have whole := opened_product fresh opened source flags
  unfold compileAndWrite
  refine ends_bind (ends_imp (resolve_made flags (opened_ready opened)) (fun _ _ resolved => resolved) ?_) ?_
  · rintro e after ⟨failed, -⟩
    rw [whole, previewed_unresolved _ failed]
  rintro r resolved ⟨settled, rfl⟩
  rw [previewed_resolved between.issued settled named] at whole
  refine ends_modify_bind ?_
  have compiling := Batch.compile_source_ends fresh host source name r.settings
    { between with journal := between.journal ++ t.info ("Processing spec: " ++ source) }
  refine ends_bind (ends_imp compiling (fun _ _ compiled => compiled) ?_) ?_
  · rintro e after ⟨failed, -⟩
    exact whole.trans failed
  rintro c compiled ⟨success, kept⟩
  have own : c.name = name := by
    obtain ⟨document, result⟩ := Batch.compiled_document success
    exact (Compile.compiled_files result).1
  obtain ⟨desk, paths, after, same, done⟩ := writes_opened writes opened (whole.trans success)
  have writing := Publish.write_again (kept.trans same.symm) done
  refine ends_bind (ends_imp writing (fun _ _ read => read) fun _ _ never => never.elim) fun _ final read => ?_
  refine ends_modify_bind (ends_pure ⟨?_, fun d again => ?_⟩)
  · rw [whole.trans success]
    rfl
  · cases (whole.trans success).symm.trans again
    exact ⟨name, named, own ▸ read⟩

theorem generate_concludes (account : Error → String) (writes : Writes fresh host before source stubs files flags)
    (opened : Opened host g before t between) :
    Concludes host account t (generate host t source stubs none files flags fresh) between
      (Produces fresh host before source stubs flags) := by
  refine concludes_spared host account t ?_
  unfold generate
  refine ends_result_bind (fun name named => ?_) fun e unnamed after _ => ?_
  · refine ends_catch (compile_and_write_ends writes opened named) fun e failed fails => ?_
    split
    · exact ends_modify_bind (ends_pure (produces_failed fails _))
    · exact report_ends host account t fun after _ => produces_failed fails after
  · obtain ⟨f, fails, code⟩ := previewed_unnamed between.issued unnamed
    rw [← code]
    exact produces_failed ((opened_product fresh opened source flags).trans fails) after

theorem generate_produces (account : Error → String) {arguments : List String}
    (asked : Asks arguments g (.generate source stubs none files flags))
    (writes : Writes fresh host before source stubs files flags) :
    Produces fresh host before source stubs flags ((run host account arguments fresh).run before).1.ending
      ((run host account arguments fresh).run before).2 := by
  refine run_reaches host account asked (fun _ => rfl) (open_terminal_opened host g before)
    (fun t between opened => generate_concludes account writes opened) ?_
  rintro e t between ⟨failed, -, -⟩
  refine concludes_spared host account t (ends_throw fun after _ => produces_failed ?_ after)
  rw [product, failed]
  rfl

theorem opening_returns (host : Host) (store : Store) :
    Returns (fun _ => True) (fun e => endCode e ≠ 0) (opening host store) := by
  unfold opening
  split
  · exact .error (end_code_counts (Configuration.fault_counts _))
  · split
    · exact .ok trivial
    · next e failed =>
      split
      · exact .ok trivial
      · obtain ⟨p, trouble⟩ := returns_known (Configuration.resolution_returns ..) failed
        exact .error (by rw [end_code_troubled trouble]; decide)

theorem product_returns (fresh : Settings → Generator) (host : Host) (desk : Desk) (source : String) (flags : Flags) :
    Returns (fun _ => True) (fun e => endCode e ≠ 0) (product fresh host desk source flags) := by
  have resolves (store : Store) : Returns (fun _ => True) (fun e => endCode e ≠ 0) (resolution host store flags) := by
    refine returns_imp (Configuration.resolution_returns host store flags) (fun _ _ => trivial) ?_
    rintro e ⟨p, trouble⟩
    rw [end_code_troubled trouble]
    decide
  have names : Returns (fun _ => True) (fun e => endCode e ≠ 0) (nameOf source none) := by
    cases named : nameOf source none with
    | ok name => exact .ok trivial
    | error e => exact .error (by rw [unnamed_code named]; decide)
  refine returns_bind (opening_returns host desk.store) fun ready _ => ?_
  refine returns_bind (resolves ready) fun r _ => returns_bind names fun name _ => ?_
  exact returns_imp (Batch.compiled_counted ..) (fun _ _ => trivial) fun _ counts => end_code_counts counts

end

theorem preview_is_product (fresh : Settings → Generator) (host : Host) (account : Error → String)
    (arguments others : List String) (g h : Globals) (source : String) (stubs : Path) (files : Option Path)
    (flags : Flags) (before after final : Desk) (first second : Result)
    (inspects : Asks arguments g (.inspect source flags)) (json : g.json = true)
    (generates : Asks others h (.generate source stubs none files flags))
    (writes : Writes fresh host before source stubs files flags)
    (shown : (run host account arguments fresh).run before = (first, after))
    (made : (run host account others fresh).run before = (second, final)) :
    ((∃ code, code ≠ 0 ∧ first.ending = .exit code ∧ second.ending = .exit code) ∨
      first.ending = .exit 0 ∧ second.ending = .exit 0 ∧ ∃ name text, nameOf source none = .ok name ∧
        Shows before after text ∧ final.store.read host.place (Publish.stubPath stubs name) = .ok text.toUTF8) ∧
    (∀ place, SameFile place before.store after.store ∨
      place = placeOf host.place (crashLog host host.dataDirectory) ∧
        ∃ e, product fresh host before source flags = .error e ∧ Crashes e) ∧
    ∀ e, product fresh host before source flags = .error e → Crashes e →
      Logs host (prepared host before.store) (account e) →
        after.store.read host.place (crashLog host host.dataDirectory) = .ok (account e).toUTF8 := by
  have previews : Previews fresh host account before source flags _ _ := inspect_previews inspects json writes
  have produces := generate_produces account generates writes
  rw [shown] at previews
  rw [made] at produces
  refine ⟨?_, previews.kept, previews.logged⟩
  have returns := product_returns fresh host before source flags
  cases outcome : product fresh host before source flags with
  | error e =>
      have counts := returns_known returns outcome
      refine .inl ⟨endCode e, counts, ?_, ?_⟩
      · rw [previews.ended, outcome]
        rfl
      · rw [produces.ended, outcome]
        rfl
  | ok c =>
      obtain ⟨name, named, written⟩ := produces.written c outcome
      refine .inr ⟨?_, ?_, name, Stub.dump c.stubs, named, previews.shown c outcome, written⟩
      · rw [previews.ended, outcome]
        rfl
      · rw [produces.ended, outcome]
        rfl

def petsText : String :=
  "\x7b\"openapi\": \"3.0\", \"paths\": \x7b\"/pets\": \x7b\"get\": \x7b\"responses\": \x7b\"" ++
    "200\": \x7b\"content\": \x7b\"application/json\": \x7b\"example\": 1\x7d\x7d\x7d\x7d\x7d\x7d\x7d\x7d"

def petsDesk : Desk :=
  ⟨⟨[(["home"], .directory), (["home", "pets.json"], .file petsText.toUTF8)]⟩, 0, []⟩

def petsInspected : List String :=
  ["--json", "inspect", "pets.json", "--seed", "7"]

def petsGenerated : List String :=
  ["generate", "pets.json", "-o", "out", "--seed", "7"]

def petsRun (arguments : List String) : Result × Desk :=
  (run Publish.sampleHost (fun _ => "") arguments).run petsDesk

theorem pets_ran (arguments : List String) :
    (run Publish.sampleHost (fun _ => "") arguments).run petsDesk = ((petsRun arguments).1, (petsRun arguments).2) :=
  rfl

def petsFlags : Flags :=
  { seed := some 7 }

-- Whether what is compiled for a preview can be written where it was compiled.
def canWrite (host : Host) (before : Desk) (source : String) (stubs : Path) (flags : Flags) : Bool :=
  match (compilePreview host source flags Generator.start).run.run before with
  | (.ok c, between) =>
      ((Publish.write Store.undisturbed host stubs none c).run.run between).1.toOption.isSome
  | (.error _, _) => true

theorem writes_of_can {host : Host} {before : Desk} {source : String} {stubs : Path} {flags : Flags}
    (can : canWrite host before source stubs flags = true) :
    Writes Generator.start host before source stubs none flags := by
  intro c between ran
  unfold canWrite at can
  rw [ran] at can
  obtain ⟨paths, written⟩ := Option.isSome_iff_exists.mp can
  exact ⟨paths, _, ran_of_result written⟩

theorem pets_preview_is_product :
    Asks petsInspected ⟨true, false, false, false, false⟩ (.inspect "pets.json" petsFlags) ∧
      Asks petsGenerated ⟨false, false, false, false, false⟩
        (.generate "pets.json" ⟨"", ["out"]⟩ none none petsFlags) ∧
      Writes Generator.start Publish.sampleHost petsDesk "pets.json" ⟨"", ["out"]⟩ none petsFlags ∧
      (petsRun petsGenerated).1.ending = .exit 0 ∧
      ∃ name text, nameOf "pets.json" none = .ok name ∧ Shows petsDesk (petsRun petsInspected).2 text ∧
        (petsRun petsGenerated).2.store.read Publish.sampleHost.place (Publish.stubPath ⟨"", ["out"]⟩ name) =
          .ok text.toUTF8 := by
  have inspects : Asks petsInspected ⟨true, false, false, false, false⟩ (.inspect "pets.json" petsFlags) :=
    ⟨"inspect", ["pets.json", "--seed", "7"], by decide +kernel⟩
  have generates : Asks petsGenerated ⟨false, false, false, false, false⟩
      (.generate "pets.json" ⟨"", ["out"]⟩ none none petsFlags) :=
    ⟨"generate", ["pets.json", "-o", "out", "--seed", "7"], by decide +kernel⟩
  have writes : Writes Generator.start Publish.sampleHost petsDesk "pets.json" ⟨"", ["out"]⟩ none petsFlags :=
    writes_of_can (by decide +kernel)
  have well : (petsRun petsGenerated).1.ending = .exit 0 := by decide +kernel
  refine ⟨inspects, generates, writes, well, ?_⟩
  obtain ⟨alike, -⟩ := preview_is_product Generator.start Publish.sampleHost (fun _ => "") petsInspected petsGenerated
    _ _ "pets.json" ⟨"", ["out"]⟩ none petsFlags petsDesk _ _ _ _ inspects rfl generates writes (pets_ran _)
    (pets_ran _)
  rcases alike with ⟨code, counts, -, failed⟩ | ⟨-, -, same⟩
  · rw [well] at failed
    cases failed
    exact absurd rfl counts
  · exact same

-- A source whose URL cannot be read crashes the preview, and the log of the crash is a new file.
def brokenInspected : List String :=
  ["--json", "inspect", "http://[x/"]

def brokenGenerated : List String :=
  ["generate", "http://[x/", "-o", "/root"]

def previewedDesk : Desk :=
  ((run Publish.sampleHost (fun _ => "") brokenInspected).run petsDesk).2

theorem broken_preview_leaves_log :
    Asks brokenInspected ⟨true, false, false, false, false⟩ (.inspect "http://[x/" {}) ∧
      Asks brokenGenerated ⟨false, false, false, false, false⟩
        (.generate "http://[x/" ⟨"/", ["root"]⟩ none none {}) ∧
      Writes Generator.start Publish.sampleHost petsDesk "http://[x/" ⟨"/", ["root"]⟩ none {} ∧
      ∃ place content, placeOf Publish.sampleHost.place ⟨"/", ["root"]⟩ <+: place ∧ petsDesk.store.node place = none ∧
        previewedDesk.store.node place = some (.file content) := by
  have inspects : Asks brokenInspected ⟨true, false, false, false, false⟩ (.inspect "http://[x/" {}) :=
    ⟨"inspect", ["http://[x/"], by decide +kernel⟩
  have generates : Asks brokenGenerated ⟨false, false, false, false, false⟩
      (.generate "http://[x/" ⟨"/", ["root"]⟩ none none {}) :=
    ⟨"generate", ["http://[x/", "-o", "/root"], by decide +kernel⟩
  refine ⟨inspects, generates, writes_of_can (by decide +kernel), placeOf Publish.sampleHost.place
    (crashLog Publish.sampleHost Publish.sampleHost.dataDirectory), "".toUTF8, ?_⟩
  decide +kernel

end Command

end ApiStubs
