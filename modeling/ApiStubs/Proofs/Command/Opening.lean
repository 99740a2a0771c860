import ApiStubs.Proofs.Command.Run
import ApiStubs.Proofs.Compile.Failures

/- How runs begin and how they fail, whatever their command is. Opening the terminal resolves the configuration for its
   format only, and so goes alike for all lines of arguments. A failure ends a run with a code of its own, and leaves
   all files as they were but for the crash log. -/

set_option autoImplicit false

namespace ApiStubs

open Store (SameFile grown_same_file overlaid_same_file same_file_refl same_file_trans placeOf)

namespace Configuration

-- What is resolved in a store that has the directory of the configuration.
def resolution (host : Host) (store : Store) (flags : Flags) : Except Error Resolution := do
  let user ← loadFrom store host.place (fileIn host.configDirectory)
  resolveOver host store flags user

section

variable {host : Host} {store ready : Store} {flags : Flags} {desk : Desk}

theorem resolve_made (flags : Flags) (made : Made host desk.store ready) :
    Ends (resolve host flags) desk
      (fun r after => resolution host ready flags = .ok r ∧ after = { desk with store := ready })
      (fun e after => resolution host ready flags = .error e ∧ after = { desk with store := ready }) := by
  have ensured : Ran (Job.ensure host host.configDirectory) desk host.configDirectory { desk with store := ready } :=
    (Job.ran_ensure ..).mpr ⟨rfl, ready, made, rfl⟩
  have ensures {bad : Error → Desk → Prop} : Ends (Job.ensure host host.configDirectory) desk
      (fun directory after => directory = host.configDirectory ∧ after = { desk with store := ready }) bad :=
    ends_of_ran ensured ⟨rfl, rfl⟩
  have loads : Ends (load host) desk
      (fun user after => loadFrom ready host.place (fileIn host.configDirectory) = .ok user ∧
        after = { desk with store := ready })
      (fun e after => loadFrom ready host.place (fileIn host.configDirectory) = .error e ∧
        after = { desk with store := ready }) := by
    refine ends_bind ensures ?_
    rintro directory between ⟨rfl, rfl⟩
    exact Job.ends_store_bind (ends_result (fun _ loaded => ⟨loaded, rfl⟩) fun _ failed => ⟨failed, rfl⟩)
  unfold resolve resolution
  refine ends_bind (ends_imp loads (fun _ _ loaded => loaded) ?_) ?_
  · rintro e after ⟨failed, rfl⟩
    exact ⟨by rw [failed]; rfl, rfl⟩
  · rintro user between ⟨loaded, rfl⟩
    rw [loaded]
    exact Job.ends_store_bind (ends_result (fun _ resolved => ⟨resolved, rfl⟩) fun _ failed => ⟨failed, rfl⟩)

theorem resolve_unmade (flags : Flags) {fault : FileFault} {left : Store}
    (failed : (Store.makeDirectories Store.undisturbed host.place host.configDirectory).run.run desk.store =
      (.error fault, left)) :
    Ends (resolve host flags) desk (fun _ _ => False) (fun e after => e = .file fault ∧ after.store = left) := by
  have making : Ends (Store.makeDirectories Store.undisturbed host.place host.configDirectory) desk.store
      (fun _ _ => False) (fun f s => f = fault ∧ s = left) := by
    unfold Ends
    rw [failed]
    exact ⟨rfl, rfl⟩
  have ensures : Ends (Job.ensure host host.configDirectory) desk (fun _ _ => False)
      (fun e after => e = .file fault ∧ after.store = left) := by
    refine ends_bind (ends_imp (Job.change_ends making) (fun _ _ never => never) ?_) fun _ _ never => never.elim
    rintro e after ⟨f, rfl, rfl, same⟩
    exact ⟨rfl, same⟩
  have loads : Ends (load host) desk (fun _ _ => False) (fun e after => e = .file fault ∧ after.store = left) :=
    ends_bind ensures fun _ _ never => never.elim
  exact ends_bind loads fun _ _ never => never.elim

theorem resolve_over_format (host : Host) (store : Store) (flags : Flags) (format : Option String) (user : Config) :
    resolveOver host store { flags with format := format } user =
      (resolveOver host store flags user).map fun r => { r with format := format.getD user.format.name } := by
  unfold resolveOver
  cases loadProject host store with
  | error e => rfl
  | ok project =>
      simp only [bind, Except.bind]
      cases overrides (project.getD []) with
      | error e => rfl
      | ok overriding =>
          simp only
          cases seedOf host with
          | error e => rfl
          | ok seed =>
              simp only [layered]
              split <;> rfl

-- The format of the output is never in the way.
theorem resolution_format (host : Host) (store : Store) (flags : Flags) (format : Option String) (e : Error) :
    resolution host store { flags with format := format } = .error e ↔ resolution host store flags = .error e := by
  unfold resolution
  cases loadFrom store host.place (fileIn host.configDirectory) with
  | error f => exact Iff.rfl
  | ok user =>
      simp only [bind, Except.bind, resolve_over_format]
      cases resolveOver host store flags user <;> simp [Except.map]

theorem resolution_format_given (flags : Flags) {format : String} {r : Resolution}
    (resolved : resolution host store { flags with format := some format } = .ok r) : r.format = format := by
  simp only [resolution, except_bind_ok, resolve_over_format] at resolved
  obtain ⟨user, -, resolved⟩ := resolved
  cases plain : resolveOver host store flags user with
  | ok s =>
      rw [plain] at resolved
      cases resolved
      rfl
  | error e =>
      rw [plain] at resolved
      cases resolved

theorem resolution_returns (host : Host) (store : Store) (flags : Flags) :
    Returns (fun _ => True) (fun e => ∃ p, Troubled store host.place p e) (resolution host store flags) := by
  refine returns_bind (returns_imp (load_from_returns ..) (fun _ _ => trivial) fun e trouble => ⟨_, trouble⟩) ?_
  exact fun user _ => returns_imp (resolve_over_returns ..) (fun _ _ => trivial) fun e trouble => ⟨_, trouble⟩

end

end Configuration

namespace Command

open ApiStubs.Configuration (Made resolution resolution_format resolve_made resolve_unmade unread_grown)

-- The code that a failure ends a run with.
def endCode : Error → Int
  | .interrupted => 130
  | e => if e.isReported then e.exitCode else 1

def endingOf {α : Type} : Except Error α → Ending
  | .ok _ => .exit 0
  | .error e => .exit (endCode e)

theorem end_code_reported {e : Error} (reported : e.isReported = true) : endCode e = e.exitCode := by
  unfold endCode
  split
  · cases reported
  · rw [if_pos reported]

theorem end_code_counts {e : Error} (counts : e.Counts) : endCode e ≠ 0 := by
  unfold endCode
  split
  · decide
  · split
    · exact counts
    · decide

theorem end_code_troubled {store : Store} {place : Place} {p : Path} {e : Error}
    (trouble : Configuration.Troubled store place p e) : endCode e = 1 := by
  rcases trouble with ⟨category, code⟩ | ⟨fault, rfl, -⟩
  · rw [end_code_reported (by rw [Error.isReported, category]; rfl), code]
  · rfl

-- What is neither reported nor an interruption ends in a crash.
def Crashes (e : Error) : Prop :=
  e ≠ .interrupted ∧ e.isReported = false

-- The store lets the log of a crash be written.
def Logs (host : Host) (store : Store) (content : String) : Prop :=
  ∃ ready after, Ran (Store.makeDirectories Store.undisturbed host.place host.dataDirectory) store () ready ∧
    Ran (Store.replace Store.undisturbed host.place (crashLog host host.dataDirectory) content.toUTF8) ready () after

theorem end_code_crash {e : Error} (crashes : Crashes e) : endCode e = 1 := by
  unfold endCode
  split
  · exact absurd rfl crashes.1
  · rw [crashes.2]
    rfl

section

variable (host : Host) (account : Error → String) (t : Terminal)

theorem crash_logs {text : String} {desk : Desk} (logs : Logs host desk.store text) :
    Ends (crash host t text) desk
      (fun _ after => after.store.read host.place (crashLog host host.dataDirectory) = .ok text.toUTF8)
      fun _ _ => False := by
  obtain ⟨ready, written, made, replaced⟩ := logs
  have ensured : Ran (Job.ensure host host.dataDirectory) desk host.dataDirectory { desk with store := ready } :=
    (Job.ran_ensure ..).mpr ⟨rfl, ready, made, rfl⟩
  have ensures : Ends (Job.ensure host host.dataDirectory) desk
      (fun directory between => directory = host.dataDirectory ∧ between = { desk with store := ready })
      fun _ _ => False := ends_of_ran ensured ⟨rfl, rfl⟩
  unfold crash
  refine ends_bind ensures ?_
  rintro directory between ⟨rfl, rfl⟩
  have changed := (Job.ran_change _ _ { desk with store := ready } _).mpr ⟨written, replaced, rfl⟩
  have changes : Ends _ { desk with store := ready } (fun _ after => after.store = written) fun _ _ => False :=
    ends_of_ran changed rfl
  refine ends_bind changes ?_
  rintro _ after rfl
  exact ends_modify_bind (ends_pure (Store.replace_read _ _ _ _ _ _ _ replaced))

-- All files are as they were, but for the log of a crash, which is written whenever the store lets it be.
structure Spared (e : Error) (before after : Desk) : Prop where
  kept : ∀ place, SameFile place before.store after.store ∨
    place = placeOf host.place (crashLog host host.dataDirectory) ∧ Crashes e
  logged : Crashes e → Logs host before.store (account e) →
    after.store.read host.place (crashLog host host.dataDirectory) = .ok (account e).toUTF8

theorem spared_still {e : Error} {before after : Desk} (calm : ¬ Crashes e) (same : after.store = before.store) :
    Spared host account e before after where
  kept := fun place => .inl (same ▸ same_file_refl place _)
  logged := fun crashes => absurd crashes calm

theorem crash_spared {e : Error} (crashes : Crashes e) (desk : Desk) :
    Ends (crash host t (account e)) desk (fun code after => code = 1 ∧ Spared host account e desk after)
      fun _ after => Spared host account e desk after := by
  have logs : Ends (crash host t (account e)) desk
      (fun _ after => Logs host desk.store (account e) →
        after.store.read host.place (crashLog host host.dataDirectory) = .ok (account e).toUTF8)
      fun _ _ => ¬ Logs host desk.store (account e) := by
    by_cases possible : Logs host desk.store (account e)
    · exact ends_imp (crash_logs host t possible) (fun _ _ read _ => read) fun _ _ never => never.elim
    · exact ends_imp ends_run (fun _ _ _ logs => absurd logs possible) fun _ _ _ => possible
  refine ends_imp (ends_and (crash_spares host t (account e) desk) logs) ?_ ?_
  · rintro code after ⟨⟨rfl, apart⟩, read⟩
    refine ⟨rfl, fun place => ?_, fun _ => read⟩
    by_cases log : place = placeOf host.place (crashLog host host.dataDirectory)
    · exact .inr ⟨log, crashes⟩
    · exact .inl (apart place log)
  · rintro f after ⟨same, impossible⟩
    exact ⟨fun place => .inl (same place), fun _ logs => absurd logs impossible⟩

theorem conclude_spares (e : Error) (desk : Desk) :
    Ends (conclude host account t e) desk (fun code after => code = endCode e ∧ Spared host account e desk after)
      (fun _ after => endCode e = 1 ∧ Spared host account e desk after) := by
  unfold conclude
  split
  · exact ends_modify_bind (ends_pure ⟨rfl, spared_still host account (fun crashes => crashes.1 rfl) rfl⟩)
  · next other =>
    by_cases reported : e.isReported = true
    · have calm : ¬ Crashes e := fun crashes => by simp [crashes.2] at reported
      rw [if_pos reported, end_code_reported reported]
      exact ends_modify_bind (ends_pure ⟨rfl, spared_still host account calm rfl⟩)
    · have crashes : Crashes e := ⟨other, by simpa using reported⟩
      rw [if_neg reported, end_code_crash crashes]
      exact ends_imp (crash_spared host account t crashes desk) (fun _ _ done => done) fun _ _ spared => ⟨rfl, spared⟩

-- A job that fails ends the run with the code of its failure.
theorem concludes_spared {job : Job Int} {before : Desk} {reached : Ending → Desk → Prop}
    (ends : Ends job before (fun code after => reached (.exit code) after)
      (fun e between => ∀ after, Spared host account e between after → reached (.exit (endCode e)) after)) :
    Concludes host account t job before reached := by
  refine ends_catch ends fun e between reaches => ends_imp (conclude_spares host account t e between) ?_ ?_
  · rintro code after ⟨rfl, spared⟩
    exact reaches after spared
  · rintro f after ⟨code, spared⟩
    exact code ▸ reaches after spared

-- Commands report a failure in their own words, or leave it to the end of the run.
theorem report_ends {e : Error} {message : String} {between : Desk} {reached : Ending → Desk → Prop}
    (reaches : ∀ after, Spared host account e between after → reached (.exit (endCode e)) after) :
    Ends (if e.isReported then fail t message e else throw e) between (fun code after => reached (.exit code) after)
      (fun f between => ∀ after, Spared host account f between after → reached (.exit (endCode f)) after) := by
  by_cases reported : e.isReported = true
  · have calm : ¬ Crashes e := fun crashes => by simp [crashes.2] at reported
    rw [if_pos reported]
    refine ends_modify_bind (ends_pure ?_)
    rw [← end_code_reported reported]
    exact reaches _ (spared_still host account calm rfl)
  · rw [if_neg reported]
    exact ends_throw reaches

end

-- What the output of a run shows between two desks, with nothing drawn.
def Shows (before after : Desk) (text : String) : Prop :=
  ∃ told, after.journal = before.journal ++ told ∧ (∀ entry ∈ told, entry.isDrawing = false) ∧
    Journal.output told = text

theorem silent_output {entries : List Journal.Entry} (silent : ∀ entry ∈ entries, entry.dataText = "") :
    Journal.output entries = "" := by
  induction entries with
  | nil => rfl
  | cons entry rest ih =>
      obtain ⟨first, others⟩ := List.forall_mem_cons.mp silent
      have below := ih others
      unfold Journal.output at below ⊢
      rw [List.map_cons, String.join_cons, first, below]
      rfl

theorem shows_silent {before after : Desk} {told : List Journal.Entry} (same : after.journal = before.journal ++ told)
    (silent : ∀ entry ∈ told, entry.dataText = "" ∧ entry.isDrawing = false) : Shows before after "" :=
  ⟨told, same, fun entry member => (silent entry member).2, silent_output fun entry member => (silent entry member).1⟩

theorem shows_nothing {before after : Desk} (same : after.journal = before.journal) : Shows before after "" :=
  ⟨[], by simpa using same, by simp, rfl⟩

theorem shows_then {a b c : Desk} {s t : String} (first : Shows a b s) (second : Shows b c t) : Shows a c (s ++ t) := by
  obtain ⟨told, early, plain, rfl⟩ := first
  obtain ⟨more, late, also, rfl⟩ := second
  refine ⟨told ++ more, by rw [late, early, List.append_assoc], List.forall_mem_append.mpr ⟨plain, also⟩, ?_⟩
  rw [Journal.output, List.map_append, String.join_append]
  rfl

-- The store after the directory of the configuration was asked for, whether it could be made or not.
def prepared (host : Host) (store : Store) : Store :=
  ((Store.makeDirectories Store.undisturbed host.place host.configDirectory).run.run store).2

-- The store that a command finds, with the directory of the configuration made.
def opening (host : Host) (store : Store) : Except Error Store :=
  match (Store.makeDirectories Store.undisturbed host.place host.configDirectory).run.run store with
  | (.error fault, _) => .error (.file fault)
  | (.ok (), ready) =>
      match resolution host ready {} with
      | .ok _ => .ok ready
      | .error e => if e.category = some .configuration then .ok ready else .error e

structure Opened (host : Host) (g : Globals) (before : Desk) (t : Terminal) (between : Desk) : Prop where
  found : opening host before.store = .ok between.store
  made : Made host before.store between.store
  issued : between.issued = before.issued
  silent : Shows before between ""
  format : g.json = true → t.format = .json

theorem prepared_made {host : Host} {store ready : Store} (made : Made host store ready) :
    prepared host store = ready := by
  rw [prepared, show _ = (Except.ok (), ready) from made]

theorem notice_silent {before after : Desk} {t : Terminal} {message : String}
    (told : after.journal = before.journal ++ t.warning message) : Shows before after "" :=
  shows_silent told (by simp [Terminal.warning, Terminal.marked, Terminal.notice, Journal.Entry.isDrawing,
    Journal.Entry.dataText])

theorem json_chosen {g : Globals} (json : g.json = true) : g.format = some .json := by
  rw [Globals.format, json, if_pos rfl]

theorem opening_made {host : Host} {store ready : Store} (made : Made host store ready) :
    opening host store =
      match resolution host ready {} with
      | .ok _ => .ok ready
      | .error e => if e.category = some .configuration then .ok ready else .error e := by
  rw [opening, show _ = (Except.ok (), ready) from made]

theorem configured_opened {host : Host} {g : Globals} {desk between : Desk} {ready : Store}
    {r : Configuration.Resolution} (made : Made host desk.store ready)
    (resolved : resolution host ready { format := g.format.map OutputFormat.name } = .ok r)
    (same : between = { desk with store := ready }) :
    Opened host g desk (Terminal.start host (g.options ((OutputFormat.ofName? r.format).getD .auto))) between := by
  subst same
  refine ⟨?_, made, rfl, shows_nothing rfl, fun json => ?_⟩
  · rw [opening_made made]
    cases plain : resolution host ready {} with
    | ok _ => rfl
    | error e =>
        have failed := (resolution_format host ready {} (g.format.map OutputFormat.name) e).mpr plain
        rw [resolved] at failed
        cases failed
  · have format : r.format = OutputFormat.json.name := by
      rw [json_chosen json] at resolved
      exact Configuration.resolution_format_given {} resolved
    rw [format]
    rfl

-- The terminal opens just when the configuration is resolved or is at fault itself.
theorem open_terminal_found (host : Host) (g : Globals) (desk : Desk) :
    Ends (openTerminal host g) desk (Opened host g desk)
      (fun e after => opening host desk.store = .error e ∧ after.store = prepared host desk.store) := by
  cases making : (Store.makeDirectories Store.undisturbed host.place host.configDirectory).run.run desk.store with
  | mk result ready =>
      cases result with
      | error fault =>
          have configures : Ends (configuredTerminal host g) desk (Opened host g desk)
              (fun e after => e = .file fault ∧ after.store = ready) :=
            ends_bind (resolve_unmade _ making) fun _ _ never => never.elim
          refine ends_catch configures ?_
          rintro e between ⟨rfl, same⟩
          refine ends_throw ⟨?_, ?_⟩
          · rw [opening, making]
          · rw [prepared, making, same]
      | ok u =>
          have made : Made host desk.store ready := making
          have configures : Ends (configuredTerminal host g) desk (Opened host g desk)
              (fun e between => resolution host ready { format := g.format.map OutputFormat.name } = .error e ∧
                between = { desk with store := ready }) :=
            ends_bind (resolve_made _ made) fun r between resolved =>
              ends_pure (configured_opened made resolved.1 resolved.2)
          refine ends_catch configures ?_
          rintro e between ⟨failed, rfl⟩
          have plain := (resolution_format host ready {} _ e).mp failed
          by_cases own : e.category = some .configuration
          · rw [if_pos own]
            refine ends_modify_bind (ends_pure ⟨?_, made, rfl, notice_silent rfl, fun json => ?_⟩)
            · rw [opening_made made, plain]
              exact if_pos own
            · rw [json_chosen json]
              rfl
          · rw [if_neg own]
            refine ends_throw ⟨?_, (prepared_made made).symm⟩
            rw [opening_made made, plain]
            exact if_neg own

theorem open_terminal_opened (host : Host) (g : Globals) (desk : Desk) :
    Ends (openTerminal host g) desk (Opened host g desk)
      (fun e after => opening host desk.store = .error e ∧ after.store = prepared host desk.store ∧
        ∀ place, SameFile place desk.store after.store) := by
  have both := ends_and (open_terminal_found host g desk) (open_terminal_ends host g desk)
  refine ends_imp both (fun _ _ both => both.1) ?_
  rintro e after ⟨⟨failed, same⟩, -, unread⟩
  exact ⟨failed, same, grown_same_file (unread_grown unread)⟩

end Command

end ApiStubs
