import ApiStubs.Command.Run
import ApiStubs.Proofs.Configuration.Layers
import ApiStubs.Proofs.Configuration.Stored
import ApiStubs.Proofs.Digits

/- Runs of a command. The terminal is opened first, and opening it only makes the directory of the configuration;
   then the command is executed, and a failure of either is concluded with a message or a crash log. What holds of
   each of these steps holds of the whole run. -/

set_option autoImplicit false

namespace ApiStubs.Command

open ApiStubs.Decimal
open ApiStubs.Configuration (Made Unread filePlace fileIn)
open Store (Grown OnWay SameFile FileName file_name_long grown_same_file overlaid_same_file same_file_refl
  same_file_trans placeOf place_child)

theorem open_terminal_ends (host : Host) (g : Globals) (desk : Desk) :
    Ends (openTerminal host g) desk (fun _ after => Made host desk.store after.store)
      (fun e after => e.category ≠ some .configuration ∧ Unread host desk.store e after.store) := by
  have configured : Ends (configuredTerminal host g) desk (fun _ after => Made host desk.store after.store)
      fun e after => Unread host desk.store e after.store :=
    ends_bind (Configuration.resolve_ends ..) fun _ after made => ends_pure made
  refine ends_catch configured fun e between unread => ?_
  split
  · next defect =>
    cases unread with
    | troubled p asked made trouble => exact ends_modify_bind (ends_pure made)
    | unmade fault same grown never =>
        rw [same] at defect
        cases defect
  · next other => exact ends_throw ⟨other, unread⟩

theorem slash_not_digit (n : Nat) : '/' ∉ digits n := by
  intro member
  have bounds := mem_digits_code member
  revert bounds
  decide

theorem padded_free (width n : Nat) : '/' ∉ (paddedText width n).toList := by
  simp [paddedText, padded, zeros, slash_not_digit]

theorem stamp_free (t : DateTime) : '/' ∉ (t.format "%Y%m%d-%H%M%S").toList := by
  simp [DateTime.format, DateTime.fill, DateTime.directive, natText, padded_free, slash_not_digit]

def crashName (host : Host) : String :=
  "crash-" ++ host.now.format "%Y%m%d-%H%M%S" ++ ".log"

theorem crash_name_file (host : Host) : FileName (crashName host) := by
  have free := stamp_free host.now
  refine file_name_long ?_ ?_
  · simp [crashName, free]
  · simp [crashName]

-- A crash log is never taken for the configuration.
theorem crash_apart (host : Host) (directory : Path) :
    filePlace host ≠ placeOf host.place (crashLog host directory) := by
  have config : FileName "config.json" := by decide
  have names : "config.json" ≠ crashName host := by
    intro same
    have chars := congrArg String.toList same
    simp [crashName] at chars
  have log : crashLog host directory = (directory.child "logs").child (crashName host) := rfl
  rw [filePlace, fileIn, place_child _ _ config, log, place_child _ _ (crash_name_file host)]
  intro same
  exact names (List.singleton_inj.mp (List.append_inj_right' same rfl))

variable (host : Host) (account : Error → String) (t : Terminal)

-- A crash leaves all files as they are, but for its log.
theorem crash_spares (text : String) (desk : Desk) :
    Ends (crash host t text) desk
      (fun code after => code = 1 ∧
        ∀ place, place ≠ placeOf host.place (crashLog host host.dataDirectory) → SameFile place desk.store after.store)
      (fun _ after => ∀ place, SameFile place desk.store after.store) := by
  unfold crash
  refine ends_bind (ends_imp (Job.ensure_ends host host.dataDirectory desk) (fun _ _ made => made) ?_) ?_
  · rintro e after ⟨-, grown, -⟩
    exact grown_same_file grown
  rintro directory ready ⟨rfl, made⟩
  have grown := good_of_ran (Store.make_directories_ends ..) made
  have first : ∀ place, SameFile place desk.store ready.store := grown_same_file grown
  refine ends_bind (ends_imp (Job.change_ends (Store.replace_ends ..)) (fun _ _ overlaid => overlaid) ?_) ?_
  · rintro e after ⟨fault, -, grown⟩
    exact fun place => same_file_trans (first place) (grown_same_file grown place)
  · intro _ after overlaid
    refine ends_modify_bind (ends_pure ⟨rfl, fun place apart => same_file_trans (first place) ?_⟩)
    exact overlaid_same_file overlaid (by simpa using apart)

-- Nothing that concludes a failed run touches the file of the configuration.
def FileKept (before after : Desk) : Prop :=
  SameFile (filePlace host) before.store after.store

theorem crash_ends (text : String) (desk : Desk) :
    Ends (crash host t text) desk (fun code after => code = 1 ∧ FileKept host desk after)
      (fun _ after => FileKept host desk after) :=
  ends_imp (crash_spares host t text desk)
    (fun _ _ done => ⟨done.1, done.2 _ (crash_apart host host.dataDirectory)⟩) fun _ _ kept => kept _

theorem conclude_ends (e : Error) (desk : Desk) (counts : e.exitCode ≠ 0) :
    Ends (conclude host account t e) desk (fun code after => code ≠ 0 ∧ FileKept host desk after)
      (fun _ after => FileKept host desk after) := by
  have crashes := ends_imp (crash_ends host t (account e) desk)
    (fun code after done => And.intro (done.1 ▸ by decide : code ≠ 0) done.2) fun _ _ kept => kept
  unfold conclude
  split
  · exact ends_modify_bind (ends_pure ⟨by decide, same_file_refl _ _⟩)
  · split
    · exact ends_modify_bind (ends_pure ⟨counts, same_file_refl _ _⟩)
    · exact crashes

-- How a job ends a run: with its code, with the code that concludes its failure, or with 1 when that fails too.
def Concludes (job : Job Int) (before : Desk) (reached : Ending → Desk → Prop) : Prop :=
  Ends (tryCatch job (conclude host account t)) before (fun code after => reached (.exit code) after)
    (fun _ after => reached (.exit 1) after)

theorem concluded_reaches {job : Job Int} {before : Desk} {reached : Ending → Desk → Prop}
    (concludes : Concludes host account t job before reached) :
    reached ((concluded host account t job).run before).1 ((concluded host account t job).run before).2 := by
  have same : (concluded host account t job).run before =
      match (tryCatch job (conclude host account t)).run.run before with
      | (.ok code, after) => (.exit code, after)
      | (.error _, after) => (.exit 1, after) := by
    rw [concluded, StateT.run_bind]
    change (match (tryCatch job (conclude host account t)).run.run before with
      | (result, after) => _) = _
    cases (tryCatch job (conclude host account t)).run.run before with
    | mk result after => cases result <;> rfl
  unfold Concludes Ends at concludes
  rw [same]
  cases run : (tryCatch job (conclude host account t)).run.run before with
  | mk result after =>
      rw [run] at concludes
      cases result with
      | ok code => exact concludes
      | error e => exact concludes

-- What a line of arguments asks for.
def Asks (arguments : List String) (g : Globals) (request : Request) : Prop :=
  ∃ name rest, readGlobals arguments = .ok (g, name, rest) ∧ readRequest name rest = .ok request

theorem run_request_reaches {fresh : Settings → Generator} {name : String} {rest : List String} {request : Request}
    {between : Desk} {reached : Ending → Desk → Prop} (read : readRequest name rest = .ok request)
    (possible : isPossible host between.store request = true)
    (concludes : Concludes host account t (execute host t fresh request) between reached) :
    reached ((runRequest host account fresh t name rest).run between).1
      ((runRequest host account fresh t name rest).run between).2 := by
  have same : (runRequest host account fresh t name rest).run between =
      (concluded host account t (execute host t fresh request)).run between := by
    unfold runRequest
    rw [read]
    change (if isPossible host between.store request = true then
      concluded host account t (execute host t fresh request) else pure .usage).run between = _
    rw [if_pos possible]
  rw [same]
  exact concluded_reaches host account t concludes

-- A line of arguments is followed from the opening of the terminal to the end of its request.
theorem run_reaches {fresh : Settings → Generator} {arguments : List String} {g : Globals} {request : Request}
    {before : Desk} {opened : Terminal → Desk → Prop} {failed : Error → Desk → Prop} {reached : Ending → Desk → Prop}
    (asked : Asks arguments g request) (possible : ∀ store, isPossible host store request = true)
    (opens : Ends (openTerminal host g) before opened failed)
    (executes : ∀ t between, opened t between → Concludes host account t (execute host t fresh request) between reached)
    (fails : ∀ e t between, failed e between → Concludes host account t (throw e) between reached) :
    reached ((run host account arguments fresh).run before).1.ending
      ((run host account arguments fresh).run before).2 := by
  obtain ⟨name, rest, globals, read⟩ := asked
  have same : (run host account arguments fresh).run before =
      match (openTerminal host g).run.run before with
      | (.ok t, between) =>
          (⟨((runRequest host account fresh t name rest).run between).1, t.threshold⟩,
            ((runRequest host account fresh t name rest).run between).2)
      | (.error e, between) =>
          (⟨((concluded host account (Terminal.start host {}) (throw e)).run between).1,
            (Terminal.start host {}).threshold⟩,
            ((concluded host account (Terminal.start host {}) (throw e)).run between).2) := by
    unfold run
    rw [globals]
    change (runWith host account fresh g name rest).run before = _
    rw [runWith, StateT.run_bind]
    change (match (openTerminal host g).run.run before with
      | (result, between) => _) = _
    cases (openTerminal host g).run.run before with
    | mk result between => cases result <;> rfl
  unfold Ends at opens
  rw [same]
  cases run : (openTerminal host g).run.run before with
  | mk result between =>
      rw [run] at opens
      cases result with
      | ok t => exact run_request_reaches host account t read (possible between.store) (executes t between opens)
      | error e => exact concluded_reaches host account (Terminal.start host {}) (fails e _ between opens)

end ApiStubs.Command
