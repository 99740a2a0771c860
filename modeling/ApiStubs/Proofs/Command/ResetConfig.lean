import ApiStubs.Proofs.Command.Run

/- Resetting the configuration. Whatever the files of the configuration hold, and whatever the variables are set to,
   the command is reached: a configuration that cannot be used is warned about. It then writes the default one over
   it. -/

set_option autoImplicit false

namespace ApiStubs.Command

open ApiStubs.Configuration (Holds Made Unread fileIn load projectFile save made_again made_directory made_grown)
open Store (FileName nameFits)

variable {host : Host} {before between : Desk}

-- The paths of both files are known to lead to a file or to none.
def Known (host : Host) (store : Store) : Prop :=
  ∀ p, p = fileIn host.configDirectory ∨ p = projectFile host → ∃ found, store.isFile host.place p = .ok found

theorem made_known {s t : Store} (made : Made host s t) (there : s.stat host.place host.directory = .ok .directory) :
    Known host t := by
  have kept : ∀ place, s.node place = some .directory → t.node place = some .directory :=
    fun _ held => Store.grown_kept (made_grown made) held
  have still : t.stat host.place host.directory = .ok .directory := by
    obtain ⟨place, located, held⟩ := (Store.stat_iff ..).mp there
    exact (Store.stat_iff ..).mpr ⟨place, Store.follow_kept _ _ kept _ _ _ located, kept place held⟩
  rintro p (rfl | rfl)
  · exact Store.is_file_known (made_directory made) (by decide) (by decide)
  · exact Store.is_file_known still (by decide) (by decide)

-- A reading fails for a defect of the configuration when its directory can be made and both files are known.
theorem unread_defect {s ready t : Store} {e : Error} (made : Made host s ready) (known : Known host ready)
    (unread : Unread host s e t) : e.category = some .configuration := by
  cases unread with
  | unmade fault same grown never => exact (never ready made).elim
  | troubled p asked madeThere trouble =>
      rcases trouble with ⟨category, -⟩ | ⟨fault, -, unknown⟩
      · exact category
      · cases madeThere.symm.trans made
        obtain ⟨found, is⟩ := known p asked
        cases unknown.symm.trans is

-- No content of the files and no variable keeps the terminal from being opened.
theorem terminal_opens {ready : Store} (g : Globals) (made : Made host before.store ready) (known : Known host ready) :
    Ends (openTerminal host g) before (fun _ after => Made host before.store after.store) fun _ _ => False := by
  refine ends_imp (open_terminal_ends host g before) (fun _ _ madeThere => madeThere) ?_
  rintro e after ⟨other, unread⟩
  exact other (unread_defect made known unread)

-- The directory that was made for reading is the one that saving needs.
theorem save_ran_again {config : Config} {saved : Desk} (made : Made host before.store between.store)
    (saves : Ran (save host config) before () saved) :
    Ran (save host config) between () { between with store := saved.store } := by
  obtain ⟨ready, target, madeThere, replaced, rfl⟩ := (Configuration.ran_save ..).mp saves
  cases madeThere.symm.trans made
  exact (Configuration.ran_save ..).mpr ⟨_, _, Store.make_directories_kept (made_directory made), replaced, rfl⟩

theorem reset_ends (t : Terminal) {saved : Desk} (saves : Ran (save host {}) between () saved) :
    Ends (reset host t) between (fun code after => code = 0 ∧ Holds host {} after.store) fun _ _ => False := by
  have held := good_of_ran (Configuration.save_ends ..) saves
  have ends : Ends (save host {}) between (fun _ after => Holds host {} after.store) fun _ _ => False :=
    ends_of_ran saves held
  unfold reset
  refine ends_bind ends ?_
  intro _ after holds
  exact ends_modify_bind (ends_pure ⟨rfl, holds⟩)

-- How a run ends that resets the configuration.
def Resets (host : Host) (ending : Ending) (after : Desk) : Prop :=
  ending = .exit 0 ∧ Holds host {} after.store

theorem reset_restores_defaults (fresh : Settings → Generator) (host : Host) (account : Error → String)
    (arguments : List String) (g : Globals) (before after saved : Desk) (result : Result)
    (asked : Asks arguments g (.resetConfig true))
    (there : before.store.stat host.place host.directory = .ok .directory) (saves : Ran (save host {}) before () saved)
    (ran : (run host account arguments fresh).run before = (result, after)) :
    result.ending = .exit 0 ∧ Ran (load host) after {} after := by
  obtain ⟨ready, -, made, -⟩ := (Configuration.ran_save ..).mp saves
  have opens := terminal_opens g made (made_known made there)
  have resets : Resets host ((run host account arguments fresh).run before).1.ending
      ((run host account arguments fresh).run before).2 := by
    refine run_reaches host account asked (fun _ => rfl) opens ?_ ?_
    · intro t between madeThere
      have ends := reset_ends t (save_ran_again madeThere saves)
      refine ends_catch (ends_imp ends ?_ fun _ _ never => never) fun _ _ never => never.elim
      rintro code after ⟨rfl, holds⟩
      exact ⟨rfl, holds⟩
    · intro _ _ _ never
      exact never.elim
  rw [ran] at resets
  exact ⟨resets.1, Configuration.holds_loaded Config.default_sound resets.2⟩

def brokenHost : Host :=
  { Publish.sampleHost with
    environment := [("HOME", "/home"), ("SPECMOCK_SEED", "seven"), ("SPECMOCK_LOCALE", "nowhere")] }

-- The user's file is no text, and that of the project is cut off.
def brokenDesk : Desk :=
  ⟨⟨[
    (["home"], .directory), (["home", ".config"], .directory), (["home", ".config", "specmock"], .directory),
    (["home", ".config", "specmock", "config.json"], .file ⟨#[0xff, 0xfe]⟩),
    (["home", "specmock.json"], .file "[1".toUTF8)]⟩, 0, []⟩

def forcedReset : List String :=
  ["config", "reset", "--force"]

def brokenRun : Result × Desk :=
  (run brokenHost (fun _ => "") forcedReset).run brokenDesk

-- Nothing could be loaded before the reset.
theorem broken_configuration_reset :
    ((load brokenHost).run.run brokenDesk).1.toOption = none ∧
      Asks forcedReset ⟨false, false, false, false, false⟩ (.resetConfig true) ∧
      brokenDesk.store.stat brokenHost.place brokenHost.directory = .ok .directory ∧
      Ran (save brokenHost {}) brokenDesk () ((save brokenHost {}).run.run brokenDesk).2 ∧
      brokenRun.1.ending = .exit 0 ∧ Ran (load brokenHost) brokenRun.2 {} brokenRun.2 := by
  have unread : ((load brokenHost).run.run brokenDesk).1.toOption = none := by decide +kernel
  have asked : Asks forcedReset ⟨false, false, false, false, false⟩ (.resetConfig true) :=
    ⟨"config", ["reset", "--force"], by decide +kernel⟩
  have there : brokenDesk.store.stat brokenHost.place brokenHost.directory = .ok .directory := by decide +kernel
  have saves : Ran (save brokenHost {}) brokenDesk () ((save brokenHost {}).run.run brokenDesk).2 :=
    ran_of_result (by decide +kernel)
  exact ⟨unread, asked, there, saves,
    reset_restores_defaults Generator.start _ _ _ _ brokenDesk _ _ brokenRun.1 asked there saves (Prod.eta _).symm⟩

end ApiStubs.Command
