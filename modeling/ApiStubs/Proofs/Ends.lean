import ApiStubs.Proofs.Ran

/- How runs end. A computation is run from a state; `good` is said of its result and the state after it, `bad` of
   its failure and the state that it leaves. What is done before a failure stays done, so the two are said of whole
   sequences at once. -/

set_option autoImplicit false

namespace ApiStubs

variable {ε σ α β : Type}

def EndsAs (good : α → σ → Prop) (bad : ε → σ → Prop) : Except ε α × σ → Prop
  | (.ok a, after) => good a after
  | (.error e, after) => bad e after

-- Goals are taken apart by the lemmas below, and never by running the computation.
@[irreducible]
def Ends (step : ExceptT ε (StateM σ) α) (before : σ) (good : α → σ → Prop) (bad : ε → σ → Prop) : Prop :=
  EndsAs good bad (step.run.run before)

section

variable {step : ExceptT ε (StateM σ) α} {before : σ} {good : α → σ → Prop} {bad : ε → σ → Prop}

theorem ends_imp {better : α → σ → Prop} {worse : ε → σ → Prop} (ends : Ends step before good bad)
    (goods : ∀ a after, good a after → better a after) (bads : ∀ e after, bad e after → worse e after) :
    Ends step before better worse := by
  unfold Ends at ends ⊢
  cases run : step.run.run before with
  | mk result after =>
      rw [run] at ends
      cases result with
      | ok a => exact goods a after ends
      | error e => exact bads e after ends

theorem ends_and {also : α → σ → Prop} {worse : ε → σ → Prop} (ends : Ends step before good bad)
    (again : Ends step before also worse) :
    Ends step before (fun a after => good a after ∧ also a after) (fun e after => bad e after ∧ worse e after) := by
  unfold Ends at ends again ⊢
  cases run : step.run.run before with
  | mk result after =>
      rw [run] at ends again
      cases result with
      | ok a => exact ⟨ends, again⟩
      | error e => exact ⟨ends, again⟩

theorem ends_bind {next : α → ExceptT ε (StateM σ) β} {further : β → σ → Prop}
    (begins : Ends step before good bad) (goes : ∀ a between, good a between → Ends (next a) between further bad) :
    Ends (step >>= next) before further bad := by
  unfold Ends at begins goes ⊢
  rw [run_bind]
  cases run : step.run.run before with
  | mk result between =>
      rw [run] at begins
      cases result with
      | ok a => exact goes a between begins
      | error e => exact begins

theorem ends_catch {handle : ε → ExceptT ε (StateM σ) α} {worse : ε → σ → Prop} (ends : Ends step before good bad)
    (handled : ∀ e between, bad e between → Ends (handle e) between good worse) :
    Ends (tryCatch step handle) before good worse := by
  unfold Ends at ends handled ⊢
  rw [run_catch]
  cases run : step.run.run before with
  | mk result between =>
      rw [run] at ends
      cases result with
      | ok a => exact ends
      | error e => exact handled e between ends

theorem good_of_ran {a : α} {after : σ} (ends : Ends step before good bad) (ran : Ran step before a after) :
    good a after := by
  unfold Ends at ends
  rw [ran] at ends
  exact ends

theorem bad_of_failed {e : ε} {after : σ} (ends : Ends step before good bad)
    (failed : step.run.run before = (.error e, after)) : bad e after := by
  unfold Ends at ends
  rw [failed] at ends
  exact ends

theorem ends_of_ran {a : α} {after : σ} (ran : Ran step before a after) (holds : good a after) :
    Ends step before good bad := by
  unfold Ends
  rw [ran]
  exact holds

theorem run_failed (failed : (step.run.run before).1.toOption.isSome = false) :
    ∃ e after, step.run.run before = (.error e, after) := by
  cases run : step.run.run before with
  | mk result after =>
      rw [run] at failed
      cases result with
      | ok a => cases failed
      | error e => exact ⟨e, after, rfl⟩

theorem ends_run : Ends step before (fun a after => Ran step before a after)
    fun e after => step.run.run before = (.error e, after) := by
  unfold Ends
  cases run : step.run.run before with
  | mk result after =>
      cases result with
      | ok a => exact run
      | error e => rfl

theorem ran_of_ends (ends : Ends step before good fun _ _ => False) :
    ∃ a after, Ran step before a after ∧ good a after := by
  unfold Ends at ends
  cases run : step.run.run before with
  | mk result after =>
      rw [run] at ends
      cases result with
      | ok a => exact ⟨a, after, run, ends⟩
      | error e => exact ends.elim

theorem ends_pure {a : α} (holds : good a before) : Ends (pure a) before good bad := by
  unfold Ends
  exact holds

theorem ends_throw {e : ε} (holds : bad e before) :
    Ends (throw e : ExceptT ε (StateM σ) α) before good bad := by
  unfold Ends
  exact holds

theorem ends_result {result : Except ε α} (goods : ∀ a, result = .ok a → good a before)
    (bads : ∀ e, result = .error e → bad e before) : Ends (ExceptT.mk (pure result)) before good bad := by
  unfold Ends
  cases result with
  | ok a => exact goods a rfl
  | error e => exact bads e rfl

end

section

variable {before : σ} {good : β → σ → Prop} {bad : ε → σ → Prop}

theorem ends_result_bind {result : Except ε α} {next : α → ExceptT ε (StateM σ) β}
    (goods : ∀ a, result = .ok a → Ends (next a) before good bad) (bads : ∀ e, result = .error e → bad e before) :
    Ends (ExceptT.mk (pure result) >>= next) before good bad := by
  unfold Ends at goods ⊢
  cases result with
  | ok a => exact goods a rfl
  | error e => exact bads e rfl

theorem ends_get_bind {next : σ → ExceptT ε (StateM σ) β} (goes : Ends (next before) before good bad) :
    Ends (get >>= next) before good bad := by
  unfold Ends at goes ⊢
  exact goes

theorem ends_set_bind {fresh : σ} {next : PUnit → ExceptT ε (StateM σ) β} (goes : Ends (next ⟨⟩) fresh good bad) :
    Ends (set fresh >>= next) before good bad := by
  unfold Ends at goes ⊢
  exact goes

theorem ends_modify_bind {change : σ → σ} {next : PUnit → ExceptT ε (StateM σ) β}
    (goes : Ends (next ⟨⟩) (change before) good bad) : Ends (modify change >>= next) before good bad := by
  unfold Ends at goes ⊢
  exact goes

end

theorem ends_set {before fresh : σ} {good : PUnit → σ → Prop} {bad : ε → σ → Prop} (holds : good ⟨⟩ fresh) :
    Ends (set fresh : ExceptT ε (StateM σ) PUnit) before good bad := by
  unfold Ends
  exact holds

end ApiStubs
