import ApiStubs.Value.Basic

/- Runs that go well. A computation reads and changes a state and may fail; a sequence of computations goes well
   exactly when each of them does, the next from where the one before ended. -/

set_option autoImplicit false

namespace ApiStubs

variable {ε σ α β : Type}

def Ran (step : ExceptT ε (StateM σ) α) (before : σ) (a : α) (after : σ) : Prop :=
  step.run.run before = (.ok a, after)

-- The only proofs that open the two layers are `run_bind` and `run_catch`; all others go through `ran_bind`.
theorem run_bind (step : ExceptT ε (StateM σ) α) (next : α → ExceptT ε (StateM σ) β) (p : σ) :
    (step >>= next).run.run p =
      match step.run.run p with
      | (.ok a, q) => (next a).run.run q
      | (.error e, q) => (.error e, q) := by
  change StateT.run (StateT.bind step.run (ExceptT.bindCont next)) p = _
  simp only [StateT.run, StateT.bind]
  change (match step.run p with | (a, q) => ExceptT.bindCont next a q) = _
  cases step.run p with
  | mk result q => cases result <;> rfl

theorem ran_of_result {step : ExceptT ε (StateM σ) α} {p : σ} {a : α}
    (result : (step.run.run p).1.toOption = some a) : Ran step p a (step.run.run p).2 := by
  unfold Ran
  cases run : step.run.run p with
  | mk outcome q =>
      rw [run] at result
      cases outcome with
      | ok b =>
          cases result
          rfl
      | error e => cases result

theorem ran_bind (step : ExceptT ε (StateM σ) α) (next : α → ExceptT ε (StateM σ) β) (p r : σ) (b : β) :
    Ran (step >>= next) p b r ↔ ∃ a q, Ran step p a q ∧ Ran (next a) q b r := by
  unfold Ran
  rw [run_bind]
  cases step.run.run p with
  | mk result q =>
      cases result with
      | error e =>
          constructor
          · intro failed
            cases failed
          · rintro ⟨_, _, failed, -⟩
            cases failed
      | ok a =>
          constructor
          · intro rest
            exact ⟨a, q, rfl, rest⟩
          · rintro ⟨_, _, first, rest⟩
            cases first
            exact rest

theorem ran_pure (a b : α) (p q : σ) : Ran (pure a : ExceptT ε (StateM σ) α) p b q ↔ a = b ∧ p = q := by
  change ((Except.ok a : Except ε α), p) = (Except.ok b, q) ↔ _
  simp

theorem ran_result (result : Except ε α) (a : α) (p q : σ) :
    Ran (ExceptT.mk (pure result)) p a q ↔ result = .ok a ∧ p = q := by
  change (result, p) = (Except.ok a, q) ↔ _
  simp

theorem ran_throw (e : ε) (a : α) (p q : σ) : ¬ Ran (throw e : ExceptT ε (StateM σ) α) p a q := by
  change ¬ (((Except.error e : Except ε α), p) = (Except.ok a, q))
  simp

theorem ran_get (p q a : σ) : Ran (get : ExceptT ε (StateM σ) σ) p a q ↔ a = p ∧ q = p := by
  change ((Except.ok p : Except ε σ), p) = (Except.ok a, q) ↔ _
  simp [eq_comm]

theorem ran_set (p q fresh : σ) (u : PUnit) : Ran (set fresh : ExceptT ε (StateM σ) PUnit) p u q ↔ q = fresh := by
  change ((Except.ok PUnit.unit : Except ε PUnit), fresh) = (Except.ok u, q) ↔ _
  simp [eq_comm]

theorem ran_modify (change : σ → σ) (p q : σ) (u : PUnit) :
    Ran (modify change : ExceptT ε (StateM σ) PUnit) p u q ↔ q = change p := by
  change ((Except.ok PUnit.unit : Except ε PUnit), change p) = (Except.ok u, q) ↔ _
  simp [eq_comm]

theorem run_catch (step : ExceptT ε (StateM σ) α) (handle : ε → ExceptT ε (StateM σ) α) (p : σ) :
    (tryCatch step handle).run.run p =
      match step.run.run p with
      | (.ok a, q) => (.ok a, q)
      | (.error e, q) => (handle e).run.run q := by
  change StateT.run (StateT.bind step.run fun result =>
    match result with
    | .ok a => pure (.ok a)
    | .error e => (handle e).run) p = _
  simp only [StateT.run, StateT.bind]
  cases step.run p with
  | mk result q => cases result <;> rfl

theorem ran_catch (step : ExceptT ε (StateM σ) α) (handle : ε → ExceptT ε (StateM σ) α) (p r : σ) (a : α) :
    Ran (tryCatch step handle) p a r ↔
      Ran step p a r ∨ ∃ e q, step.run.run p = (.error e, q) ∧ Ran (handle e) q a r := by
  unfold Ran
  rw [run_catch]
  cases step.run.run p with
  | mk result q =>
      cases result with
      | ok b =>
          constructor
          · exact .inl
          · rintro (done | ⟨_, _, failed, -⟩)
            · exact done
            · cases failed
      | error e =>
          constructor
          · exact fun rest => .inr ⟨e, q, rfl, rest⟩
          · rintro (done | ⟨_, _, failed, rest⟩)
            · cases done
            · cases failed
              exact rest

end ApiStubs
