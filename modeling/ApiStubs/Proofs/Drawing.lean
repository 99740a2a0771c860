import ApiStubs.Proofs.Returns
import ApiStubs.Synthesis

/- Runs of computations that draw. A sequence hands the generator on from each computation to the next, and
   stops at the first that fails. -/

set_option autoImplicit false

namespace ApiStubs

variable {α β : Type}

namespace Drawing

theorem bind_run (first : Drawing α) (next : α → Drawing β) (g : Generator) :
    (first >>= next) g = match first g with
      | .ok (a, h) => next a h
      | .error e => .error e := by
  change (first g >>= fun r => next r.1 r.2) = _
  cases first g with
  | error e => rfl
  | ok r => rfl

theorem lift_bind_run (result : Except Error α) (next : α → Drawing β) (g : Generator) :
    ((liftM result : Drawing α) >>= next) g = match result with
      | .ok a => next a g
      | .error e => .error e := by
  cases result <;> rfl

theorem bind_ok (first : Drawing α) (next : α → Drawing β) (g k : Generator) (b : β)
    (success : (first >>= next) g = .ok (b, k)) : ∃ a h, first g = .ok (a, h) ∧ next a h = .ok (b, k) := by
  rw [bind_run] at success
  cases run : first g with
  | error e =>
      rw [run] at success
      cases success
  | ok r =>
      rw [run] at success
      exact ⟨r.1, r.2, rfl, success⟩

theorem map_all_ok (draw : α → Drawing β) (xs : List α) (bs : List β) (g k : Generator)
    (success : xs.mapM draw g = .ok (bs, k)) :
    List.Forall₂ (fun x b => x ∈ xs ∧ ∃ before after, draw x before = .ok (b, after)) xs bs := by
  rw [List.forall₂_and_left]
  refine ⟨fun _ member => member, ?_⟩
  induction xs generalizing g bs with
  | nil =>
      cases success
      exact .nil
  | cons x rest ih =>
      rw [List.mapM_cons] at success
      obtain ⟨b, h, first, others⟩ := bind_ok _ _ _ _ _ success
      obtain ⟨more, last, drawn, done⟩ := bind_ok _ _ _ _ _ others
      cases done
      exact .cons ⟨g, h, first⟩ (ih more h drawn)

-- Whether a drawing succeeds does not hang on what is drawn: it does if `good` holds, and fails with a `bad` error
-- if not.
def Decided (good : Prop) (bad : Error → Prop) (drawing : Drawing α) : Prop :=
  ∀ g, (good ∧ ∃ a h, drawing g = .ok (a, h)) ∨ (¬ good ∧ ∃ e, drawing g = .error e ∧ bad e)

variable {good further : Prop} {bad : Error → Prop}

theorem decided_pure (a : α) (holds : good) : Decided good bad (pure a : Drawing α) :=
  fun g => .inl ⟨holds, a, g, rfl⟩

theorem decided_fail {drawing : Drawing α} {e : Error} (fails : ∀ g, drawing g = .error e) (never : ¬ good)
    (known : bad e) : Decided good bad drawing :=
  fun g => .inr ⟨never, e, fails g, known⟩

theorem decided_of_iff {drawing : Drawing α} (same : good ↔ further) (decided : Decided good bad drawing) :
    Decided further bad drawing := by
  rwa [← propext same]

theorem decided_bind {first : Drawing α} {next : α → Drawing β} (firstDecided : Decided good bad first)
    (nextDecided : ∀ a, Decided further bad (next a)) : Decided (good ∧ further) bad (first >>= next) := by
  intro g
  rcases firstDecided g with ⟨holds, a, h, run⟩ | ⟨fails, e, run, known⟩
  · rcases nextDecided a h with ⟨also, b, k, rest⟩ | ⟨fails, e, rest, known⟩
    · exact .inl ⟨⟨holds, also⟩, b, k, by rw [bind_run, run]; exact rest⟩
    · exact .inr ⟨fun both => fails both.2, e, by rw [bind_run, run]; exact rest, known⟩
  · exact .inr ⟨fun both => fails both.1, e, by rw [bind_run, run], known⟩

theorem decided_map {first : Drawing α} (change : α → β) (decided : Decided good bad first) :
    Decided good bad (first >>= fun a => pure (change a)) :=
  decided_of_iff (Iff.of_eq (and_true good)) (decided_bind decided fun a => decided_pure (change a) trivial)

theorem decided_map_all (draw : α → Drawing β) (holds : α → Prop) (xs : List α)
    (each : ∀ x ∈ xs, Decided (holds x) bad (draw x)) : Decided (∀ x ∈ xs, holds x) bad (xs.mapM draw) := by
  induction xs with
  | nil => exact decided_pure [] (fun _ member => absurd member List.not_mem_nil)
  | cons x rest ih =>
      rw [List.mapM_cons]
      have others := ih fun y member => each y (List.mem_cons_of_mem x member)
      refine decided_of_iff List.forall_mem_cons.symm ?_
      exact decided_bind (each x List.mem_cons_self) fun b => decided_map (b :: ·) others

end Drawing

end ApiStubs
