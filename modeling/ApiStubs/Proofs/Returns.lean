import Mathlib.Data.List.Forall2

/- What a computation that may fail comes to: its result is good, or its error is known. A sequence comes to that if
   each of its computations does, and then what it began with and what it came to are related one by one. -/

set_option autoImplicit false

namespace ApiStubs

variable {ε σ α β : Type}

theorem except_bind_ok (first : Except ε α) (next : α → Except ε β) (b : β) :
    (first >>= next) = .ok b ↔ ∃ a, first = .ok a ∧ next a = .ok b := by
  cases first <;> simp [bind, Except.bind]

theorem except_map_ok (result : Except ε α) (f : α → β) (b : β) :
    result.map f = .ok b ↔ ∃ a, result = .ok a ∧ f a = b := by
  cases result <;> simp [Except.map]

theorem to_option_some {result : Except ε α} {a : α} (found : result.toOption = some a) : result = .ok a := by
  cases result with
  | error e => cases found
  | ok b => exact congrArg Except.ok (Option.some.inj found)

theorem forall_mem_of_related {holds : β → Prop} {as : List α} {bs : List β}
    (related : List.Forall₂ (fun _ b => holds b) as bs) : ∀ b ∈ bs, holds b := by
  have turned : List.Forall₂ (fun b _ => holds b ∧ True) bs as := (related.imp fun _ _ held => ⟨held, trivial⟩).flip
  exact ((List.forall₂_and_left _ _).mp turned).1

theorem related_at {related : α → β → Prop} {as : List α} {bs : List β} (each : List.Forall₂ related as bs) {i : Nat}
    {b : β} (second : bs[i]? = some b) : ∃ a, as[i]? = some a ∧ related a b := by
  obtain ⟨within, rfl⟩ := List.getElem?_eq_some_iff.mp second
  have also : i < as.length := each.length_eq ▸ within
  exact ⟨as[i], List.getElem?_eq_getElem also, each.get also within⟩

inductive Returns (good : α → Prop) (known : ε → Prop) : Except ε α → Prop where
  | ok {a : α} (holds : good a) : Returns good known (.ok a)
  | error {e : ε} (occurs : known e) : Returns good known (.error e)

-- A computation with a state, as a function from the state it begins with.
def ReturnsFrom (good : α → Prop) (known : ε → Prop) (run : σ → Except ε (α × σ)) : Prop :=
  ∀ p, Returns (fun r => good r.1) known (run p)

variable {good : α → Prop} {further : β → Prop} {known : ε → Prop}

theorem returns_known {result : Except ε α} {e : ε} (returns : Returns good known result)
    (failure : result = .error e) : known e := by
  subst failure
  cases returns with
  | error occurs => exact occurs

theorem returns_result {result : Except ε α} {a : α} (returns : Returns good known result)
    (success : result = .ok a) : good a := by
  subst success
  cases returns with
  | ok holds => exact holds

theorem returns_exact {result : Except ε α} (returns : Returns good known result) :
    Returns (fun a => good a ∧ result = .ok a) known result := by
  cases returns with
  | ok holds => exact .ok ⟨holds, rfl⟩
  | error occurs => exact .error occurs

theorem returns_imp {further : α → Prop} {other : ε → Prop} {result : Except ε α} (returns : Returns good known result)
    (implies : ∀ a, good a → further a) (also : ∀ e, known e → other e) : Returns further other result := by
  cases returns with
  | ok holds => exact .ok (implies _ holds)
  | error occurs => exact .error (also _ occurs)

theorem returns_bind {first : Except ε α} {next : α → Except ε β} (begins : Returns good known first)
    (goes : ∀ a, good a → Returns further known (next a)) : Returns further known (first >>= next) := by
  cases begins with
  | ok holds => exact goes _ holds
  | error occurs => exact .error occurs

theorem returns_map {first : Except ε α} {change : α → β} (begins : Returns good known first)
    (implies : ∀ a, good a → further (change a)) : Returns further known (first.map change) := by
  cases begins with
  | ok holds => exact .ok (implies _ holds)
  | error occurs => exact .error occurs

theorem returns_map_all {related : α → β → Prop} {f : α → Except ε β} {xs : List α}
    (each : ∀ x ∈ xs, Returns (related x) known (f x)) : Returns (List.Forall₂ related xs) known (xs.mapM f) := by
  induction xs with
  | nil => exact .ok .nil
  | cons x rest ih =>
      have others := ih fun y member => each y (List.mem_cons_of_mem x member)
      rw [List.mapM_cons]
      exact returns_bind (each x List.mem_cons_self) fun b first =>
        returns_bind others fun bs more => .ok (.cons first more)

theorem returns_from_bind {first : σ → Except ε (α × σ)} {next : α → σ → Except ε (β × σ)}
    (begins : ReturnsFrom good known first) (goes : ∀ a, good a → ReturnsFrom further known (next a)) :
    ReturnsFrom further known (fun p => first p >>= fun r => next r.1 r.2) :=
  fun p => returns_bind (begins p) fun r holds => goes r.1 holds r.2

theorem returns_state_bind {first : StateT σ (Except ε) α} {next : α → StateT σ (Except ε) β}
    (begins : ReturnsFrom good known first) (goes : ∀ a, good a → ReturnsFrom further known (next a)) :
    ReturnsFrom further known (first >>= next) :=
  returns_from_bind begins goes

theorem returns_state_pure {a : α} (holds : good a) :
    ReturnsFrom good known (pure a : StateT σ (Except ε) α) :=
  fun _ => .ok holds

theorem returns_state_lift {result : Except ε α} (returns : Returns good known result) :
    ReturnsFrom good known (liftM result : StateT σ (Except ε) α) := by
  intro p
  cases returns with
  | ok holds => exact .ok holds
  | error occurs => exact .error occurs

theorem returns_state_map_all {related : α → β → Prop} {f : α → StateT σ (Except ε) β} {xs : List α}
    (each : ∀ x ∈ xs, ReturnsFrom (related x) known (f x)) :
    ReturnsFrom (List.Forall₂ related xs) known (xs.mapM f) := by
  induction xs with
  | nil => exact returns_state_pure .nil
  | cons x rest ih =>
      have others := ih fun y member => each y (List.mem_cons_of_mem x member)
      rw [List.mapM_cons]
      exact returns_state_bind (each x List.mem_cons_self) fun b first =>
        returns_state_bind others fun bs more => returns_state_pure (.cons first more)

-- Each computation of a sequence is run only after those in front of it are done; `passed` are the ones run already.
theorem returns_state_map_after {done : α → Prop} {f : α → StateT σ (Except ε) β} (passed xs : List α)
    (before : ∀ y ∈ passed, done y)
    (each : ∀ front x rest, passed ++ xs = front ++ x :: rest → (∀ y ∈ front, done y) →
      ReturnsFrom (fun _ => done x) known (f x)) :
    ReturnsFrom (fun _ => ∀ x ∈ xs, done x) known (xs.mapM f) := by
  induction xs generalizing passed with
  | nil => exact returns_state_pure (by simp)
  | cons x rest ih =>
      rw [List.mapM_cons]
      refine returns_state_bind (each passed x rest rfl before) fun _ first => ?_
      have others := ih (passed ++ [x]) (by simpa [or_imp, forall_and] using ⟨before, first⟩)
        (by simpa using each)
      exact returns_state_bind others fun _ more =>
        returns_state_pure (List.forall_mem_cons.mpr ⟨first, more⟩)

end ApiStubs
