import ApiStubs.Pointer
import ApiStubs.Proofs.Ran
import Mathlib.Data.List.Forall2

/- Two runs side by side. A comparison says which failures of the first run say nothing about the second, which
   failures tell the same, and which places in messages stand for one another. Two outcomes agree when the first
   run fails in an excused way, or both fail alike, or both succeed with related results; so do sequences of
   computations that agree one by one. -/

set_option autoImplicit false

namespace ApiStubs

structure Comparison where
  excused : Error → Prop
  alike : Error → Error → Prop
  near : String → String → Prop
  alike_refl : ∀ e, alike e e
  near_refl : ∀ location, near location location
  near_extend : ∀ location other segment, near location other →
    near (Pointer.extendText location segment) (Pointer.extendText other segment)
  alike_shape : ∀ expected location other kind, near location other →
    alike (.wrongShape expected location kind) (.wrongShape expected other kind)
  alike_depth : ∀ bound location other, near location other →
    alike (.schemaDepth bound (some location)) (.schemaDepth bound (some other))

-- Only equal failures tell the same, and none is excused.
def exact : Comparison where
  excused := fun _ => False
  alike := Eq
  near := Eq
  alike_refl := fun _ => rfl
  near_refl := fun _ => rfl
  near_extend := fun _ _ _ same => by rw [same]
  alike_shape := fun _ _ _ _ same => by rw [same]
  alike_depth := fun _ _ _ same => by rw [same]

variable {σ α β γ δ : Type}

inductive Comparison.Agree (c : Comparison) (results : α → β → Prop) :
    Except Error α → Except Error β → Prop where
  | ok {a : α} {b : β} (related : results a b) : Agree c results (.ok a) (.ok b)
  | failed {e f : Error} (alike : c.alike e f) : Agree c results (.error e) (.error f)
  | excused {e : Error} {second : Except Error β} (excused : c.excused e) : Agree c results (.error e) second

-- A computation with a state, as a function from the state it begins with.
def Comparison.AgreeFrom (c : Comparison) (states : σ → σ → Prop) (results : α → β → Prop)
    (first : σ → Except Error (α × σ)) (second : σ → Except Error (β × σ)) : Prop :=
  ∀ p q, states p q → c.Agree (fun r s => results r.1 s.1 ∧ states r.2 s.2) (first p) (second q)

section

variable {c : Comparison} {states : σ → σ → Prop} {results : α → β → Prop} {further : γ → δ → Prop}

theorem agree_same (result : Except Error α) : c.Agree Eq result result := by
  cases result with
  | ok a => exact .ok rfl
  | error e => exact .failed (c.alike_refl e)

theorem agree_known (result : Except Error α) : c.Agree (fun a b => a = b ∧ result = .ok a) result result := by
  cases result with
  | ok a => exact .ok ⟨rfl, rfl⟩
  | error e => exact .failed (c.alike_refl e)

theorem agree_ok {first : Except Error α} {second : Except Error β} {a : α} (agree : c.Agree results first second)
    (success : first = .ok a) : ∃ b, second = .ok b ∧ results a b := by
  subst success
  cases agree with
  | ok related => exact ⟨_, rfl, related⟩

theorem agree_error {first : Except Error α} {second : Except Error β} {e : Error}
    (agree : c.Agree results first second) (failure : first = .error e) :
    c.excused e ∨ ∃ f, second = .error f ∧ c.alike e f := by
  subst failure
  cases agree with
  | failed alike => exact .inr ⟨_, rfl, alike⟩
  | excused excused => exact .inl excused

theorem agree_bind {first : Except Error α} {second : Except Error β} {next : α → Except Error γ}
    {other : β → Except Error δ} (begins : c.Agree results first second)
    (goes : ∀ a b, results a b → c.Agree further (next a) (other b)) :
    c.Agree further (first >>= next) (second >>= other) := by
  cases begins with
  | ok related => exact goes _ _ related
  | failed alike => exact .failed alike
  | excused excused => exact .excused excused

theorem agree_imp {wider : α → β → Prop} {first : Except Error α} {second : Except Error β}
    (agree : c.Agree results first second) (implies : ∀ a b, results a b → wider a b) :
    c.Agree wider first second := by
  cases agree with
  | ok related => exact .ok (implies _ _ related)
  | failed alike => exact .failed alike
  | excused excused => exact .excused excused

theorem agree_map {first : Except Error α} {second : Except Error β} {f : α → γ} {g : β → δ}
    (agree : c.Agree results first second) (implies : ∀ a b, results a b → further (f a) (g b)) :
    c.Agree further (first.map f) (second.map g) := by
  cases agree with
  | ok related => exact .ok (implies _ _ related)
  | failed alike => exact .failed alike
  | excused excused => exact .excused excused

theorem agree_map_all {elements : γ → δ → Prop} {f : γ → Except Error α} {g : δ → Except Error β}
    {xs : List γ} {ys : List δ} (related : List.Forall₂ elements xs ys)
    (each : ∀ x y, elements x y → c.Agree results (f x) (g y)) :
    c.Agree (List.Forall₂ results) (xs.mapM f) (ys.mapM g) := by
  induction related with
  | nil => exact .ok .nil
  | cons first _ ih =>
      rw [List.mapM_cons, List.mapM_cons]
      exact agree_bind (each _ _ first) fun a b one => agree_bind ih fun as bs more => .ok (.cons one more)

theorem agree_from_bind {first : σ → Except Error (α × σ)} {second : σ → Except Error (β × σ)}
    {next : α → σ → Except Error (γ × σ)} {other : β → σ → Except Error (δ × σ)}
    (begins : c.AgreeFrom states results first second)
    (goes : ∀ a b, results a b → c.AgreeFrom states further (next a) (other b)) :
    c.AgreeFrom states further (fun p => first p >>= fun r => next r.1 r.2)
      (fun q => second q >>= fun r => other r.1 r.2) :=
  fun p q start => agree_bind (begins p q start) fun r s both => goes r.1 s.1 both.1 r.2 s.2 both.2

theorem agree_state_bind {first : StateT σ (Except Error) α} {second : StateT σ (Except Error) β}
    {next : α → StateT σ (Except Error) γ} {other : β → StateT σ (Except Error) δ}
    (begins : c.AgreeFrom states results first second)
    (goes : ∀ a b, results a b → c.AgreeFrom states further (next a) (other b)) :
    c.AgreeFrom states further (first >>= next) (second >>= other) :=
  agree_from_bind begins goes

theorem agree_state_pure {a : α} {b : β} (related : results a b) :
    c.AgreeFrom states results (pure a : StateT σ (Except Error) α) (pure b : StateT σ (Except Error) β) :=
  fun _ _ start => .ok ⟨related, start⟩

theorem agree_state_lift {first : Except Error α} {second : Except Error β}
    (agree : c.Agree results first second) :
    c.AgreeFrom states results (liftM first : StateT σ (Except Error) α)
      (liftM second : StateT σ (Except Error) β) := by
  intro p q start
  cases agree with
  | ok related => exact .ok ⟨related, start⟩
  | failed alike => exact .failed alike
  | excused excused => exact .excused excused

theorem agree_lift_bind {first : Except Error α} {second : Except Error β} {next : α → StateT σ (Except Error) γ}
    {other : β → StateT σ (Except Error) δ} (agree : c.Agree results first second)
    (goes : ∀ a b, results a b → c.AgreeFrom states further (next a) (other b)) :
    c.AgreeFrom states further ((liftM first : StateT σ (Except Error) α) >>= next)
      ((liftM second : StateT σ (Except Error) β) >>= other) :=
  agree_state_bind (agree_state_lift agree) goes

theorem agree_state_map_all {elements : γ → δ → Prop} {f : γ → StateT σ (Except Error) α}
    {g : δ → StateT σ (Except Error) β} {xs : List γ} {ys : List δ} (related : List.Forall₂ elements xs ys)
    (each : ∀ x y, elements x y → c.AgreeFrom states results (f x) (g y)) :
    c.AgreeFrom states (List.Forall₂ results) (xs.mapM f) (ys.mapM g) := by
  induction related with
  | nil => exact agree_state_pure .nil
  | cons first _ ih =>
      rw [List.mapM_cons, List.mapM_cons]
      exact agree_state_bind (each _ _ first) fun a b one =>
        agree_state_bind ih fun as bs more => agree_state_pure (.cons one more)

-- The results of the two runs are said of each element, in rows of the element and what it led to.
theorem agree_state_map_along {rowed : γ → α → β → Prop} {f : γ → StateT σ (Except Error) α}
    {g : γ → StateT σ (Except Error) β} (each : ∀ x, c.AgreeFrom states (rowed x) (f x) (g x)) (xs : List γ) :
    c.AgreeFrom states
      (fun as bs => ∃ rows : List (γ × α × β), xs = rows.map (·.1) ∧ as = rows.map (·.2.1) ∧ bs = rows.map (·.2.2) ∧
        ∀ row ∈ rows, rowed row.1 row.2.1 row.2.2) (xs.mapM f) (xs.mapM g) := by
  induction xs with
  | nil => exact agree_state_pure ⟨[], rfl, rfl, rfl, by simp⟩
  | cons x rest ih =>
      rw [List.mapM_cons, List.mapM_cons]
      refine agree_state_bind (each x) fun a b here => agree_state_bind ih fun as bs later => agree_state_pure ?_
      obtain ⟨rows, rfl, rfl, rfl, all⟩ := later
      exact ⟨(x, a, b) :: rows, rfl, rfl, rfl, List.forall_mem_cons.mpr ⟨here, all⟩⟩

theorem agree_state_map_all_same {elements : γ → δ → Prop} {f : γ → StateT σ (Except Error) α}
    {g : δ → StateT σ (Except Error) α} {xs : List γ} {ys : List δ} (related : List.Forall₂ elements xs ys)
    (each : ∀ x y, elements x y → c.AgreeFrom states Eq (f x) (g y)) :
    c.AgreeFrom states Eq (xs.mapM f) (ys.mapM g) := by
  have agree := agree_state_map_all related each
  rwa [List.forall₂_eq_eq_eq] at agree

end

-- What a computation leaves when it goes well, and why it fails when not.
def finish {ε : Type} (step : ExceptT ε (StateM σ) α) (p : σ) : Except ε (α × σ) :=
  match step.run.run p with
  | (.ok a, q) => .ok (a, q)
  | (.error e, _) => .error e

theorem finish_bind {ε : Type} (step : ExceptT ε (StateM σ) α) (next : α → ExceptT ε (StateM σ) β) :
    finish (step >>= next) = fun p => finish step p >>= fun r => finish (next r.1) r.2 := by
  funext p
  unfold finish
  rw [run_bind]
  cases step.run.run p with
  | mk result q => cases result <;> rfl

def Comparison.AgreeRun (c : Comparison) (states : σ → σ → Prop) (results : α → β → Prop)
    (first : ExceptT Error (StateM σ) α) (second : ExceptT Error (StateM σ) β) : Prop :=
  c.AgreeFrom states results (finish first) (finish second)

section

variable {c : Comparison} {states : σ → σ → Prop} {results : α → β → Prop} {further : γ → δ → Prop}

theorem agree_run_bind {first : ExceptT Error (StateM σ) α} {second : ExceptT Error (StateM σ) β}
    {next : α → ExceptT Error (StateM σ) γ} {other : β → ExceptT Error (StateM σ) δ}
    (begins : c.AgreeRun states results first second)
    (goes : ∀ a b, results a b → c.AgreeRun states further (next a) (other b)) :
    c.AgreeRun states further (first >>= next) (second >>= other) := by
  unfold Comparison.AgreeRun
  rw [finish_bind, finish_bind]
  exact agree_from_bind begins goes

theorem agree_run_result {first : Except Error α} {second : Except Error β}
    (agree : c.Agree results first second) :
    c.AgreeRun states results (ExceptT.mk (pure first)) (ExceptT.mk (pure second)) := by
  intro p q start
  cases agree with
  | ok related => exact .ok ⟨related, start⟩
  | failed alike => exact .failed alike
  | excused excused => exact .excused excused

theorem agree_run_pure {a : α} {b : β} (related : results a b) :
    c.AgreeRun states results (pure a : ExceptT Error (StateM σ) α) (pure b) :=
  fun _ _ start => .ok ⟨related, start⟩

theorem agree_run_same (step : ExceptT Error (StateM σ) α) : c.AgreeRun Eq Eq step step := by
  rintro p _ rfl
  exact agree_imp (agree_same (finish step p)) fun r s same => same ▸ ⟨rfl, rfl⟩

end

end ApiStubs
