import ApiStubs.Pointer

/- Chains of references. A chain begins with a pointer, and a pointer that leads to a reference is followed by
   what that reference points with. Whether the chain ever ends is not asked here; what resolving returns is
   decided by where the chain ends or breaks and by where the bound stands. -/

set_option autoImplicit false

namespace ApiStubs.Reference

inductive PointerAt (document start : Value) : Nat → Value → Prop where
  | start : PointerAt document start 0 start
  | hop {i : Nat} {pointer target next : Value} (before : PointerAt document start i pointer)
      (found : Pointer.lookup document pointer = .ok target) (reference : target.reference? = some next) :
      PointerAt document start (i + 1) next

def EndsAt (document start : Value) (k : Nat) (node : Value) : Prop :=
  ∃ pointer, PointerAt document start k pointer ∧ Pointer.lookup document pointer = .ok node ∧
    node.reference? = none

def BreaksAt (document start : Value) (i : Nat) (pointer : Value) : Prop :=
  PointerAt document start i pointer ∧ ∀ node, Pointer.lookup document pointer ≠ .ok node

theorem walk_error (pointer : String) (node : Value) (path : List String) (e : Error)
    (failed : Pointer.walk pointer node path = .error e) :
    ∃ segment, e = .referenceNotFound pointer (some segment) := by
  induction path generalizing node with
  | nil => cases failed
  | cons segment rest ih =>
      cases step : Pointer.step? node segment with
      | none =>
          simp only [Pointer.walk, step, Except.error.injEq] at failed
          exact ⟨segment, failed.symm⟩
      | some inner =>
          simp only [Pointer.walk, step] at failed
          exact ih inner failed

theorem lookup_error (document pointer : Value) (e : Error)
    (failed : Pointer.lookup document pointer = .error e) :
    ∃ segment, e = .referenceNotFound pointer.display segment := by
  unfold Pointer.lookup at failed
  split at failed
  · split at failed
    · obtain ⟨segment, eq⟩ := walk_error _ _ _ _ failed
      exact ⟨some segment, eq⟩
    · cases failed
      exact ⟨none, rfl⟩
  · cases failed
    exact ⟨none, rfl⟩

theorem lookup_broken_iff (document pointer : Value) :
    (∀ node, Pointer.lookup document pointer ≠ .ok node) ↔
      ∃ segment, Pointer.lookup document pointer = .error (.referenceNotFound pointer.display segment) := by
  constructor
  · intro broken
    cases found : Pointer.lookup document pointer with
    | ok node => exact absurd found (broken node)
    | error e =>
        obtain ⟨segment, rfl⟩ := lookup_error document pointer e found
        exact ⟨segment, rfl⟩
  · rintro ⟨segment, failed⟩ node found
    rw [failed] at found
    cases found

theorem pointer_at_zero (document start pointer : Value) :
    PointerAt document start 0 pointer ↔ pointer = start := by
  constructor
  · intro at_zero
    cases at_zero
    rfl
  · rintro rfl
    exact .start

-- Chains grow at their end, but following takes them from their front.
theorem pointer_at_succ (document start pointer : Value) (i : Nat) :
    PointerAt document start (i + 1) pointer ↔ ∃ target next, Pointer.lookup document start = .ok target ∧
      target.reference? = some next ∧ PointerAt document next i pointer := by
  constructor
  · intro reached
    induction i generalizing pointer with
    | zero =>
        obtain - | ⟨before, found, reference⟩ := reached
        rw [pointer_at_zero] at before
        subst before
        exact ⟨_, _, found, reference, .start⟩
    | succ i ih =>
        obtain - | ⟨before, found, reference⟩ := reached
        obtain ⟨target, next, first, points, rest⟩ := ih _ before
        exact ⟨target, next, first, points, .hop rest found reference⟩
  · rintro ⟨target, next, first, points, rest⟩
    induction rest with
    | start => exact .hop .start first points
    | hop _ found reference ih => exact .hop ih found reference

theorem pointer_at_unique (document start : Value) (i : Nat) (a b : Value)
    (left : PointerAt document start i a) (right : PointerAt document start i b) : a = b := by
  induction left generalizing b with
  | start => exact ((pointer_at_zero document start b).mp right).symm
  | hop before found reference ih =>
      obtain - | ⟨earlier, also, points⟩ := right
      cases ih _ earlier
      rw [found] at also
      cases also
      rw [reference] at points
      exact Option.some.inj points

theorem ends_at_zero (document start node : Value) :
    EndsAt document start 0 node ↔
      Pointer.lookup document start = .ok node ∧ node.reference? = none := by
  simp [EndsAt, pointer_at_zero]

theorem ends_at_succ (document start node : Value) (k : Nat) :
    EndsAt document start (k + 1) node ↔ ∃ target next, Pointer.lookup document start = .ok target ∧
      target.reference? = some next ∧ EndsAt document next k node := by
  simp only [EndsAt, pointer_at_succ]
  constructor
  · rintro ⟨pointer, ⟨target, next, first, points, rest⟩, found, plain⟩
    exact ⟨target, next, first, points, pointer, rest, found, plain⟩
  · rintro ⟨target, next, first, points, pointer, rest, found, plain⟩
    exact ⟨pointer, ⟨target, next, first, points, rest⟩, found, plain⟩

theorem ends_at_next (document start target next node : Value) (k : Nat)
    (found : Pointer.lookup document start = .ok target) (reference : target.reference? = some next) :
    EndsAt document start (k + 1) node ↔ EndsAt document next k node := by
  simp [ends_at_succ, found, reference]

theorem breaks_at_zero (document start pointer : Value) :
    BreaksAt document start 0 pointer ↔
      pointer = start ∧ ∀ node, Pointer.lookup document pointer ≠ .ok node := by
  simp only [BreaksAt, pointer_at_zero]

theorem breaks_at_succ (document start pointer : Value) (i : Nat) :
    BreaksAt document start (i + 1) pointer ↔ ∃ target next, Pointer.lookup document start = .ok target ∧
      target.reference? = some next ∧ BreaksAt document next i pointer := by
  simp only [BreaksAt, pointer_at_succ]
  constructor
  · rintro ⟨⟨target, next, first, points, rest⟩, broken⟩
    exact ⟨target, next, first, points, rest, broken⟩
  · rintro ⟨target, next, first, points, rest, broken⟩
    exact ⟨⟨target, next, first, points, rest⟩, broken⟩

theorem breaks_at_next (document start target next pointer : Value) (i : Nat)
    (found : Pointer.lookup document start = .ok target) (reference : target.reference? = some next) :
    BreaksAt document start (i + 1) pointer ↔ BreaksAt document next i pointer := by
  simp [breaks_at_succ, found, reference]

open Value (follow resolve resolved)

theorem follow_unfound (document pointer : Value) (bound : Int) (hops : Nat) (e : Error)
    (failed : Pointer.lookup document pointer = .error e) :
    follow document bound (hops + 1) pointer = .error e := by
  simp only [follow, failed]

theorem follow_reference (document pointer target next : Value) (bound : Int) (hops : Nat)
    (found : Pointer.lookup document pointer = .ok target) (reference : target.reference? = some next) :
    follow document bound (hops + 1) pointer = follow document bound hops next := by
  simp only [follow, found, reference]

theorem follow_end (document pointer target : Value) (bound : Int) (hops : Nat)
    (found : Pointer.lookup document pointer = .ok target) (plain : target.reference? = none) :
    follow document bound (hops + 1) pointer = .ok target := by
  simp only [follow, found, plain]

-- What a node holds is met along the chain in one of three ways; each lemma below goes through them in step
-- with the hops.
theorem follow_ok_iff (document pointer node : Value) (bound : Int) (hops : Nat) :
    follow document bound hops pointer = .ok node ↔ ∃ k, k < hops ∧ EndsAt document pointer k node := by
  induction hops generalizing pointer with
  | zero => simp [follow]
  | succ hops ih =>
      cases found : Pointer.lookup document pointer with
      | error e =>
          rw [follow_unfound _ _ _ _ _ found]
          constructor
          · intro impossible
            cases impossible
          · rintro ⟨k, -, ends⟩
            cases k with
            | zero => simp [ends_at_zero, found] at ends
            | succ k => simp [ends_at_succ, found] at ends
      | ok target =>
          cases points : target.reference? with
          | none =>
              rw [follow_end _ _ _ _ _ found points]
              constructor
              · intro same
                cases same
                exact ⟨0, Nat.succ_pos hops, (ends_at_zero ..).mpr ⟨found, points⟩⟩
              · rintro ⟨k, -, ends⟩
                cases k with
                | zero =>
                    rw [ends_at_zero, found] at ends
                    exact ends.1
                | succ k => simp [ends_at_succ, found, points] at ends
          | some next =>
              rw [follow_reference _ _ _ _ _ _ found points, ih]
              constructor
              · rintro ⟨k, within, ends⟩
                exact ⟨k + 1, Nat.succ_lt_succ within, (ends_at_next _ _ _ _ _ k found points).mpr ends⟩
              · rintro ⟨k, within, ends⟩
                cases k with
                | zero =>
                    obtain ⟨also, plain⟩ := (ends_at_zero ..).mp ends
                    rw [found] at also
                    cases also
                    simp [points] at plain
                | succ k =>
                    rw [ends_at_next _ _ _ _ _ k found points] at ends
                    exact ⟨k, Nat.lt_of_succ_lt_succ within, ends⟩

theorem follow_broken_iff (document pointer : Value) (bound : Int) (hops : Nat) (text : String) :
    (∃ segment, follow document bound hops pointer = .error (.referenceNotFound text segment)) ↔
      ∃ i broken, i < hops ∧ BreaksAt document pointer i broken ∧ text = broken.display := by
  induction hops generalizing pointer with
  | zero => simp [follow]
  | succ hops ih =>
      cases found : Pointer.lookup document pointer with
      | error e =>
          obtain ⟨segment, rfl⟩ := lookup_error _ _ _ found
          rw [follow_unfound _ _ _ _ _ found]
          constructor
          · rintro ⟨named, same⟩
            cases same
            refine ⟨0, pointer, Nat.succ_pos hops, (breaks_at_zero ..).mpr ⟨rfl, ?_⟩, rfl⟩
            exact (lookup_broken_iff ..).mpr ⟨segment, found⟩
          · rintro ⟨i, broken, -, breaks, rfl⟩
            cases i with
            | zero =>
                cases ((breaks_at_zero ..).mp breaks).1
                exact ⟨segment, rfl⟩
            | succ i => simp [breaks_at_succ, found] at breaks
      | ok target =>
          cases points : target.reference? with
          | none =>
              rw [follow_end _ _ _ _ _ found points]
              constructor
              · rintro ⟨segment, impossible⟩
                cases impossible
              · rintro ⟨i, broken, -, breaks, -⟩
                cases i with
                | zero =>
                    obtain ⟨rfl, nowhere⟩ := (breaks_at_zero ..).mp breaks
                    exact absurd found (nowhere target)
                | succ i => simp [breaks_at_succ, found, points] at breaks
          | some next =>
              rw [follow_reference _ _ _ _ _ _ found points, ih]
              constructor
              · rintro ⟨i, broken, within, breaks, named⟩
                exact ⟨i + 1, broken, Nat.succ_lt_succ within,
                  (breaks_at_next _ _ _ _ _ i found points).mpr breaks, named⟩
              · rintro ⟨i, broken, within, breaks, named⟩
                cases i with
                | zero =>
                    obtain ⟨rfl, nowhere⟩ := (breaks_at_zero ..).mp breaks
                    exact absurd found (nowhere target)
                | succ i =>
                    rw [breaks_at_next _ _ _ _ _ i found points] at breaks
                    exact ⟨i, broken, Nat.lt_of_succ_lt_succ within, breaks, named⟩

theorem follow_depth_iff (document pointer stopped : Value) (bound named : Int) (hops : Nat) :
    follow document bound hops pointer = .error (.referenceDepth stopped named) ↔
      PointerAt document pointer hops stopped ∧ named = bound := by
  induction hops generalizing pointer with
  | zero => simp [follow, pointer_at_zero, eq_comm]
  | succ hops ih =>
      cases found : Pointer.lookup document pointer with
      | error e =>
          obtain ⟨segment, rfl⟩ := lookup_error _ _ _ found
          rw [follow_unfound _ _ _ _ _ found]
          simp [pointer_at_succ, found]
      | ok target =>
          cases points : target.reference? with
          | none =>
              rw [follow_end _ _ _ _ _ found points]
              simp [pointer_at_succ, found, points]
          | some next =>
              rw [follow_reference _ _ _ _ _ _ found points, ih]
              simp [pointer_at_succ, found, points]

theorem follow_error (document pointer : Value) (bound : Int) (hops : Nat) (e : Error)
    (failed : follow document bound hops pointer = .error e) :
    (∃ text segment, e = .referenceNotFound text segment) ∨ ∃ stopped, e = .referenceDepth stopped bound := by
  induction hops generalizing pointer with
  | zero =>
      cases failed
      exact .inr ⟨pointer, rfl⟩
  | succ hops ih =>
      cases found : Pointer.lookup document pointer with
      | error cause =>
          rw [follow_unfound _ _ _ _ _ found] at failed
          cases failed
          obtain ⟨segment, rfl⟩ := lookup_error _ _ _ found
          exact .inl ⟨_, segment, rfl⟩
      | ok target =>
          cases points : target.reference? with
          | none =>
              rw [follow_end _ _ _ _ _ found points] at failed
              cases failed
          | some next =>
              rw [follow_reference _ _ _ _ _ _ found points] at failed
              exact ih next failed

-- A chain that meets a pointer twice goes round from there, so that it has a pointer at every place.
theorem pointer_at_trans (document start middle stop : Value) (i j : Nat)
    (first : PointerAt document start i middle) (second : PointerAt document middle j stop) :
    PointerAt document start (i + j) stop := by
  induction second with
  | start => exact first
  | hop _ found reference ih => exact .hop ih found reference

theorem pointer_at_before (document start stop : Value) (i j : Nat)
    (reached : PointerAt document start (i + j) stop) :
    ∃ middle, PointerAt document start i middle ∧ PointerAt document middle j stop := by
  induction i generalizing start with
  | zero => exact ⟨start, .start, by simpa using reached⟩
  | succ i ih =>
      rw [Nat.add_right_comm, pointer_at_succ] at reached
      obtain ⟨target, next, found, reference, rest⟩ := reached
      obtain ⟨middle, front, back⟩ := ih next rest
      exact ⟨middle, (pointer_at_succ ..).mpr ⟨_, _, found, reference, front⟩, back⟩

theorem pointer_at_rounds (document repeated : Value) (length rounds : Nat)
    (round : PointerAt document repeated length repeated) :
    PointerAt document repeated (length * rounds) repeated := by
  induction rounds with
  | zero => exact .start
  | succ rounds ih => exact pointer_at_trans _ _ _ _ _ _ ih round

theorem cycle_reaches (document start repeated : Value) (i j n : Nat) (apart : i < j)
    (once : PointerAt document start i repeated) (again : PointerAt document start j repeated) :
    ∃ stopped, PointerAt document start n stopped := by
  obtain ⟨length, rfl⟩ : ∃ length, j = i + length := ⟨j - i, by omega⟩
  obtain ⟨middle, front, round⟩ := pointer_at_before _ _ _ _ _ again
  cases pointer_at_unique _ _ _ _ _ front once
  have far := pointer_at_trans _ _ _ _ _ _ once (pointer_at_rounds document repeated length n round)
  have enough : n ≤ i + length * n := by
    have := Nat.le_mul_of_pos_left n (show 0 < length by omega)
    omega
  obtain ⟨rest, within⟩ := Nat.exists_eq_add_of_le enough
  rw [within] at far
  obtain ⟨stopped, reached, -⟩ := pointer_at_before _ _ _ _ _ far
  exact ⟨stopped, reached⟩

theorem resolve_ok_not_reference (document pointer node : Value) (bound depth : Int)
    (success : resolve document bound depth pointer = .ok node) : node.isReference = false := by
  obtain ⟨k, -, _, -, -, plain⟩ := (follow_ok_iff ..).mp success
  simp [Value.isReference, plain]

theorem resolve_larger_bound (document pointer node : Value) (bound larger depth : Int)
    (above : bound ≤ larger) (success : resolve document bound depth pointer = .ok node) :
    resolve document larger depth pointer = .ok node := by
  obtain ⟨k, within, ends⟩ := (follow_ok_iff ..).mp success
  exact (follow_ok_iff ..).mpr ⟨k, by omega, ends⟩

theorem resolved_of_not_reference (document node : Value) (bound : Int)
    (plain : node.isReference = false) : resolved document bound node = .ok node := by
  simp only [Value.isReference, Option.isSome_eq_false_iff, Option.isNone_iff_eq_none] at plain
  simp [resolved, plain]

theorem resolved_ok_not_reference (document node target : Value) (bound : Int)
    (success : resolved document bound node = .ok target) : target.isReference = false := by
  cases points : node.reference? with
  | none =>
      simp only [resolved, points, Except.ok.injEq] at success
      subst success
      simp [Value.isReference, points]
  | some pointer =>
      simp only [resolved, points] at success
      exact resolve_ok_not_reference document pointer target bound 0 success

theorem resolved_larger_bound (document node target : Value) (bound larger : Int)
    (above : bound ≤ larger) (success : resolved document bound node = .ok target) :
    resolved document larger node = .ok target := by
  cases points : node.reference? with
  | none => simpa only [resolved, points] using success
  | some pointer =>
      simp only [resolved, points] at success ⊢
      exact resolve_larger_bound document pointer target bound larger 0 above success

-- `(bound - depth).toNat` is the number of hops that are left, none once the depth has come up to the bound.
theorem resolve_follows_chain (document pointer : Value) (bound depth : Int) :
    (∀ node, resolve document bound depth pointer = .ok node ↔
      ∃ k, k < (bound - depth).toNat ∧ EndsAt document pointer k node) ∧
    (∀ text, (∃ segment, resolve document bound depth pointer = .error (.referenceNotFound text segment)) ↔
      ∃ i broken, i < (bound - depth).toNat ∧ BreaksAt document pointer i broken ∧ text = broken.display) ∧
    (∀ stopped named, resolve document bound depth pointer = .error (.referenceDepth stopped named) ↔
      PointerAt document pointer (bound - depth).toNat stopped ∧ named = bound) ∧
    (∀ e, resolve document bound depth pointer = .error e →
      (∃ text segment, e = .referenceNotFound text segment) ∨ ∃ stopped, e = .referenceDepth stopped bound) ∧
    (∀ i j repeated, i < j → PointerAt document pointer i repeated → PointerAt document pointer j repeated →
      ∃ stopped, resolve document bound depth pointer = .error (.referenceDepth stopped bound)) ∧
    (∀ node, resolve document bound depth pointer = .ok node → node.isReference = false ∧
      ∀ larger, bound ≤ larger → resolve document larger depth pointer = .ok node) ∧
    (∀ node target, resolved document bound node = .ok target → target.isReference = false ∧
      (∀ other, resolved document other target = .ok target) ∧
      ∀ larger, bound ≤ larger → resolved document larger node = .ok target) := by
  refine ⟨fun node => follow_ok_iff .., fun text => follow_broken_iff .., fun stopped named => follow_depth_iff ..,
    fun e failed => follow_error _ _ _ _ _ failed, ?_, ?_, ?_⟩
  · intro i j repeated apart once again
    obtain ⟨stopped, reached⟩ :=
      cycle_reaches document pointer repeated i j (bound - depth).toNat apart once again
    exact ⟨stopped, (follow_depth_iff ..).mpr ⟨reached, rfl⟩⟩
  · intro node success
    exact ⟨resolve_ok_not_reference _ _ _ _ _ success,
      fun larger above => resolve_larger_bound _ _ _ _ _ _ above success⟩
  · intro node target success
    have plain := resolved_ok_not_reference _ _ _ _ success
    exact ⟨plain, fun other => resolved_of_not_reference _ _ _ plain,
      fun larger above => resolved_larger_bound _ _ _ _ _ above success⟩

theorem self_reference_exceeds_bound :
    ∃ stopped, resolve (.map [(.str "a", .map [(.str "$ref", .str "#/a")])]) 1000000 7 (.str "#/a") =
      .error (.referenceDepth stopped 1000000) :=
  (resolve_follows_chain _ _ _ _).2.2.2.2.1 0 1 (.str "#/a") Nat.zero_lt_one .start (.hop .start rfl rfl)

end ApiStubs.Reference
