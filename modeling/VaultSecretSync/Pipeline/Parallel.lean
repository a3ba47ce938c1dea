import VaultSecretSync.Pipeline.Run

/-!
# The scheduler of `executeParallel`

`executeParallel` runs `fn` on every target with at most `maxParallel` calls at once (a value
that is not positive counts as 1). The main loop walks the targets in order. For each it either
sends a token into the buffered channel `sem` and starts a goroutine, which writes
`results[i] = fn(targets[i])` and then runs its deferred calls, `<-sem` and `wg.Done()`, or,
once the context is done, stores the context's error in `results[i]` and goes on; Go's `select`
picks at random when both are possible. The loop then waits for every goroutine and returns
`results`.

The model is a step function over the loop's index, the goroutines whose call of `fn` has not
returned, those that gave their token back and have not called `wg.Done()`, the tokens in
`sem`'s buffer, the slots of `results` and whether the context is done. There is one event per
thing that can happen next: the context is cancelled, the main loop skips or starts a target, a
goroutine writes its slot and gives its token back, or it calls `wg.Done()`. A schedule is any
list of events, so a statement over every schedule holds for every interleaving of the
goroutines and every moment of cancellation. A slot is `none` until written, and the returned
slice has the zero `Result` there, as `make` leaves it.

* **Semaphore** (`running_le_capacity`): `sem` holds a token for each call of `fn` that has not
  returned, so at most `capacity maxParallel` calls run at once. Goroutines that gave their
  token back may still be alive, so more goroutines than that can exist at once.
* **Write once** (`run_keeps_written`): a written slot is never written again.
* **Termination** (`run_terminates`): every schedule has at most `3n + 1` events for `n`
  targets, and a state in which no event but a cancellation can happen has returned, so the
  loop never deadlocks, whether the context is cancelled or not.
* **The result** (`output_of_returned`): on return, slot `i` holds `fn(targets[i])` or the
  context's error; when the context was never cancelled the result is
  `executeParallel targets fn`, the map the pipeline model runs.

All four rest on the invariant `Inv` of every state a schedule reaches (`Inv_run`), whose
fields tie the tokens to the running calls and say which slots are empty and what the others
hold.
-/

namespace VaultSecretSync

namespace Parallel

/-- The size of the semaphore: `maxParallel`, or 1 when it is not positive. -/
def capacity (maxParallel : Int) : Nat := if maxParallel ≤ 0 then 1 else maxParallel.toNat

theorem one_le_capacity (maxParallel : Int) : 1 ≤ capacity maxParallel := by
  unfold capacity
  split_ifs <;> omega

/-- A call of `executeParallel`: the targets, `maxParallel`, the step and the text of
`ctx.Err()` once the context is done. -/
structure Call where
  targets : List String
  maxParallel : Int
  fn : String → Result
  ctxErr : String

/-- The zero `Result`, the value of a slot of `make([]Result, n)`. -/
def zeroResult : Result := { target := "", phase := "", success := false, error := none }

/-- The result the main loop stores for a target once the context is done. -/
def cancelledResult (ctxErr target : String) : Result :=
  { target := target, phase := "", success := false, error := some ctxErr }

/-- The scheduler's state: the main loop's index, the indices of the goroutines whose call of
`fn` has not returned, those that gave their token back and have not called `wg.Done()`, the
tokens in `sem`'s buffer, the slots of `results` (`none` until written) and whether
`ctx.Done()` is closed. -/
structure State where
  next : Nat
  running : List Nat
  exiting : List Nat
  tokens : Nat
  results : List (Option Result)
  done : Bool
  deriving DecidableEq, Repr

/-- The slice `executeParallel` returns. -/
def State.output (s : State) : List Result := s.results.map (·.getD zeroResult)

/-- What can happen next. -/
inductive Event
  /-- The context is cancelled. -/
  | cancel
  /-- The main loop's `select` takes `ctx.Done()`. -/
  | skip
  /-- The main loop's `select` sends a token into `sem` and starts a goroutine. -/
  | start
  /-- The goroutine of target `i` writes its slot and runs its deferred `<-sem`. -/
  | finish (i : Nat)
  /-- The goroutine of target `i` runs its deferred `wg.Done()`. -/
  | exit (i : Nat)
  deriving DecidableEq, Repr

namespace Call

variable (c : Call)

/-- The state when `executeParallel` is called, the context done or not. -/
def init (done : Bool) : State := ⟨0, [], [], 0, List.replicate c.targets.length none, done⟩

/-- The target of index `i`, captured by its goroutine. -/
def target (i : Nat) : String := c.targets.getD i ""

/-- One event, `none` when it cannot happen in the state. A send into `sem` waits for room in
its buffer of `capacity maxParallel` tokens. -/
def step (s : State) : Event → Option State
  | .cancel => if s.done then none else some { s with done := true }
  | .skip =>
    if s.done ∧ s.next < c.targets.length then
      some { s with
        next := s.next + 1
        results := s.results.set s.next (some (cancelledResult c.ctxErr (c.target s.next))) }
    else none
  | .start =>
    if s.next < c.targets.length ∧ s.tokens < capacity c.maxParallel then
      some { s with next := s.next + 1, running := s.next :: s.running, tokens := s.tokens + 1 }
    else none
  | .finish i =>
    if i ∈ s.running then
      some { s with
        running := s.running.erase i
        exiting := i :: s.exiting
        tokens := s.tokens - 1
        results := s.results.set i (some (c.fn (c.target i))) }
    else none
  | .exit i => if i ∈ s.exiting then some { s with exiting := s.exiting.erase i } else none

/-- A schedule of events from a state. -/
def run (s : State) : List Event → Option State
  | [] => some s
  | e :: es => (c.step s e).bind fun s' => run s' es

/-- `wg.Wait()` has returned: the loop is over and every goroutine has called `wg.Done()`. -/
def Returned (s : State) : Prop := s.next = c.targets.length ∧ s.running = [] ∧ s.exiting = []

instance (s : State) : Decidable (c.Returned s) := inferInstanceAs (Decidable (_ ∧ _ ∧ _))

/-! ### The events -/

variable {c} {s s' : State}

theorem step_cancel :
    c.step s .cancel = some s' ↔ s.done = false ∧ s' = { s with done := true } := by
  cases h : s.done <;> simp [step, h, eq_comm]

theorem step_skip :
    c.step s .skip = some s' ↔ s.done = true ∧ s.next < c.targets.length ∧
      s' = { s with
        next := s.next + 1
        results := s.results.set s.next (some (cancelledResult c.ctxErr (c.target s.next))) } := by
  simp only [step]
  split_ifs with h
  · simp [h, eq_comm]
  · simpa using fun hd hn _ => h ⟨hd, hn⟩

theorem step_start :
    c.step s .start = some s' ↔ s.next < c.targets.length ∧ s.tokens < capacity c.maxParallel ∧
      s' = { s with next := s.next + 1, running := s.next :: s.running, tokens := s.tokens + 1 } := by
  simp only [step]
  split_ifs with h
  · simp [h, eq_comm]
  · simpa using fun hn hcap _ => h ⟨hn, hcap⟩

theorem step_finish {i : Nat} :
    c.step s (.finish i) = some s' ↔ i ∈ s.running ∧
      s' = { s with
        running := s.running.erase i
        exiting := i :: s.exiting
        tokens := s.tokens - 1
        results := s.results.set i (some (c.fn (c.target i))) } := by
  simp only [step]
  split_ifs with h <;> simp [h, eq_comm]

theorem step_exit {i : Nat} :
    c.step s (.exit i) = some s' ↔ i ∈ s.exiting ∧ s' = { s with exiting := s.exiting.erase i } := by
  simp only [step]
  split_ifs with h <;> simp [h, eq_comm]

theorem run_cons (e : Event) (es : List Event) :
    c.run s (e :: es) = (c.step s e).bind fun s' => c.run s' es := rfl

/-! ### The invariant -/

variable (c) in
/-- What holds in every state a schedule reaches from a call. -/
structure Inv (s : State) : Prop where
  length_results : s.results.length = c.targets.length
  next_le : s.next ≤ c.targets.length
  nodup_running : s.running.Nodup
  lt_of_running : ∀ i ∈ s.running, i < s.next
  /-- `sem` holds one token per call of `fn` that has not returned. -/
  tokens_eq : s.tokens = s.running.length
  tokens_le : s.tokens ≤ capacity c.maxParallel
  /-- A slot the loop has not reached, or whose goroutine still runs `fn`, is empty. -/
  slot_empty : ∀ i < c.targets.length, s.next ≤ i ∨ i ∈ s.running → s.results[i]? = some none
  /-- Any other slot holds `fn(targets[i])`, or the context's error once the context is done. -/
  slot_written : ∀ i < s.next, i ∉ s.running → ∃ r, s.results[i]? = some (some r) ∧
    (r = c.fn (c.target i) ∨ s.done = true ∧ r = cancelledResult c.ctxErr (c.target i))

theorem Inv_init (c : Call) (d : Bool) : c.Inv (c.init d) where
  length_results := List.length_replicate _ _
  next_le := Nat.zero_le _
  nodup_running := List.nodup_nil
  lt_of_running _ h := absurd h (List.not_mem_nil _)
  tokens_eq := rfl
  tokens_le := Nat.zero_le _
  slot_empty i hi _ := by simp [init, hi]
  slot_written _ h := absurd h (Nat.not_lt_zero _)

theorem Inv.cancel (hi : c.Inv s) : c.Inv { s with done := true } :=
  { hi with
    slot_written := fun i hlt hnr => (hi.slot_written i hlt hnr).imp fun _ ⟨hr, hfn⟩ =>
      ⟨hr, hfn.imp_right fun h => ⟨rfl, h.2⟩⟩ }

theorem Inv.skip (hi : c.Inv s) (hd : s.done = true) (hn : s.next < c.targets.length) :
    c.Inv { s with
      next := s.next + 1
      results := s.results.set s.next (some (cancelledResult c.ctxErr (c.target s.next))) } where
  length_results := by simp [hi.length_results]
  next_le := hn
  nodup_running := hi.nodup_running
  lt_of_running i h := Nat.lt_succ_of_lt (hi.lt_of_running i h)
  tokens_eq := hi.tokens_eq
  tokens_le := hi.tokens_le
  slot_empty i hlt hcase := by
    dsimp only at hcase ⊢
    have hne : s.next ≠ i := by
      rcases hcase with h | h
      · omega
      · exact (hi.lt_of_running i h).ne'
    rw [List.getElem?_set_ne hne]
    exact hi.slot_empty i hlt (hcase.imp_left fun h => by omega)
  slot_written i hlt hnr := by
    dsimp only at hlt hnr ⊢
    by_cases hi' : i = s.next
    · subst hi'
      refine ⟨_, ?_, .inr ⟨hd, rfl⟩⟩
      rw [List.getElem?_set_self (by rw [hi.length_results]; exact hn)]
    · rw [List.getElem?_set_ne (Ne.symm hi')]
      exact hi.slot_written i (by omega) hnr

theorem Inv.start (hi : c.Inv s) (hn : s.next < c.targets.length)
    (hcap : s.tokens < capacity c.maxParallel) :
    c.Inv { s with next := s.next + 1, running := s.next :: s.running, tokens := s.tokens + 1 } where
  length_results := hi.length_results
  next_le := hn
  nodup_running := List.nodup_cons.2 ⟨fun h => Nat.lt_irrefl _ (hi.lt_of_running _ h),
    hi.nodup_running⟩
  lt_of_running i h := by
    rcases List.mem_cons.1 h with rfl | h
    · exact Nat.lt_succ_self _
    · exact Nat.lt_succ_of_lt (hi.lt_of_running i h)
  tokens_eq := by rw [List.length_cons, hi.tokens_eq]
  tokens_le := hcap
  slot_empty i hlt hcase := by
    dsimp only at hcase
    refine hi.slot_empty i hlt ?_
    rcases hcase with h | h
    · exact .inl (by omega)
    · rcases List.mem_cons.1 h with rfl | h
      exacts [.inl le_rfl, .inr h]
  slot_written i hlt hnr := by
    dsimp only at hlt hnr
    rw [List.mem_cons, not_or] at hnr
    exact hi.slot_written i (by omega) hnr.2

theorem Inv.finish (hi : c.Inv s) {i : Nat} (hmem : i ∈ s.running) :
    c.Inv { s with
      running := s.running.erase i
      exiting := i :: s.exiting
      tokens := s.tokens - 1
      results := s.results.set i (some (c.fn (c.target i))) } where
  length_results := by simp [hi.length_results]
  next_le := hi.next_le
  nodup_running := hi.nodup_running.erase i
  lt_of_running j h := hi.lt_of_running j (List.mem_of_mem_erase h)
  tokens_eq := by rw [List.length_erase_of_mem hmem, hi.tokens_eq]
  tokens_le := (Nat.sub_le _ _).trans hi.tokens_le
  slot_empty j hlt hcase := by
    have hne : i ≠ j := by
      rcases hcase with h | h
      · exact (Nat.lt_of_lt_of_le (hi.lt_of_running i hmem) h).ne
      · exact ((hi.nodup_running.mem_erase_iff.1 h).1).symm
    rw [List.getElem?_set_ne hne]
    exact hi.slot_empty j hlt (hcase.imp_right List.mem_of_mem_erase)
  slot_written j hlt hnr := by
    by_cases hj : j = i
    · subst hj
      refine ⟨_, ?_, .inl rfl⟩
      rw [List.getElem?_set_self (by rw [hi.length_results]; exact Nat.lt_of_lt_of_le hlt hi.next_le)]
    · rw [List.getElem?_set_ne (Ne.symm hj)]
      exact hi.slot_written j hlt fun h => hnr (List.mem_erase_of_ne hj |>.2 h)

theorem Inv.exit (hi : c.Inv s) {i : Nat} : c.Inv { s with exiting := s.exiting.erase i } :=
  { hi with }

/-- **One step keeps the invariant.** -/
theorem Inv.step (hi : c.Inv s) {e : Event} (h : c.step s e = some s') : c.Inv s' := by
  cases e with
  | cancel => obtain ⟨-, rfl⟩ := step_cancel.1 h; exact hi.cancel
  | skip => obtain ⟨hd, hn, rfl⟩ := step_skip.1 h; exact hi.skip hd hn
  | start => obtain ⟨hn, hcap, rfl⟩ := step_start.1 h; exact hi.start hn hcap
  | finish i => obtain ⟨hm, rfl⟩ := step_finish.1 h; exact hi.finish hm
  | exit i => obtain ⟨-, rfl⟩ := step_exit.1 h; exact hi.exit

/-- **Every schedule keeps the invariant.** -/
theorem Inv_run (hi : c.Inv s) (es : List Event) (h : c.run s es = some s') : c.Inv s' := by
  induction es generalizing s with
  | nil => cases h; exact hi
  | cons e es ih =>
    obtain ⟨s₁, h₁, h₂⟩ := Option.bind_eq_some.1 h
    exact ih (hi.step h₁) h₂

/-! ### The semaphore and the slots -/

/-- **Semaphore.** In every state a schedule reaches, `sem` holds one token for each goroutine
whose call of `fn` has not returned, and it has room for `capacity maxParallel`: at most that
many calls of `fn` run at once. -/
theorem running_le_capacity {d : Bool} {es : List Event} (h : c.run (c.init d) es = some s) :
    s.tokens = s.running.length ∧ s.running.length ≤ capacity c.maxParallel :=
  have hi := Inv_run (Inv_init c d) es h
  ⟨hi.tokens_eq, hi.tokens_eq ▸ hi.tokens_le⟩

/-- Two goroutines of three targets run under `maxParallel = 2`. -/
def demoCall : Call where
  targets := ["a", "b", "c"]
  maxParallel := 2
  fn t := { target := t, phase := "sync", success := true, error := none }
  ctxErr := "context canceled"

theorem running_le_capacity_demo :
    demoCall.run (demoCall.init false) [.start, .start] =
        some ⟨2, [1, 0], [], 2, [none, none, none], false⟩ ∧
      2 = [1, 0].length ∧ [1, 0].length ≤ capacity demoCall.maxParallel :=
  have h : demoCall.run (demoCall.init false) [.start, .start] =
      some ⟨2, [1, 0], [], 2, [none, none, none], false⟩ := rfl
  ⟨h, running_le_capacity h⟩

/-- With `maxParallel = 1`, a goroutine that gave its token back but has not called
`wg.Done()` lives on beside the next one: two goroutines, one running call. -/
example :
    ({ demoCall with maxParallel := 1 } : Call).run (demoCall.init false)
        [.start, .finish 0, .start] =
      some ⟨2, [1], [0], 1, [some (demoCall.fn "a"), none, none], false⟩ := rfl

/-- A step writes only empty slots. -/
theorem step_keeps_written (hi : c.Inv s) {e : Event} (h : c.step s e = some s') {i : Nat}
    {r : Result} (hr : s.results[i]? = some (some r)) : s'.results[i]? = some (some r) := by
  have hne : ∀ j < c.targets.length, (s.next ≤ j ∨ j ∈ s.running) → j ≠ i := by
    rintro j hj hcase rfl
    rw [hi.slot_empty j hj hcase] at hr
    cases hr
  cases e with
  | cancel => obtain ⟨-, rfl⟩ := step_cancel.1 h; exact hr
  | skip =>
    obtain ⟨-, hn, rfl⟩ := step_skip.1 h
    rw [List.getElem?_set_ne (hne _ hn (.inl le_rfl))]
    exact hr
  | start => obtain ⟨-, -, rfl⟩ := step_start.1 h; exact hr
  | finish j =>
    obtain ⟨hm, rfl⟩ := step_finish.1 h
    rw [List.getElem?_set_ne (hne j (Nat.lt_of_lt_of_le (hi.lt_of_running j hm) hi.next_le)
      (.inr hm))]
    exact hr
  | exit j => obtain ⟨-, rfl⟩ := step_exit.1 h; exact hr

/-- **Write once.** Along every schedule, a written slot keeps its result: no goroutine or
skip overwrites another's write. -/
theorem run_keeps_written (hi : c.Inv s) (es : List Event) (h : c.run s es = some s')
    {i : Nat} {r : Result} (hr : s.results[i]? = some (some r)) :
    s'.results[i]? = some (some r) := by
  induction es generalizing s with
  | nil => cases h; exact hr
  | cons e es ih =>
    obtain ⟨s₁, h₁, h₂⟩ := Option.bind_eq_some.1 h
    exact ih (hi.step h₁) h₂ (step_keeps_written hi h₁ hr)

theorem run_keeps_written_demo :
    demoCall.Inv ⟨2, [1], [0], 1, [some (demoCall.fn "a"), none, none], false⟩ ∧
      demoCall.run ⟨2, [1], [0], 1, [some (demoCall.fn "a"), none, none], false⟩
          [.cancel, .skip, .finish 1, .exit 0, .exit 1] =
        some ⟨3, [], [], 0, [some (demoCall.fn "a"), some (demoCall.fn "b"),
          some (cancelledResult "context canceled" "c")], true⟩ ∧
      [some (demoCall.fn "a"), some (demoCall.fn "b"),
          some (cancelledResult "context canceled" "c")][0]? = some (some (demoCall.fn "a")) :=
  have hi : demoCall.Inv ⟨2, [1], [0], 1, [some (demoCall.fn "a"), none, none], false⟩ :=
    Inv_run (Inv_init demoCall false) [.start, .start, .finish 0] rfl
  have h : demoCall.run ⟨2, [1], [0], 1, [some (demoCall.fn "a"), none, none], false⟩
      [.cancel, .skip, .finish 1, .exit 0, .exit 1] =
        some ⟨3, [], [], 0, [some (demoCall.fn "a"), some (demoCall.fn "b"),
          some (cancelledResult "context canceled" "c")], true⟩ := rfl
  ⟨hi, h, run_keeps_written hi _ h rfl⟩

/-! ### Termination -/

variable (c) in
/-- Three events per target left to the loop, two per running call, one per goroutine still to
call `wg.Done()`, plus one while the context may still be cancelled: every event lowers it. -/
def measure (s : State) : Nat :=
  3 * (c.targets.length - s.next) + 2 * s.running.length + s.exiting.length +
    if s.done then 0 else 1

theorem measure_step {e : Event} (h : c.step s e = some s') :
    c.measure s' < c.measure s := by
  cases e with
  | cancel => obtain ⟨hd, rfl⟩ := step_cancel.1 h; simp [measure, hd]
  | skip => obtain ⟨-, hn, rfl⟩ := step_skip.1 h; simp only [measure]; omega
  | start => obtain ⟨hn, -, rfl⟩ := step_start.1 h; simp only [measure, List.length_cons]; omega
  | finish i =>
    obtain ⟨hm, rfl⟩ := step_finish.1 h
    have := List.length_pos_of_mem hm
    simp only [measure, List.length_erase_of_mem hm, List.length_cons]
    omega
  | exit i =>
    obtain ⟨hm, rfl⟩ := step_exit.1 h
    have := List.length_pos_of_mem hm
    simp only [measure, List.length_erase_of_mem hm]
    omega

theorem length_le_measure (es : List Event) (h : c.run s es = some s') :
    es.length ≤ c.measure s := by
  induction es generalizing s with
  | nil => exact Nat.zero_le _
  | cons e es ih =>
    obtain ⟨s₁, h₁, h₂⟩ := Option.bind_eq_some.1 h
    have := ih h₂
    have := measure_step h₁
    rw [List.length_cons]
    omega

/-- **Progress.** A state that has not returned has an event other than a cancellation: a
goroutine can call `wg.Done()` or finish its call, and with none left the loop can start its
next target, since no token is then held. -/
theorem exists_step (hi : c.Inv s) (hr : ¬c.Returned s) :
    ∃ e s', e ≠ .cancel ∧ c.step s e = some s' := by
  cases hex : s.exiting with
  | cons i _ =>
    exact ⟨.exit i, _, nofun, step_exit.2 ⟨by rw [hex]; exact List.mem_cons_self _ _, rfl⟩⟩
  | nil =>
    cases hrun : s.running with
    | cons i _ =>
      exact ⟨.finish i, _, nofun, step_finish.2 ⟨by rw [hrun]; exact List.mem_cons_self _ _, rfl⟩⟩
    | nil =>
      have hn : s.next < c.targets.length :=
        lt_of_le_of_ne hi.next_le fun h => hr ⟨h, hrun, hex⟩
      have htok : s.tokens < capacity c.maxParallel := by
        rw [hi.tokens_eq, hrun]
        exact one_le_capacity _
      exact ⟨.start, _, nofun, step_start.2 ⟨hn, htok, rfl⟩⟩

/-- **Termination.** Every schedule has at most `3n + 1` events, and a state in which no event
but a cancellation can happen has returned: the loop is over and every goroutine has called
`wg.Done()`, so `executeParallel` never deadlocks, cancelled or not. -/
theorem run_terminates {d : Bool} {es : List Event} (h : c.run (c.init d) es = some s) :
    es.length ≤ 3 * c.targets.length + 1 ∧
      ((∀ e, e ≠ .cancel → c.step s e = none) → c.Returned s) := by
  refine ⟨(length_le_measure es h).trans ?_, fun hstuck => ?_⟩
  · simp only [measure, init, List.length_nil]
    split <;> omega
  · by_contra hr
    obtain ⟨e, s', he, hs⟩ := exists_step (Inv_run (Inv_init c d) es h) hr
    rw [hstuck e he] at hs
    cases hs

theorem run_terminates_demo :
    demoCall.run (demoCall.init false)
        [.start, .start, .finish 1, .exit 1, .start, .finish 0, .finish 2, .exit 2, .exit 0] =
        some ⟨3, [], [], 0, [some (demoCall.fn "a"), some (demoCall.fn "b"),
          some (demoCall.fn "c")], false⟩ ∧
      [Event.start, .start, .finish 1, .exit 1, .start, .finish 0, .finish 2, .exit 2,
          .exit 0].length ≤ 3 * demoCall.targets.length + 1 ∧
      ((∀ e, e ≠ .cancel → demoCall.step ⟨3, [], [], 0, [some (demoCall.fn "a"),
          some (demoCall.fn "b"), some (demoCall.fn "c")], false⟩ e = none) →
        demoCall.Returned ⟨3, [], [], 0, [some (demoCall.fn "a"), some (demoCall.fn "b"),
          some (demoCall.fn "c")], false⟩) :=
  have h : demoCall.run (demoCall.init false)
      [.start, .start, .finish 1, .exit 1, .start, .finish 0, .finish 2, .exit 2, .exit 0] =
        some ⟨3, [], [], 0, [some (demoCall.fn "a"), some (demoCall.fn "b"),
          some (demoCall.fn "c")], false⟩ := rfl
  ⟨h, run_terminates h⟩

/-- From every state of the invariant some schedule without a cancellation returns. -/
theorem exists_returned {s : State} (hi : c.Inv s) :
    ∃ es s', .cancel ∉ es ∧ c.run s es = some s' ∧ c.Returned s' := by
  by_cases hr : c.Returned s
  · exact ⟨[], s, List.not_mem_nil _, rfl, hr⟩
  · obtain ⟨e, s₁, he, h₁⟩ := exists_step hi hr
    have := measure_step h₁
    obtain ⟨es, s', hes, h', hr'⟩ := exists_returned (hi.step h₁)
    exact ⟨e :: es, s', List.not_mem_cons_of_ne_of_not_mem he.symm hes,
      by rw [run_cons, h₁, Option.some_bind, h'], hr'⟩
termination_by c.measure s

/-! ### The result -/

theorem target_eq {i : Nat} (h : i < c.targets.length) : c.target i = c.targets[i] := by
  simp [target, List.getElem?_eq_getElem h]

/-- On return every slot is written. -/
theorem getElem?_output (hi : c.Inv s) (hr : c.Returned s) {i : Nat}
    (h : i < c.targets.length) : ∃ r, s.output[i]? = some r ∧
      (r = c.fn (c.target i) ∨ s.done = true ∧ r = cancelledResult c.ctxErr (c.target i)) := by
  obtain ⟨r, hr', hfn⟩ := hi.slot_written i (hr.1 ▸ h) (hr.2.1 ▸ List.not_mem_nil i)
  exact ⟨r, by simp [State.output, hr'], hfn⟩
/-- **The result.** When `wg.Wait()` returns, the slice has one slot per target, slot `i`
holds `fn(targets[i])` or, if the context was cancelled, possibly its error; when the context
was never cancelled it is `executeParallel targets fn`, whatever the interleaving. -/
theorem output_of_returned {d : Bool} {es : List Event} (h : c.run (c.init d) es = some s)
    (hr : c.Returned s) :
    s.output.length = c.targets.length ∧
      (∀ i < c.targets.length, s.output[i]? = some (c.fn (c.target i)) ∨
        s.done = true ∧ s.output[i]? = some (cancelledResult c.ctxErr (c.target i))) ∧
      (s.done = false → s.output = executeParallel c.targets c.fn) := by
  have hi := Inv_run (Inv_init c d) es h
  have hlen : s.output.length = c.targets.length := by
    rw [State.output, List.length_map, hi.length_results]
  refine ⟨hlen, fun i hlt => ?_, fun hd => List.ext_getElem? fun i => ?_⟩
  · obtain ⟨r, hr', rfl | ⟨hd, rfl⟩⟩ := getElem?_output hi hr hlt
    exacts [.inl hr', .inr ⟨hd, hr'⟩]
  · rw [executeParallel, List.getElem?_map]
    by_cases hlt : i < c.targets.length
    · obtain ⟨r, hr', rfl | ⟨hd', -⟩⟩ := getElem?_output hi hr hlt
      · rw [hr', List.getElem?_eq_getElem hlt, target_eq hlt]
        rfl
      · exact absurd (hd ▸ hd') Bool.false_ne_true
    · have hnone : s.output[i]? = none := List.getElem?_eq_none (by omega)
      have hnone' : c.targets[i]? = none := List.getElem?_eq_none (by omega)
      rw [hnone, hnone']
      rfl

theorem output_of_returned_interleaved :
    demoCall.run (demoCall.init false)
        [.start, .start, .finish 1, .exit 1, .start, .finish 0, .finish 2, .exit 2, .exit 0] =
        some ⟨3, [], [], 0, [some (demoCall.fn "a"), some (demoCall.fn "b"),
          some (demoCall.fn "c")], false⟩ ∧
      demoCall.Returned ⟨3, [], [], 0, [some (demoCall.fn "a"), some (demoCall.fn "b"),
        some (demoCall.fn "c")], false⟩ ∧
      (State.output ⟨3, [], [], 0, [some (demoCall.fn "a"), some (demoCall.fn "b"),
          some (demoCall.fn "c")], false⟩).length = demoCall.targets.length ∧
      (∀ i < demoCall.targets.length, (State.output ⟨3, [], [], 0, [some (demoCall.fn "a"),
          some (demoCall.fn "b"), some (demoCall.fn "c")], false⟩)[i]? =
            some (demoCall.fn (demoCall.target i)) ∨
        false = true ∧ (State.output ⟨3, [], [], 0, [some (demoCall.fn "a"),
          some (demoCall.fn "b"), some (demoCall.fn "c")], false⟩)[i]? =
            some (cancelledResult demoCall.ctxErr (demoCall.target i))) ∧
      (false = false → State.output ⟨3, [], [], 0, [some (demoCall.fn "a"),
          some (demoCall.fn "b"), some (demoCall.fn "c")], false⟩ =
            executeParallel demoCall.targets demoCall.fn) :=
  have h : demoCall.run (demoCall.init false)
      [.start, .start, .finish 1, .exit 1, .start, .finish 0, .finish 2, .exit 2, .exit 0] =
        some ⟨3, [], [], 0, [some (demoCall.fn "a"), some (demoCall.fn "b"),
          some (demoCall.fn "c")], false⟩ := rfl
  have hr : demoCall.Returned ⟨3, [], [], 0, [some (demoCall.fn "a"), some (demoCall.fn "b"),
      some (demoCall.fn "c")], false⟩ := ⟨rfl, rfl, rfl⟩
  ⟨h, hr, output_of_returned h hr⟩

/-- A cancelled context: the goroutine already started still writes its slot, and the loop
stores the context's error for the two targets it skips. -/
example :
    (demoCall.run (demoCall.init false) [.start, .cancel, .skip, .skip, .finish 0, .exit 0]).map
        State.output =
      some [demoCall.fn "a", cancelledResult "context canceled" "b",
        cancelledResult "context canceled" "c"] := rfl

end Call

end Parallel

end VaultSecretSync
