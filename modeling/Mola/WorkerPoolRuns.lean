import Mola.WorkerPool

/-!
# Runs of the worker pool

The invariant ties the two counters to the places where the threads stand. The count of
sleepers is the number of threads between its increment and its decrement, so it does
not wrap, and the thread that enters the untimed wait has just seen that another worker
is not counted. The count of jobs is the number of tasks in the pool, corrected by the
threads that have still to announce a task or to take one off, modulo 2^32.
-/

namespace Mola.WorkerPool

open Rings Tallies

universe u v
variable {Item : Type u} {Id : Type v} [Fintype Id]

/-- A thread that has counted itself as a sleeper. -/
def sleeping : Control → Nat
  | .enterWait | .waiting | .lastCheck | .enterTimedWait | .timedWaiting | .relock
  | .sleepDiscount => 1
  | _ => 0

/-- A call of `global_enqueue` that has not counted its task in the global queue. -/
def uncounted : Control → Nat
  | .counting => 1
  | _ => 0

/-- A call whose task has entered the queues and is not announced. -/
def announcing : Control → Nat
  | .counting | .announce => 1
  | _ => 0

/-- A call of `dequeue` with a task that has still to be taken off the jobs. -/
def leaving : Control → Nat
  | .exit => 1
  | _ => 0

/-- A control that is reached in `dequeue` only. -/
def ofWorker : Control → Bool
  | .outside | .enqueueing | .counting | .announce | .wakeupSleep | .wakeupJobs _ | .wakeupLock
  | .wakeupNotify => false
  | _ => true

/-- The operation of the queues that a thread is in. -/
def phaseOf : Control → WorkSteal.Phase
  | .outside | .counting | .announce | .wakeupSleep | .wakeupJobs _ | .wakeupLock
  | .wakeupNotify | .exit => .idle
  | .enqueueing => .enqueue
  | .dequeueing => .dequeue
  | .globalAttempt => .global
  | .stealing _ => .steal
  | .check | .attempt _ | .busySleep | .busyJobs _ | .sleepLock | .sleepCount | .enterWait
  | .waiting | .lastCheck | .enterTimedWait | .timedWaiting | .relock | .sleepDiscount
  | .sleepUnlock => .search

/-- What every run keeps. -/
structure Invariant (capacity : Nat) (role : Id → Role) (state : State Item Id) : Prop where
  queues : WorkSteal.Invariant capacity state.queues
  phases : ∀ id, WorkSteal.phase (state.queues.threads id) = phaseOf (state.controls id)
  workers : ∀ id, ofWorker (state.controls id) = true → role id = .worker
  counted : state.queues.uncounted = tally uncounted state.controls
  global : WorkSteal.GlobalCounted state.queues
  sleepers : state.sleepNum = tally sleeping state.controls
  untimed : tally untimed state.controls < workersNum role
  small : state.totalJobs < 2 ^ 32
  jobs : state.totalJobs + tally announcing state.controls +
      tally WorkSteal.entering state.queues.threads + state.queues.returned.length ≡
    state.queues.enqueued.length + tally leaving state.controls [MOD 2 ^ 32]
  bounded : state.queues.enqueued.length < state.queues.returned.length + 2 ^ 32

theorem sleeping_le (control : Control) : untimed control ≤ sleeping control := by
  cases control <;> simp [untimed, sleeping]

/-- The sleepers are workers. -/
theorem sleepers_le {role : Id → Role} {controls : Id → Control}
    (workers : ∀ id, ofWorker (controls id) = true → role id = .worker) :
    tally sleeping controls ≤ workersNum role := by
  apply Finset.sum_le_sum
  intro id _
  have sleeper : sleeping (controls id) ≤ (ofWorker (controls id)).toNat := by
    cases controls id <;> simp [sleeping, ofWorker]
  cases awake : ofWorker (controls id) with
  | false => rw [awake] at sleeper; exact Nat.le_trans sleeper (Nat.zero_le _)
  | true => rw [awake] at sleeper; rw [workers id awake]; exact sleeper

/-- What a thread contributes to the sums that the counters are compared with. -/
def weights (control : Control) : Nat × Nat × Nat × Nat :=
  (uncounted control, sleeping control, announcing control, leaving control)

/-- Where a step of `enqueue` leaves its thread, and what the thread owes there. -/
theorem settle_enqueue (role : Id → Role) {control : Control} {position : WorkSteal.Phase}
    (operation : phaseOf control = .enqueue) (reached : position = .enqueue ∨ position = .idle) :
    phaseOf (settle role control position) = position ∧
      ofWorker (settle role control position) = false ∧
      weights control = (0, 0, 0, 0) ∧
      weights (settle role control position) = (0, 0, WorkSteal.finished position, 0) ∧
      untimed (settle role control position) = 0 := by
  cases control with
  | enqueueing => rcases reached with rfl | rfl <;> exact ⟨rfl, rfl, rfl, rfl, rfl⟩
  | _ => cases operation

/-- The same for a step of `dequeue`. -/
theorem settle_dequeue (role : Id → Role) {control : Control} {position : WorkSteal.Phase}
    (operation : phaseOf control = .dequeue ∨ phaseOf control = .global ∨
      phaseOf control = .steal)
    (reached : position = phaseOf control ∨ position = .idle ∨ position = .search) :
    phaseOf (settle role control position) = position ∧ ofWorker control = true ∧
      weights control = (0, 0, 0, 0) ∧
      weights (settle role control position) = (0, 0, 0, WorkSteal.finished position) ∧
      untimed (settle role control position) = 0 := by
  cases control with
  | dequeueing | stealing => rcases reached with rfl | rfl | rfl <;> exact ⟨rfl, rfl, rfl, rfl, rfl⟩
  | globalAttempt =>
    rcases reached with rfl | rfl | rfl
    · exact ⟨rfl, rfl, rfl, rfl, rfl⟩
    · exact ⟨rfl, rfl, rfl, rfl, rfl⟩
    · unfold settle
      dsimp only
      split <;> exact ⟨rfl, rfl, rfl, rfl, rfl⟩
  | _ => rcases operation with operation | operation | operation <;> cases operation

variable {state : State Item Id} {id : Id} {queues : WorkSteal.State Item Id}

/-- Between calls, no thread holds a task of its own, so what entered and was not
returned is in the queues. -/
theorem held_exact {capacity : Nat} (balanced : WorkSteal.Balanced capacity queues)
    (idle : ∀ id, queues.threads id = .idle) :
    queues.enqueued.length = queues.returned.length + held capacity queues := by
  have sizes := congrArg Multiset.card balanced
  have nothing : tally (fun position => (WorkSteal.detached position : Multiset Item))
      queues.threads = 0 := by
    apply Finset.sum_eq_zero
    intro id _
    rw [idle id]
    rfl
  have ringSizes : Multiset.card (tally (fun ring => (items capacity ring : Multiset Item))
      queues.rings) = tally (fun ring => (items capacity ring).length) queues.rings :=
    map_sum Multiset.cardHom _ _
  rw [nothing, add_zero, Multiset.card_add, Multiset.card_add, ringSizes, Multiset.coe_card,
    Multiset.coe_card, Multiset.coe_card] at sizes
  unfold held
  omega

/-- An idle pool with at least one worker is in the invariant. -/
theorem start_invariant (capacity : Nat) (role : Id → Role) (content : Id → Nat → Item)
    (staffed : 1 ≤ workersNum role) : Invariant capacity role (start content) where
  queues := WorkSteal.start_invariant capacity content
  phases := fun _ => rfl
  workers := nofun
  counted := by simp [start, WorkSteal.start, tally, uncounted]
  global := ⟨Nat.two_pow_pos 64, rfl⟩
  sleepers := by simp [start, tally, sleeping]
  untimed := by
    have nobody : tally untimed (start content : State Item Id).controls = 0 := by
      simp [start, tally, untimed]
    omega
  small := Nat.two_pow_pos 32
  jobs := by simp [start, WorkSteal.start, tally, announcing, leaving, WorkSteal.entering]; rfl
  bounded := by simp [start, WorkSteal.start]

/-- A state of the invariant is awake. -/
theorem invariant_awake {capacity : Nat} {role : Id → Role}
    (invariant : Invariant capacity role state) : Awake capacity role state := by
  constructor
  · rw [invariant.sleepers]
    exact sleepers_le invariant.workers
  · exact invariant.untimed
  · intro quiet
    have idle : ∀ id, state.queues.threads id = .idle := by
      intro id
      apply WorkSteal.phase_idle
      rw [invariant.phases id, quiet id]
      rfl
    have total := held_exact invariant.queues.balanced idle
    have noAnnouncing : tally announcing state.controls = 0 :=
      Finset.sum_eq_zero fun id _ => by rw [quiet id]; rfl
    have noLeaving : tally leaving state.controls = 0 :=
      Finset.sum_eq_zero fun id _ => by rw [quiet id]; rfl
    have noUncounted : tally uncounted state.controls = 0 :=
      Finset.sum_eq_zero fun id _ => by rw [quiet id]; rfl
    have noEntering : tally WorkSteal.entering state.queues.threads = 0 :=
      Finset.sum_eq_zero fun id _ => by rw [idle id]; rfl
    have jobs := invariant.jobs
    have small := invariant.small
    have bounded := invariant.bounded
    have global := invariant.global.counted
    have globalSmall := invariant.global.small
    have counted := invariant.counted
    have within : state.queues.global.length ≤ held capacity state.queues := Nat.le_add_left _ _
    unfold Nat.ModEq at jobs global
    constructor
    · omega
    · omega

variable [DecidableEq Id]

/-- A step of one thread keeps the invariant when its own contribution to every sum has
changed as the counters have. -/
theorem invariant_update {capacity : Nat} {role : Id → Role} {next : State Item Id}
    {control : Control} {position : WorkSteal.Position Item Id}
    (invariant : Invariant capacity role state)
    (controls : next.controls = Function.update state.controls id control)
    (threads : next.queues.threads = Function.update state.queues.threads id position)
    (queues : WorkSteal.Invariant capacity next.queues)
    (phase : WorkSteal.phase position = phaseOf control)
    (worker : ofWorker control = true → role id = .worker)
    (counted : next.queues.uncounted + uncounted (state.controls id) =
      state.queues.uncounted + uncounted control)
    (global : WorkSteal.GlobalCounted next.queues)
    (sleepers : next.sleepNum + sleeping (state.controls id) = state.sleepNum + sleeping control)
    (waits : untimed control ≤ untimed (state.controls id) ∨ next.sleepNum < workersNum role)
    (small : next.totalJobs < 2 ^ 32)
    (jobs : next.totalJobs + announcing control + WorkSteal.entering position +
        next.queues.returned.length +
          (state.queues.enqueued.length + leaving (state.controls id)) ≡
      state.totalJobs + announcing (state.controls id) +
          WorkSteal.entering (state.queues.threads id) + state.queues.returned.length +
        (next.queues.enqueued.length + leaving control) [MOD 2 ^ 32])
    (bounded : next.queues.enqueued.length < next.queues.returned.length + 2 ^ 32) :
    Invariant capacity role next := by
  have uncountedTally := tally_update uncounted state.controls id control
  have sleepingTally := tally_update sleeping state.controls id control
  have untimedTally := tally_update untimed state.controls id control
  have announcingTally := tally_update announcing state.controls id control
  have leavingTally := tally_update leaving state.controls id control
  have enteringTally := tally_update WorkSteal.entering state.queues.threads id position
  rw [← controls] at uncountedTally sleepingTally untimedTally announcingTally leavingTally
  rw [← threads] at enteringTally
  have asleep : next.sleepNum = tally sleeping next.controls := by
    have before := invariant.sleepers
    omega
  constructor
  · exact queues
  · intro other
    rw [controls, threads]
    by_cases same : other = id
    · subst same
      rw [Function.update_self, Function.update_self]
      exact phase
    · rw [Function.update_of_ne same, Function.update_of_ne same]
      exact invariant.phases other
  · intro other
    rw [controls]
    by_cases same : other = id
    · subst same
      rw [Function.update_self]
      exact worker
    · rw [Function.update_of_ne same]
      exact invariant.workers other
  · have before := invariant.counted
    omega
  · exact global
  · exact asleep
  · rcases waits with fewer | below
    · have before := invariant.untimed
      omega
    · have within : tally untimed next.controls ≤ tally sleeping next.controls :=
        Finset.sum_le_sum fun other _ => sleeping_le (next.controls other)
      omega
  · exact small
  · have before := invariant.jobs
    unfold Nat.ModEq at before jobs ⊢
    omega
  · exact bounded

/-- A thread that leaves the queues alone: what its counters gain is what it owes less. -/
theorem invariant_counters {capacity : Nat} {role : Id → Role} {next : State Item Id}
    {old control : Control} (invariant : Invariant capacity role state)
    (stands : state.controls id = old)
    (controls : next.controls = Function.update state.controls id control)
    (queues : next.queues = state.queues) (phase : phaseOf control = phaseOf old)
    (worker : ofWorker control = true → ofWorker old = true)
    (counted : uncounted control = uncounted old)
    (sleepers : next.sleepNum + sleeping old = state.sleepNum + sleeping control)
    (waits : untimed control ≤ untimed old ∨ next.sleepNum < workersNum role)
    (small : next.totalJobs < 2 ^ 32)
    (jobs : next.totalJobs + announcing control + leaving old ≡
      state.totalJobs + announcing old + leaving control [MOD 2 ^ 32]) :
    Invariant capacity role next := by
  subst stands
  have threads : next.queues.threads =
      Function.update state.queues.threads id (state.queues.threads id) := by
    rw [queues, Function.update_eq_self]
  refine invariant_update invariant controls threads (queues ▸ invariant.queues)
    ((invariant.phases id).trans phase.symm) (fun inside => invariant.workers id (worker inside))
    ?_ (queues ▸ invariant.global) sleepers waits small ?_ (queues ▸ invariant.bounded)
  · rw [queues, counted]
  · have shifted := jobs.add_right (WorkSteal.entering (state.queues.threads id) +
      state.queues.returned.length + state.queues.enqueued.length)
    rw [queues]
    unfold Nat.ModEq at shifted ⊢
    omega

/-- A thread that moves without changing a counter or its contributions. -/
theorem invariant_move {capacity : Nat} {role : Id → Role} {old control : Control}
    (mutex : Option Id) (invariant : Invariant capacity role state)
    (stands : state.controls id = old) (phase : phaseOf control = phaseOf old)
    (worker : ofWorker control = true → ofWorker old = true)
    (same : weights control = weights old) (waits : untimed control ≤ untimed old) :
    Invariant capacity role { move state id control with mutex := mutex } := by
  simp only [weights, Prod.mk.injEq] at same
  obtain ⟨sameUncounted, sameSleeping, sameAnnouncing, sameLeaving⟩ := same
  refine invariant_counters invariant stands rfl rfl phase worker sameUncounted ?_ (Or.inl waits)
    invariant.small ?_
  · rw [sameSleeping]
    rfl
  · rw [sameAnnouncing, sameLeaving]
    rfl

/-- Taking the mutex is such a move. -/
theorem lock_invariant {capacity : Nat} {role : Id → Role} {next : State Item Id}
    {old control : Control} (invariant : Invariant capacity role state)
    (stands : state.controls id = old) (taken : lock state id control = some next)
    (phase : phaseOf control = phaseOf old)
    (worker : ofWorker control = true → ofWorker old = true)
    (same : weights control = weights old) (waits : untimed control ≤ untimed old) :
    Invariant capacity role next := by
  unfold lock at taken
  split at taken <;> cases taken
  exact invariant_move _ invariant stands phase worker same waits

/-- A worker that counts itself as a sleeper. There are at least as many workers as
sleepers after that, so the count does not wrap. -/
theorem sleepCount_invariant {capacity : Nat} {role : Id → Role}
    (workersWord : workersNum role < 2 ^ 32) (invariant : Invariant capacity role state)
    (stands : state.controls id = .sleepCount) :
    Invariant capacity role
      { move state id (if word (state.sleepNum + 1) < workersNum role then .enterWait
          else .lastCheck) with
        sleepNum := word (state.sleepNum + 1) } := by
  have within : tally sleeping (Function.update state.controls id .lastCheck) ≤
      workersNum role := by
    apply sleepers_le
    intro other
    by_cases same : other = id
    · subst same
      exact fun _ => invariant.workers other (by rw [stands]; rfl)
    · rw [Function.update_of_ne same]
      exact invariant.workers other
  have grown := tally_update sleeping state.controls id .lastCheck
  rw [stands] at grown
  have exact_ : word (state.sleepNum + 1) = state.sleepNum + 1 := by
    have asleep := invariant.sleepers
    simp only [sleeping] at grown
    unfold word
    omega
  by_cases below : word (state.sleepNum + 1) < workersNum role
  · rw [if_pos below]
    exact invariant_counters invariant stands rfl rfl rfl (fun same => same) rfl exact_
      (Or.inr below) invariant.small rfl
  · rw [if_neg below]
    exact invariant_counters invariant stands rfl rfl rfl (fun same => same) rfl exact_
      (Or.inl (Nat.zero_le _)) invariant.small rfl

/-- A worker that takes itself off the sleepers. It is one of them, so the count does not
wrap. -/
theorem sleepDiscount_invariant {capacity : Nat} {role : Id → Role}
    (workersWord : workersNum role < 2 ^ 32) (invariant : Invariant capacity role state)
    (stands : state.controls id = .sleepDiscount) :
    Invariant capacity role
      { move state id .sleepUnlock with sleepNum := word (state.sleepNum + 2 ^ 32 - 1) } := by
  have present := weight_le_tally sleeping state.controls id
  rw [stands] at present
  have within := sleepers_le invariant.workers
  have exact_ : word (state.sleepNum + 2 ^ 32 - 1) + 1 = state.sleepNum := by
    have asleep := invariant.sleepers
    simp only [sleeping] at present
    unfold word
    omega
  exact invariant_counters invariant stands rfl rfl rfl (fun same => same) rfl exact_
    (Or.inl (Nat.zero_le _)) invariant.small rfl

/-- A step of the queues keeps the invariant.

Proof: the step moves this thread alone and counts by its operation. A call of `enqueue`
owes an announcement from the moment its task has entered, and a call of `dequeue` that
ends with a task owes to take it off the jobs. -/
theorem queueStep_invariant {capacity : Nat} (divides : capacity ∣ 2 ^ 32)
    (small : capacity < 2 ^ 32) {role : Id → Role} {next : State Item Id}
    (invariant : Invariant capacity role state) (few : few state (.proceed id) = true)
    (taken : queueStep capacity role state id = some next) :
    Invariant capacity role next := by
  obtain ⟨queues, stepped, rfl⟩ := Option.map_eq_some_iff.mp taken
  simp only [WorkerPool.few, Bool.and_eq_true, decide_eq_true_eq] at few
  obtain ⟨room, passed⟩ := few
  have kept : WorkSteal.Invariant capacity queues := WorkSteal.threadStep_invariant capacity divides
    small state.queues queues id invariant.queues passed stepped
  obtain ⟨after, moved, counts⟩ := WorkSteal.threadStep_counts
    stepped
  have here : queues.threads id = after := by rw [moved.threads, Function.update_self]
  have before := invariant.phases id
  cases counts with
  | fault failed =>
    have facts := kept.own id
    rw [here] at facts
    cases after <;> simp [WorkSteal.phase] at failed
    exact facts.elim
  | enqueue operation returned reached =>
    rw [before] at operation
    obtain ⟨phase, helper, old, new, awake⟩ :=
      settle_enqueue role operation reached
    simp only [weights, Prod.mk.injEq] at old new
    refine invariant_update invariant (by rw [← here]; rfl)
      moved.threads kept phase.symm (fun worker => absurd worker (by rw [helper]; decide)) ?_
      (moved.counted invariant.global) ?_ (Or.inl (by rw [awake]; exact Nat.zero_le _))
      invariant.small ?_ ?_
    · rw [moved.uncounted, new.1, old.1]
    · rw [new.2.1, old.2.1]
      rfl
    · apply congrArg (· % 2 ^ 32)
      rw [returned]
      dsimp only [move]
      omega
    · have finishes :
          WorkSteal.finished (WorkSteal.phase after) + WorkSteal.entering after ≤ 1 := by
        cases after <;> simp [WorkSteal.phase, WorkSteal.finished, WorkSteal.entering]
      rw [returned]
      dsimp only [move]
      omega
  | dequeue operation enqueued reached =>
    rw [before] at operation reached
    obtain ⟨phase, worker, old, new, awake⟩ :=
      settle_dequeue role operation reached
    simp only [weights, Prod.mk.injEq] at old new
    have emptyBefore : WorkSteal.entering (state.queues.threads id) = 0 := by
      apply WorkSteal.entering_zero
      rw [before]
      rcases operation with other | other | other <;> rw [other] <;> decide
    have emptyAfter : WorkSteal.entering after = 0 := by
      apply WorkSteal.entering_zero
      rcases reached with same | same | same
      · rw [same, ← before]
        intro enqueues
        rw [before] at enqueues
        rcases operation with other | other | other <;> rw [other] at enqueues <;> cases enqueues
      · rw [same]
        decide
      · rw [same]
        decide
    refine invariant_update invariant (by rw [← here]; rfl)
      moved.threads kept phase.symm (fun _ => invariant.workers id worker) ?_
      (moved.counted invariant.global) ?_ (Or.inl (by rw [awake]; exact Nat.zero_le _))
      invariant.small ?_ ?_
    · rw [moved.uncounted, new.1, old.1]
    · rw [new.2.1, old.2.1]
      rfl
    · apply congrArg (· % 2 ^ 32)
      rw [enqueued]
      dsimp only [move]
      omega
    · rw [enqueued]
      dsimp only [move]
      omega

/-- A call of `global_enqueue` puts its task in the queue and owes two counts. -/
theorem globalEnqueue_invariant {capacity : Nat} {role : Id → Role} {task : Item}
    (invariant : Invariant capacity role state) (stands : state.controls id = .outside)
    (kept : WorkSteal.Invariant capacity queues)
    (room : state.queues.enqueued.length + 1 < state.queues.returned.length + 2 ^ 32)
    (called : WorkSteal.step capacity state.queues (.globalEnqueue task) = some queues) :
    Invariant capacity role { move state id .counting with queues := queues } := by
  cases called
  refine invariant_update invariant
    rfl (Function.update_eq_self id state.queues.threads).symm kept ?_ nofun ?_ ?_ ?_
    (Or.inl (Nat.zero_le _)) invariant.small ?_ ?_
  · rw [invariant.phases id, stands]
    rfl
  · rw [stands]
    rfl
  · refine ⟨invariant.global.small, ?_⟩
    dsimp only
    rw [List.length_append, ← Nat.add_assoc]
    exact invariant.global.counted.add_right 1
  · rw [stands]
    rfl
  · rw [stands]
    dsimp only [announcing, leaving, move]
    rw [List.length_append, List.length_singleton]
    unfold Nat.ModEq
    congr 1
    omega
  · dsimp only
    rw [List.length_append]
    exact room

/-- A call of `global_enqueue` counts its task. -/
theorem count_invariant {capacity : Nat} {role : Id → Role}
    (invariant : Invariant capacity role state) (stands : state.controls id = .counting)
    (kept : WorkSteal.Invariant capacity queues)
    (called : WorkSteal.step capacity state.queues .count = some queues) :
    Invariant capacity role { move state id .announce with queues := queues } := by
  have present := weight_le_tally uncounted state.controls id
  rw [stands, ← invariant.counted] at present
  have owed : state.queues.uncounted ≠ 0 := by
    simp only [uncounted] at present
    omega
  simp only [WorkSteal.step, if_neg owed] at called
  cases called
  refine invariant_update invariant
    rfl (Function.update_eq_self id state.queues.threads).symm kept ?_ nofun ?_ ?_ ?_
    (Or.inl (Nat.zero_le _)) invariant.small ?_ invariant.bounded
  · rw [invariant.phases id, stands]
    rfl
  · rw [stands]
    dsimp only [uncounted]
    omega
  · refine ⟨Nat.mod_lt _ (by decide), ?_⟩
    have before := invariant.global.counted
    unfold Nat.ModEq at before ⊢
    dsimp only
    omega
  · rw [stands]
    rfl
  · rw [stands]
    rfl

/-- A thread that waits is woken. -/
theorem wake_invariant {capacity : Nat} {role : Id → Role} {next : State Item Id}
    (invariant : Invariant capacity role state) (taken : wake state id = some next) :
    Invariant capacity role next := by
  unfold wake at taken
  split at taken <;> cases taken
  rename_i waits
  cases stands : state.controls id with
  | waiting | timedWaiting =>
    exact invariant_move state.mutex invariant stands rfl (fun _ => rfl) rfl (Nat.zero_le _)
  | _ => rw [stands] at waits; cases waits

section
variable (capacity : Nat) (divides : capacity ∣ 2 ^ 32) (small : capacity < 2 ^ 32)
  (role : Id → Role) (workersWord : workersNum role < 2 ^ 32)

include divides small

variable (state : State Item Id)

/-- The call that a searching worker makes to the queues. -/
theorem search_invariant {next : State Item Id} {id : Id} {old control : Control}
    (position : WorkSteal.Position Item Id) {action : WorkSteal.Action Item Id}
    (invariant : Invariant capacity role state) (stands : state.controls id = old)
    (called : callQueues capacity state id control action = some next)
    (passed : WorkSteal.fewPassed state.queues action = true)
    (placed : WorkSteal.step capacity state.queues action =
      some (WorkSteal.place state.queues id position))
    (phase : WorkSteal.phase position = phaseOf control) (empty : WorkSteal.entering position = 0)
    (elsewhere : phaseOf old ≠ .enqueue) (worker : ofWorker control = true → role id = .worker)
    (same : weights control = weights old) (waits : untimed control ≤ untimed old) :
    Invariant capacity role next := by
  obtain ⟨queues, stepped, rfl⟩ := Option.map_eq_some_iff.mp called
  have kept := WorkSteal.step_invariant capacity divides small state.queues action queues
    invariant.queues passed stepped
  cases stepped.symm.trans placed
  simp only [weights, Prod.mk.injEq] at same
  obtain ⟨sameUncounted, sameSleeping, sameAnnouncing, sameLeaving⟩ := same
  subst stands
  have emptyBefore : WorkSteal.entering (state.queues.threads id) = 0 :=
    WorkSteal.entering_zero _ (by rwa [invariant.phases id])
  refine invariant_update invariant rfl rfl kept phase
    worker ?_ (WorkSteal.globalCounted_same state.queues _ rfl rfl rfl invariant.global) ?_
    (Or.inl waits) invariant.small ?_ invariant.bounded
  · rw [sameUncounted]
    rfl
  · rw [sameSleeping]
    rfl
  · rw [sameAnnouncing, sameLeaving, empty, emptyBefore]
    rfl

include workersWord

/-- The next step of a thread keeps the invariant. -/
theorem proceed_invariant (next : State Item Id) (id : Id)
    (invariant : Invariant capacity role state) (few : few state (.proceed id) = true)
    (taken : proceed capacity role state id = some next) : Invariant capacity role next := by
  unfold proceed at taken
  cases stands : state.controls id with simp only [stands] at taken
  | outside | wakeupNotify | waiting | timedWaiting => cases taken
  | enqueueing | dequeueing | globalAttempt | stealing tries =>
    exact queueStep_invariant divides small invariant few taken
  | counting =>
    obtain ⟨queues, stepped, rfl⟩ := Option.map_eq_some_iff.mp taken
    exact count_invariant invariant stands
      (WorkSteal.step_invariant capacity divides small state.queues .count queues
        invariant.queues rfl stepped) stepped
  | announce =>
    cases taken
    exact invariant_counters invariant stands rfl rfl rfl nofun rfl rfl (Or.inl (Nat.zero_le _))
      (Nat.mod_lt _ (by decide)) ((Nat.mod_modEq _ _).add_right _)
  | wakeupSleep | busySleep =>
    cases taken
    exact invariant_move state.mutex invariant stands rfl (fun same => same) rfl (Nat.zero_le _)
  | wakeupJobs | busyJobs | lastCheck =>
    cases taken
    split <;>
      exact invariant_move state.mutex invariant stands rfl (fun same => same) rfl (Nat.zero_le _)
  | wakeupLock | sleepLock | relock =>
    exact lock_invariant invariant stands taken rfl (fun same => same) rfl (Nat.zero_le _)
  | check =>
    have searching : state.queues.threads id = .search :=
      WorkSteal.phase_search _ (by rw [invariant.phases id, stands]; rfl)
    split at taken
    · exact search_invariant capacity divides small role state .globalLoad invariant stands taken
        rfl (by simp only [WorkSteal.step, searching]) rfl rfl (by decide)
        (fun _ => invariant.workers id (by rw [stands]; rfl)) rfl (Nat.zero_le _)
    · cases taken
      exact invariant_move state.mutex invariant stands rfl (fun same => same) rfl (Nat.zero_le _)
  | attempt =>
    split at taken <;> cases taken
    exact invariant_move state.mutex invariant stands rfl (fun same => same) rfl (Nat.zero_le _)
  | sleepCount =>
    cases taken
    exact sleepCount_invariant workersWord invariant stands
  | enterWait | enterTimedWait | sleepUnlock =>
    cases taken
    exact invariant_move none invariant stands rfl (fun same => same) rfl (Nat.le_refl _)
  | sleepDiscount =>
    cases taken
    exact sleepDiscount_invariant workersWord invariant stands
  | exit =>
    cases taken
    refine invariant_counters invariant stands rfl rfl rfl nofun rfl rfl (Or.inl (Nat.zero_le _))
      (Nat.mod_lt _ (by decide)) ?_
    unfold Nat.ModEq
    dsimp only [announcing, leaving, word]
    omega

/-- Every step keeps the invariant. -/
theorem step_invariant (action : Action Item Id) (next : State Item Id)
    (invariant : Invariant capacity role state) (few : few state action = true)
    (taken : step capacity role state action = some next) : Invariant capacity role next := by
  have idle : ∀ id, state.controls id = .outside → state.queues.threads id = .idle := by
    intro id stands
    apply WorkSteal.phase_idle
    rw [invariant.phases id, stands]
    rfl
  cases action with simp only [step] at taken
  | enqueue id task =>
    split at taken
    · rename_i free
      exact search_invariant capacity divides small role state (.enqueueHead task) invariant
        free.1 taken rfl (by simp only [WorkSteal.step, idle id free.1]) rfl rfl (by decide) nofun
        rfl (Nat.zero_le _)
    · cases taken
  | globalEnqueue _ task =>
    split at taken
    · rename_i free
      obtain ⟨queues, stepped, rfl⟩ := Option.map_eq_some_iff.mp taken
      simp only [WorkerPool.few, Bool.and_true, decide_eq_true_eq] at few
      exact globalEnqueue_invariant invariant free
        (WorkSteal.step_invariant capacity divides small state.queues (.globalEnqueue task) queues
          invariant.queues rfl stepped) few stepped
    · cases taken
  | dequeue id =>
    split at taken
    · rename_i free
      exact search_invariant capacity divides small role state .dequeueHead invariant free.1 taken
        rfl (by simp only [WorkSteal.step, idle id free.1]) rfl rfl (by decide) (fun _ => free.2)
        rfl (Nat.zero_le _)
    · cases taken
  | proceed id =>
    exact proceed_invariant capacity divides small role workersWord state next id invariant few
      taken
  | steal id victim =>
    split at taken
    · rename_i tries stands
      have searching : state.queues.threads id = .search :=
        WorkSteal.phase_search _ (by rw [invariant.phases id, stands]; rfl)
      split at taken
      · obtain ⟨queues, stepped, rfl⟩ := Option.map_eq_some_iff.mp taken
        have placed : WorkSteal.step capacity state.queues (.steal id victim) =
            some (WorkSteal.place state.queues id (.grabHead victim)) := by
          simp only [WorkSteal.step, searching] at stepped ⊢
          split at stepped
          · cases stepped
          · rename_i other
            exact if_neg other
        exact search_invariant capacity divides small role state (.grabHead victim) invariant
          stands taken rfl placed rfl rfl (fun same => nomatch same)
          (fun _ => invariant.workers id (by rw [stands]; rfl)) rfl (Nat.zero_le _)
      · cases taken
    · cases taken
  | notify id woken =>
    split at taken
    · rename_i stands
      cases woken with
      | some other =>
        obtain ⟨roused, woke, rfl⟩ := Option.map_eq_some_iff.mp taken
        have kept := wake_invariant invariant woke
        have still : roused.controls id = .wakeupNotify := by
          unfold wake at woke
          split at woke <;> cases woke
          rename_i waits
          have different : id ≠ other := by
            rintro rfl
            rw [stands] at waits
            cases waits
          exact (Function.update_of_ne different _ _).trans stands
        exact invariant_move none kept still rfl nofun rfl (Nat.zero_le _)
      | none =>
        dsimp only at taken
        split at taken <;> cases taken
        exact invariant_move none invariant stands rfl nofun rfl (Nat.zero_le _)
    · cases taken
  | wake => exact wake_invariant invariant taken

end

/-- In every run of the pool, with any number of workers, every state that is reached is
awake. -/
theorem run_awake (capacity : Nat) (divides : capacity ∣ 2 ^ 32) (small : capacity < 2 ^ 32)
    (role : Id → Role) (workersWord : workersNum role < 2 ^ 32) (staffed : 1 ≤ workersNum role)
    (content : Id → Nat → Item) (schedule : List (Action Item Id)) (final : State Item Id)
    (fewTasks : Runs.Along (step capacity role) (fun state action => few state action = true)
      (start content) schedule)
    (executed : Runs.run (step capacity role) (start content) schedule = some final) :
    Awake capacity role final :=
  invariant_awake
    (Runs.run_preserves (step capacity role) (fun state action => few state action = true)
      (Invariant capacity role) (step_invariant capacity divides small role workersWord)
      (start content) final schedule (start_invariant capacity role content staffed) fewTasks
      executed)

/-- Two workers and a thread from outside. -/
def staff (id : Fin 3) : Role := if id = 2 then .outsider else .worker

/-- The next steps of a thread. -/
def proceeds (id : Fin 3) (steps : Nat) : List (Action Nat (Fin 3)) :=
  List.replicate steps (.proceed id)

/-- The first worker finds nothing and goes to sleep, a task enters from outside, the
second worker takes it, and the first one wakes up for no reason. -/
def nap : List (Action Nat (Fin 3)) :=
  [.dequeue 0] ++ proceeds 0 8 ++ [.globalEnqueue 2 9] ++ proceeds 2 4 ++ [.dequeue 1] ++
    proceeds 1 6 ++ [.wake 0] ++ proceeds 0 2

theorem nap_completes : (Runs.run (step 4 staff) (start fun _ _ => 0) nap).isSome := by
  decide +kernel

/-- After the nap the task was returned and nobody is counted as a sleeper. -/
theorem run_awake_nap :
    ∃ final, Runs.run (step 4 staff) (start fun _ _ => 0) nap = some final ∧
      final.queues.returned = [9] ∧ final.totalJobs = 0 ∧ final.sleepNum = 0 ∧
      Awake 4 staff final := by
  refine ⟨Option.get _ nap_completes, (Option.some_get _).symm, ?_, ?_, ?_, ?_⟩
  · decide +kernel
  · decide +kernel
  · decide +kernel
  · apply run_awake 4 (by decide) (by decide) staff (by decide) (by decide) (fun _ _ => 0) nap
    · decide +kernel
    · exact (Option.some_get _).symm

/-- One worker that has put a number of tasks in the global queue. -/
def piled (count : Nat) : State Nat Unit where
  queues := { WorkSteal.start (fun _ _ => 0) with
    global := List.replicate count 0
    globalNum := count % 2 ^ 64
    enqueued := List.replicate count 0 }
  totalJobs := word count
  sleepNum := 0
  mutex := none
  controls := fun _ => .outside

/-- A call of `global_enqueue`. -/
def pileOne : List (Action Nat Unit) :=
  [.globalEnqueue () 0, .proceed (), .proceed (), .proceed (), .proceed ()]

/-- A call adds one task to the pile. -/
theorem piled_one (count : Nat) :
    Runs.run (step 4 fun _ => .worker) (piled count) pileOne = some (piled (count + 1)) := by
  have alone : ∀ (controls : Unit → Control) (control : Control),
      Function.update controls () control = fun _ => control := by
    intro controls control
    funext id
    exact Function.update_self _ _ _
  have jobs : word (word count + 1) = word (count + 1) := Nat.mod_add_mod _ _ _
  have workers : workersNum (fun _ : Unit => Role.worker) = 1 := rfl
  simp [pileOne, Runs.run, step, proceed, callQueues, WorkSteal.step, piled, move, alone, jobs,
    workers, distance, List.replicate_succ', WorkSteal.start]

/-- Any number of calls. -/
theorem piled_many (count : Nat) :
    Runs.run (step 4 fun _ => .worker) (piled 0) (List.replicate count pileOne).flatten =
      some (piled count) := by
  induction count with
  | zero => rfl
  | succ count inductionHypothesis =>
    rw [List.replicate_succ', List.flatten_append,
      Runs.run_append _ _ (piled count) _ _ inductionHypothesis, List.flatten_singleton,
      piled_one]

theorem piled_held (count : Nat) : held 4 (piled count).queues = count := by
  simp [held, piled, tally, WorkSteal.start, items, slots, distance]

/-- After 2^32 calls of `global_enqueue` no call is in progress, the global queue holds
2^32 tasks, and the pool counts no job. -/
theorem pile_uncounted :
    ∃ schedule final,
      Runs.run (step 4 fun _ => .worker) (start fun _ _ => 0 : State Nat Unit) schedule =
        some final ∧
      (∀ id, final.controls id = .outside) ∧ held 4 final.queues = 2 ^ 32 ∧
      final.totalJobs = 0 ∧ ¬Awake 4 (fun _ => .worker) final := by
  refine ⟨_, piled (2 ^ 32), piled_many (2 ^ 32), fun _ => rfl, piled_held _, Nat.mod_self _, ?_⟩
  intro awake
  have counted := (awake.counters fun _ => rfl).1
  rw [piled_held] at counted
  exact absurd counted (by decide)

end Mola.WorkerPool
