import Mola.Runs
import Mathlib.Data.List.Perm.Basic

/-!
# Timers

A timer keeps its tasks in a `std::priority_queue` and runs them in a thread of its own. The
comparator says that a task is smaller if its deadline is earlier, and the top of such a queue is
its largest element: the task with the latest deadline.

The thread takes a reference to the top. If the deadline has passed, or if a wait up to it ends by
timeout, it runs the task that the reference designates and pops the queue. The lock is free
during the wait. A task that is added then can become the new top, in the place that the
reference designates, after the wait has timed out and before the thread has the lock again; and
the storage can be reallocated, after which the reference designates nothing.

The storage of the queue is a list with a largest task in front. How the others are arranged after
an operation, and the capacity after a reallocation, are chosen from outside. Waits end by a
timeout or by a notification. A callback that adds a task to the timer itself, which would wait
for the lock for ever, is not modelled.
-/

namespace Mola.Timers

open Runs

/-- A task with its deadline. The id tells how many were added before. -/
structure Task where
  id : Nat
  deadline : Int
deriving DecidableEq

/-- How a wait has ended. -/
inductive Ending where
  | timeout
  | notified
deriving DecidableEq

/-- Where the thread stands: before its loop, at its head with the lock, in the wait for a first
task, or in the wait up to a deadline. For the latter, whether the reference is still valid. Or
it has used a reference that is not. -/
inductive Position where
  | start
  | loop
  | empty (notified : Bool)
  | waiting (deadline : Int) (valid : Bool) (ended : Option Ending)
  | undefined
deriving DecidableEq

/-- What happened when the loop ran a task: the time, the task that was run, the task that was
popped, and the tasks that were pending. -/
structure Fire where
  now : Int
  ran : Task
  popped : Task
  pending : List Task
deriving DecidableEq

/-- A timer, with the clock. The last three fields are history: the number of tasks that were
added, the tasks that were run, and what happened when the loop ran one. -/
structure Timer where
  queue : List Task
  capacity : Nat
  position : Position
  now : Int
  added : Nat
  ran : List Task
  fires : List Fire

/-- Time passes; the thread starts; a task is added, with the arrangement of the queue and its
capacity afterwards; the thread goes on at the head of its loop, with the arrangement of the queue
if it pops; the wait times out; or the thread has the lock again after its wait. -/
inductive Action where
  | tick (duration : Nat)
  | begin
  | add (timeout : Int) (arranged : List Task) (capacity : Nat)
  | look (arranged : List Task)
  | timeout
  | wake (arranged : List Task)
deriving DecidableEq

/-- A new timer. -/
def start : Timer := ⟨[], 0, .start, 0, 0, [], []⟩

/-- The first task is a largest one. -/
def Arranged (queue : List Task) : Prop :=
  ∀ top ∈ queue.head?, ∀ task ∈ queue, task.deadline ≤ top.deadline

instance (queue : List Task) : Decidable (Arranged queue) :=
  inferInstanceAs (Decidable (∀ top ∈ queue.head?, _))

/-- A notification ends a wait that has not ended. -/
def Position.notify : Position → Position
  | .empty _ => .empty true
  | .waiting deadline valid none => .waiting deadline valid (some .notified)
  | position => position

/-- A reallocation makes the reference invalid. -/
def Position.reallocate : Position → Position
  | .waiting deadline _ ended => .waiting deadline false ended
  | position => position

/-- The lock is free: the thread has not started, or waits. -/
def Position.unlocked : Position → Bool
  | .start | .empty _ | .waiting .. => true
  | _ => false

/-- The capacity after an insertion: the same if there is room, and a larger one if not. -/
def Grown (timer : Timer) (capacity : Nat) : Prop :=
  if timer.queue.length < timer.capacity then capacity = timer.capacity
  else timer.queue.length < capacity

instance (timer : Timer) (capacity : Nat) : Decidable (Grown timer capacity) := by
  unfold Grown
  infer_instance

/-- `Timer::add`. A task without a timeout is run at once, by the thread that adds it. -/
def add (timer : Timer) (timeout : Int) (arranged : List Task) (capacity : Nat) : Option Timer :=
  let task : Task := ⟨timer.added, timer.now + timeout⟩
  if timeout = 0 then
    some { timer with added := timer.added + 1, ran := task :: timer.ran }
  else if timer.position.unlocked ∧ arranged.Perm (task :: timer.queue) ∧ Arranged arranged ∧
      Grown timer capacity then
    let kept := if timer.queue.length < timer.capacity then timer.position
      else timer.position.reallocate
    let isTop := arranged.head?.any fun top => top.deadline = task.deadline
    some { timer with
      queue := arranged
      capacity := capacity
      position := if isTop then kept.notify else kept
      added := timer.added + 1 }
  else none

/-- The thread runs the task in the first place and pops the queue. -/
def fire (timer : Timer) (arranged : List Task) : Option Timer :=
  match timer.queue with
  | [] => none
  | top :: rest =>
      if arranged.Perm rest ∧ Arranged arranged then
        some { timer with
          queue := arranged
          position := .loop
          ran := top :: timer.ran
          fires := ⟨timer.now, top, top, top :: rest⟩ :: timer.fires }
      else none

/-- The head of the loop in `Timer::run`. -/
def look (timer : Timer) (arranged : List Task) : Option Timer :=
  match timer.queue with
  | [] => some { timer with position := .empty false }
  | top :: _ =>
      if top.deadline ≤ timer.now then fire timer arranged
      else some { timer with position := .waiting top.deadline true none }

/-- One step. -/
def step (timer : Timer) : Action → Option Timer
  | .tick duration => some { timer with now := timer.now + duration }
  | .begin =>
      match timer.position with
      | .start => some { timer with position := .loop }
      | _ => none
  | .add timeout arranged capacity => add timer timeout arranged capacity
  | .look arranged =>
      match timer.position with
      | .loop => look timer arranged
      | _ => none
  | .timeout =>
      match timer.position with
      | .waiting deadline valid none =>
          if deadline ≤ timer.now then
            some { timer with position := .waiting deadline valid (some .timeout) }
          else none
      | _ => none
  | .wake arranged =>
      match timer.position with
      | .empty true => some { timer with position := .loop }
      | .waiting _ _ (some .notified) => some { timer with position := .loop }
      | .waiting _ true (some .timeout) => fire timer arranged
      | .waiting _ false (some .timeout) => some { timer with position := .undefined }
      | _ => none

/-- The loop has run the right task: the deadline has passed, no pending task has an earlier one,
and the task that was popped is the one that was run. -/
def Fire.Right (fire : Fire) : Prop :=
  fire.ran.deadline ≤ fire.now ∧ (∀ task ∈ fire.pending, fire.ran.deadline ≤ task.deadline) ∧
    fire.popped = fire.ran

/-- The loop has always run the right task, and no task was run twice. -/
def EarliestFirst (timer : Timer) : Prop :=
  timer.position ≠ .undefined ∧ (∀ fire ∈ timer.fires, fire.Right) ∧
    (timer.ran.map Task.id).Nodup

/-- The step makes the thread use its reference: the deadline of the top has passed, or a wait has
timed out. -/
def fires (timer : Timer) : Action → Bool
  | .look _ =>
      timer.position = .loop && timer.queue.head?.any fun top => top.deadline ≤ timer.now
  | .wake _ =>
      match timer.position with
      | .waiting _ _ (some .timeout) => true
      | _ => false
  | _ => false

/-- All pending tasks have one deadline. -/
def OneDeadline (queue : List Task) : Prop :=
  ∀ task ∈ queue, ∀ other ∈ queue, task.deadline = other.deadline

/-- The reference of a thread that waits is valid. -/
def Position.intact : Position → Bool
  | .waiting _ valid _ => valid
  | _ => true

/-- When the thread uses its reference, it is valid, and the pending tasks have one deadline. -/
def Allowed (timer : Timer) (action : Action) : Prop :=
  fires timer action = true → timer.position.intact = true ∧ OneDeadline timer.queue

instance (queue : List Task) : Decidable (OneDeadline queue) :=
  inferInstanceAs (Decidable (∀ task ∈ queue, _))

instance (timer : Timer) (action : Action) : Decidable (Allowed timer action) :=
  inferInstanceAs (Decidable (_ → _))

/-- What holds of every timer: the queue is arranged, no task is in it twice or was run before, and
a wait is for the deadline of a pending task, which has passed if the wait has timed out. -/
structure Kept (timer : Timer) : Prop where
  arranged : Arranged timer.queue
  unique : (timer.queue.map Task.id ++ timer.ran.map Task.id).Nodup
  numbered : ∀ task ∈ timer.queue ++ timer.ran, task.id < timer.added
  waited : ∀ deadline valid ended, timer.position = .waiting deadline valid ended →
    ∃ task ∈ timer.queue, task.deadline = deadline
  passed : ∀ deadline valid, timer.position = .waiting deadline valid (some .timeout) →
    deadline ≤ timer.now

theorem start_kept : Kept start where
  arranged top isTop := by cases isTop
  unique := List.nodup_nil
  numbered task member := by cases member
  waited deadline valid ended isWaiting := by cases isWaiting
  passed deadline valid isWaiting := by cases isWaiting

/-- The thread waits for the same deadline, if at all, and has not timed out in between. The lock is
free as before. -/
structure Position.SameWait (before after : Position) : Prop where
  unlocked : after.unlocked = before.unlocked
  waiting : ∀ deadline valid ended, after = .waiting deadline valid ended →
    ∃ valid' ended', before = .waiting deadline valid' ended' ∧
      (ended = some .timeout → ended' = some .timeout)

variable (position : Position) {timer : Timer} {arranged : List Task} {action : Action}

theorem sameWait_refl : position.SameWait position :=
  ⟨rfl, fun _ valid ended same => ⟨valid, ended, same, fun timedOut => timedOut⟩⟩

/-- A notification keeps the deadline of a wait, and does not make it time out. -/
theorem sameWait_notify : position.SameWait position.notify := by
  cases position with
  | start | loop | undefined => exact sameWait_refl _
  | empty => exact ⟨rfl, fun deadline valid ended isWaiting => by cases isWaiting⟩
  | waiting _ intact before =>
    cases before with
    | some => exact sameWait_refl _
    | none =>
      refine ⟨rfl, fun deadline valid ended isWaiting => ?_⟩
      cases isWaiting
      exact ⟨intact, none, rfl, fun timedOut => by cases timedOut⟩

/-- A reallocation keeps the deadline of a wait and how it has ended. -/
theorem sameWait_reallocate : position.SameWait position.reallocate := by
  cases position with
  | start | loop | undefined | empty => exact sameWait_refl _
  | waiting _ intact before =>
    refine ⟨rfl, fun deadline valid ended isWaiting => ?_⟩
    cases isWaiting
    exact ⟨intact, before, rfl, fun timedOut => timedOut⟩

theorem sameWait_trans {first second third : Position} (before : first.SameWait second)
    (after : second.SameWait third) : first.SameWait third := by
  refine ⟨after.unlocked.trans before.unlocked, fun deadline valid ended isWaiting => ?_⟩
  obtain ⟨valid', ended', was, timedOut⟩ := after.waiting deadline valid ended isWaiting
  obtain ⟨valid'', ended'', hadBeen, timedOut'⟩ := before.waiting deadline valid' ended' was
  exact ⟨valid'', ended'', hadBeen, fun timedOutAfter => timedOut' (timedOut timedOutAfter)⟩

/-- What `Timer::add` does with a timeout. -/
theorem add_spec {next : Timer} {timeout : Int} {capacity : Nat} (later : timeout ≠ 0)
    (taken : add timer timeout arranged capacity = some next) :
    ∃ position, timer.position.unlocked = true ∧ timer.position.SameWait position ∧
      arranged.Perm (⟨timer.added, timer.now + timeout⟩ :: timer.queue) ∧ Arranged arranged ∧
      next = { timer with
        queue := arranged
        capacity := capacity
        position := position
        added := timer.added + 1 } := by
  unfold add at taken
  simp only [later, if_false, Option.ite_none_right_eq_some, Option.some.injEq] at taken
  obtain ⟨⟨unlocked, perm, front, -⟩, rfl⟩ := taken
  refine ⟨_, unlocked, ?_, perm, front, rfl⟩
  have kept : timer.position.SameWait (if timer.queue.length < timer.capacity then timer.position
      else timer.position.reallocate) := by
    split
    · exact sameWait_refl _
    · exact sameWait_reallocate _
  split
  · exact sameWait_trans kept (sameWait_notify _)
  · exact kept

/-- What the thread does when it runs a task. -/
theorem fire_spec {next : Timer} (taken : fire timer arranged = some next) :
    ∃ top rest, timer.queue = top :: rest ∧ arranged.Perm rest ∧ Arranged arranged ∧
      next = { timer with
        queue := arranged
        position := .loop
        ran := top :: timer.ran
        fires := ⟨timer.now, top, top, top :: rest⟩ :: timer.fires } := by
  unfold fire at taken
  split at taken
  case h_1 => cases taken
  case h_2 top rest queue =>
    simp only [Option.ite_none_right_eq_some, Option.some.injEq] at taken
    obtain ⟨⟨perm, front⟩, rfl⟩ := taken
    exact ⟨top, rest, queue, perm, front, rfl⟩

/-- What a step can do: nothing but let time pass or move the thread; run a new task at once; add
one to the queue; run the top, by a thread whose reference is valid; or use an invalid one. -/
inductive Moved (timer : Timer) (action : Action) : Timer → Prop where
  | moved (now : Int) (position : Position) (quiet : fires timer action = false)
      (forward : timer.now ≤ now)
      (defined_ : position = .undefined ↔ timer.position = .undefined)
      (waits : ∀ deadline valid ended, position = .waiting deadline valid ended →
        (∃ task ∈ timer.queue, task.deadline = deadline) ∧
          (ended = some .timeout → deadline ≤ now)) :
      Moved timer action { timer with now := now, position := position }
  | atOnce (quiet : fires timer action = false) :
      Moved timer action
        { timer with
          added := timer.added + 1
          ran := ⟨timer.added, timer.now⟩ :: timer.ran }
  | added (deadline : Int) (arranged : List Task) (capacity : Nat) (position : Position)
      (quiet : fires timer action = false) (unlocked : timer.position.unlocked = true)
      (same : timer.position.SameWait position)
      (perm : arranged.Perm (⟨timer.added, deadline⟩ :: timer.queue))
      (front : Arranged arranged) :
      Moved timer action
        { timer with
          queue := arranged
          capacity := capacity
          position := position
          added := timer.added + 1 }
  | fired (top : Task) (rest arranged : List Task) (firing : fires timer action = true)
      (queue : timer.queue = top :: rest) (perm : arranged.Perm rest) (front : Arranged arranged)
      (intact : timer.position.intact = true) (running : timer.position ≠ .undefined)
      (passed : OneDeadline timer.queue → top.deadline ≤ timer.now) :
      Moved timer action
        { timer with
          queue := arranged
          position := .loop
          ran := top :: timer.ran
          fires := ⟨timer.now, top, top, top :: rest⟩ :: timer.fires }
  | lost (firing : fires timer action = true) (broken : timer.position.intact = false) :
      Moved timer action { timer with position := .undefined }

/-- A thread that is neither in a wait nor undefined moves to such a position. -/
theorem moved_to {position : Position} (quiet : fires timer action = false)
    (running : timer.position ≠ .undefined) (defined_ : position ≠ .undefined)
    (noWait : ∀ deadline valid ended, position ≠ .waiting deadline valid ended) :
    Moved timer action { timer with position := position } :=
  .moved timer.now position quiet (Int.le_refl _)
    ⟨fun lost => absurd lost defined_, fun lost => absurd lost running⟩
    fun deadline valid ended isWaiting => absurd isWaiting (noWait deadline valid ended)

/-- The thread runs the top, with a valid reference. -/
theorem fire_moved {next : Timer} (taken : fire timer arranged = some next)
    (firing : fires timer action = true) (intact : timer.position.intact = true)
    (running : timer.position ≠ .undefined)
    (passed : ∀ top ∈ timer.queue.head?, OneDeadline timer.queue → top.deadline ≤ timer.now) :
    Moved timer action next := by
  obtain ⟨top, rest, queue, perm, front, rfl⟩ := fire_spec taken
  refine .fired top rest arranged firing queue perm front intact running (passed top ?_)
  rw [queue]
  rfl

/-- The step at the head of the loop. -/
theorem look_moved {next : Timer} (atHead : timer.position = .loop)
    (taken : look timer arranged = some next) : Moved timer (.look arranged) next := by
  have running : timer.position ≠ .undefined := by rw [atHead]; exact Position.noConfusion
  unfold look at taken
  split at taken
  case h_1 empty =>
    cases taken
    exact moved_to (by simp [fires, empty]) running
      Position.noConfusion fun _ _ _ => Position.noConfusion
  case h_2 top rest queue =>
    split at taken
    case isTrue due =>
      refine fire_moved taken ?_ ?_ running ?_
      · simp [fires, atHead, queue, due]
      · rw [atHead]
        rfl
      · intro first isFirst _
        rw [queue] at isFirst
        cases isFirst
        exact due
    case isFalse early =>
      cases taken
      refine .moved timer.now (.waiting top.deadline true none) ?_ (Int.le_refl _) ?_ ?_
      · simpa [fires, atHead, queue] using early
      · exact ⟨Position.noConfusion, fun lost => absurd lost running⟩
      · intro deadline valid ended isWaiting
        cases isWaiting
        exact ⟨⟨top, by rw [queue]; exact List.mem_cons_self, rfl⟩,
          fun timedOut => by cases timedOut⟩

/-- The task at the top is due after a timeout if all pending tasks have one deadline: the one that
the thread has waited for is still pending. -/
theorem Kept.due (kept : Kept timer) {deadline : Int} {valid : Bool}
    (isWaiting : timer.position = .waiting deadline valid (some .timeout)) :
    ∀ top ∈ timer.queue.head?, OneDeadline timer.queue → top.deadline ≤ timer.now := by
  intro top isTop one
  obtain ⟨task, member, own⟩ := kept.waited deadline valid (some .timeout) isWaiting
  have passed := kept.passed deadline valid isWaiting
  have same := one top (List.mem_of_mem_head? isTop) task member
  omega

/-- The step after a wait. -/
theorem wake_moved {next : Timer} (kept : Kept timer)
    (taken : step timer (.wake arranged) = some next) : Moved timer (.wake arranged) next := by
  dsimp only [step] at taken
  split at taken
  case h_1 isEmpty =>
    cases taken
    exact moved_to (by simp [fires, isEmpty])
      (by rw [isEmpty]; exact Position.noConfusion) Position.noConfusion
      fun _ _ _ => Position.noConfusion
  case h_2 deadline valid isWaiting =>
    cases taken
    exact moved_to (by simp [fires, isWaiting])
      (by rw [isWaiting]; exact Position.noConfusion) Position.noConfusion
      fun _ _ _ => Position.noConfusion
  case h_3 deadline isWaiting =>
    refine fire_moved taken ?_ ?_ ?_
      (kept.due isWaiting)
    · simp [fires, isWaiting]
    · rw [isWaiting]
      rfl
    · rw [isWaiting]
      exact Position.noConfusion
  case h_4 deadline isWaiting =>
    cases taken
    refine .lost ?_ ?_
    · simp [fires, isWaiting]
    · rw [isWaiting]
      rfl
  case h_5 => cases taken

/-- Every step of a timer is one of these. -/
theorem step_moved (timer : Timer) (action : Action) (next : Timer) (kept : Kept timer)
    (taken : step timer action = some next) : Moved timer action next := by
  cases action with dsimp only [step] at taken
  | tick duration =>
    cases taken
    refine .moved (timer.now + duration) timer.position rfl (by omega) Iff.rfl ?_
    intro deadline valid ended isWaiting
    refine ⟨kept.waited deadline valid ended isWaiting, fun timedOut => ?_⟩
    rw [timedOut] at isWaiting
    have passed := kept.passed deadline valid isWaiting
    omega
  | begin =>
    split at taken <;> cases taken
    case h_1 starts =>
      exact moved_to rfl (by rw [starts]; exact Position.noConfusion)
        Position.noConfusion fun _ _ _ => Position.noConfusion
  | add timeout arranged capacity =>
    by_cases now : timeout = 0
    · have atOnce : next = { timer with
          added := timer.added + 1
          ran := ⟨timer.added, timer.now⟩ :: timer.ran } := by
        simp only [step, add, now, if_true, Option.some.injEq, Int.add_zero] at taken
        exact taken.symm
      rw [atOnce]
      exact .atOnce rfl
    · obtain ⟨position, unlocked, same, perm, front, rfl⟩ :=
        add_spec now taken
      exact .added _ arranged capacity position rfl unlocked same perm front
  | look =>
    split at taken
    case h_1 atHead => exact look_moved atHead taken
    case h_2 => cases taken
  | timeout =>
    split at taken
    case h_2 => cases taken
    case h_1 deadline valid isWaiting =>
      simp only [Option.ite_none_right_eq_some, Option.some.injEq] at taken
      obtain ⟨due, rfl⟩ := taken
      refine .moved timer.now (.waiting deadline valid (some .timeout)) rfl (Int.le_refl _) ?_ ?_
      · rw [isWaiting]
        exact ⟨Position.noConfusion, Position.noConfusion⟩
      · intro until_ intact ended same
        cases same
        exact ⟨kept.waited deadline valid none isWaiting, fun _ => due⟩
  | wake => exact wake_moved kept taken

theorem Kept.fresh (kept : Kept timer) :
    timer.added ∉ timer.queue.map Task.id ++ timer.ran.map Task.id := by
  rw [← List.map_append]
  intro member
  obtain ⟨task, known, same⟩ := List.mem_map.mp member
  have numbered := kept.numbered task known
  omega

/-- The tasks have numbers below that of the next one, also after a new task. -/
theorem Kept.numbered_new (kept : Kept timer) (deadline : Int) (task : Task)
    (known : task = ⟨timer.added, deadline⟩ ∨ task ∈ timer.queue ++ timer.ran) :
    task.id < timer.added + 1 := by
  obtain rfl | older := known
  · exact Nat.lt_succ_self _
  · exact Nat.lt_succ_of_lt (kept.numbered task older)

/-- A task is added to the queue, during a wait or before the thread starts. -/
theorem Kept.added (kept : Kept timer) (deadline : Int) (arranged : List Task) (capacity : Nat)
    (position : Position) (same : timer.position.SameWait position)
    (perm : arranged.Perm (⟨timer.added, deadline⟩ :: timer.queue)) (front : Arranged arranged) :
    Kept { timer with
      queue := arranged
      capacity := capacity
      position := position
      added := timer.added + 1 } where
  arranged := front
  unique := by
    dsimp only
    rw [((perm.map Task.id).append_right _).nodup_iff, List.map_cons, List.cons_append]
    exact List.nodup_cons.mpr ⟨kept.fresh, kept.unique⟩
  numbered task member := by
    refine kept.numbered_new deadline task ?_
    rcases List.mem_append.mp member with queued | run
    · exact (List.mem_cons.mp (perm.mem_iff.mp queued)).imp_right (List.mem_append_left _)
    · exact .inr (List.mem_append_right _ run)
  waited until_ valid ended isWaiting := by
    obtain ⟨valid', ended', was, -⟩ := same.waiting until_ valid ended isWaiting
    obtain ⟨task, member, own⟩ := kept.waited until_ valid' ended' was
    exact ⟨task, perm.mem_iff.mpr (List.mem_cons_of_mem _ member), own⟩
  passed until_ valid isWaiting := by
    obtain ⟨valid', ended', was, timedOut⟩ := same.waiting until_ valid _ isWaiting
    rw [timedOut rfl] at was
    exact kept.passed until_ valid' was

/-- The top is run and popped. -/
theorem Kept.fired (kept : Kept timer) (top : Task) (rest arranged : List Task)
    (fires : List Fire) (queue : timer.queue = top :: rest) (perm : arranged.Perm rest)
    (front : Arranged arranged) :
    Kept { timer with
      queue := arranged
      position := .loop
      ran := top :: timer.ran
      fires := fires } where
  arranged := front
  unique := by
    have unique := kept.unique
    rw [queue] at unique
    dsimp only
    rw [((perm.map Task.id).append_right _).nodup_iff, List.map_cons, (List.perm_middle).nodup_iff]
    exact unique
  numbered task member := by
    refine kept.numbered task ?_
    rw [queue]
    rcases List.mem_append.mp member with queued | run
    · exact List.mem_append_left _ (List.mem_cons_of_mem top (perm.mem_iff.mp queued))
    · rcases List.mem_cons.mp run with rfl | earlier
      · exact List.mem_append_left _ List.mem_cons_self
      · exact List.mem_append_right _ earlier
  waited deadline valid ended isWaiting := by cases isWaiting
  passed deadline valid isWaiting := by cases isWaiting

/-- Every step keeps the timer. -/
theorem step_kept (timer : Timer) (action : Action) (next : Timer) (kept : Kept timer)
    (taken : step timer action = some next) : Kept next := by
  cases step_moved timer action next kept taken with
  | moved _ _ _ _ _ waits =>
    refine ⟨kept.arranged, kept.unique, kept.numbered, ?_, ?_⟩
    · exact fun deadline valid ended isWaiting => (waits deadline valid ended isWaiting).1
    · exact fun deadline valid isWaiting => (waits deadline valid _ isWaiting).2 rfl
  | atOnce =>
    refine ⟨kept.arranged, ?_, ?_, kept.waited, kept.passed⟩
    · rw [List.map_cons, (List.perm_middle).nodup_iff]
      exact List.nodup_cons.mpr ⟨kept.fresh, kept.unique⟩
    · intro task member
      refine kept.numbered_new timer.now task ?_
      rcases List.mem_append.mp member with queued | run
      · exact .inr (List.mem_append_left _ queued)
      · exact (List.mem_cons.mp run).imp_right (List.mem_append_right _)
  | added deadline arranged capacity position _ _ same perm front =>
    exact kept.added deadline arranged capacity position same perm front
  | fired top rest arranged _ queue perm front =>
    exact kept.fired top rest arranged _ queue perm front
  | lost =>
    refine ⟨kept.arranged, kept.unique, kept.numbered, ?_, ?_⟩
    · intro deadline valid ended isWaiting
      cases isWaiting
    · intro deadline valid isWaiting
      cases isWaiting

theorem Kept.once (kept : Kept timer) : (timer.ran.map Task.id).Nodup :=
  (List.nodup_append.mp kept.unique).2.1

/-- The top of an arranged queue has the earliest deadline exactly if all have one deadline. -/
theorem top_earliest_iff {top : Task} {rest : List Task} (front : Arranged (top :: rest)) :
    (∀ task ∈ top :: rest, top.deadline ≤ task.deadline) ↔ OneDeadline (top :: rest) := by
  have latest := front top rfl
  constructor
  · intro earliest task member other otherMember
    have first := latest task member
    have second := latest other otherMember
    have third := earliest task member
    have fourth := earliest other otherMember
    omega
  · intro one task member
    exact Int.le_of_eq (one top List.mem_cons_self task member)

/-- A step that does not make the thread use its reference changes nothing of what is claimed. -/
theorem earliestFirst_of_quiet {next : Timer} (kept : Kept timer) (keptNext : Kept next)
    (quiet : fires timer action = false)
    (defined_ : next.position = .undefined ↔ timer.position = .undefined)
    (same : next.fires = timer.fires) :
    EarliestFirst next ↔ EarliestFirst timer ∧ Allowed timer action := by
  have allowed : Allowed timer action := by
    intro firing
    cases quiet.symm.trans firing
  unfold EarliestFirst
  rw [same]
  constructor
  · rintro ⟨running, right, -⟩
    exact ⟨⟨fun lost => running (defined_.mpr lost), right, kept.once⟩, allowed⟩
  · rintro ⟨⟨running, right, -⟩, -⟩
    exact ⟨fun lost => running (defined_.mp lost), right, keptNext.once⟩

/-- A step leaves the timer with the right tasks run exactly if it was so before, and if the step
does not use the reference, or uses a valid one while the pending tasks have one deadline. -/
theorem step_earliestFirst_iff (timer : Timer) (action : Action) (next : Timer)
    (kept : Kept timer) (taken : step timer action = some next) :
    EarliestFirst next ↔ EarliestFirst timer ∧ Allowed timer action := by
  have keptNext : Kept next := step_kept timer action next kept taken
  cases step_moved timer action next kept taken with
  | moved _ _ quiet _ defined_ =>
    exact earliestFirst_of_quiet kept keptNext quiet defined_ rfl
  | atOnce quiet => exact earliestFirst_of_quiet kept keptNext quiet Iff.rfl rfl
  | added _ _ _ _ quiet unlocked same =>
    refine earliestFirst_of_quiet kept keptNext quiet ?_ rfl
    have free := same.unlocked.trans unlocked
    refine ⟨fun lost => ?_, fun lost => ?_⟩
    · dsimp only at lost
      rw [lost] at free
      cases free
    · rw [lost] at unlocked
      cases unlocked
  | fired _ _ arranged firing queue _ _ intact running passed =>
    have earliest := top_earliest_iff (queue ▸ kept.arranged)
    unfold EarliestFirst
    constructor
    · rintro ⟨-, right, -⟩
      obtain ⟨-, first, -⟩ := right _ List.mem_cons_self
      refine ⟨⟨running, fun older member => right older (List.mem_cons_of_mem _ member),
        kept.once⟩, fun _ => ⟨intact, ?_⟩⟩
      rw [queue]
      exact earliest.mp first
    · rintro ⟨⟨-, right, -⟩, allowed⟩
      have one : OneDeadline timer.queue := (allowed firing).2
      refine ⟨Position.noConfusion, fun older member => ?_, keptNext.once⟩
      rcases List.mem_cons.mp member with rfl | earlier
      · exact ⟨passed one, earliest.mpr (queue ▸ one), rfl⟩
      · exact right older earlier
  | lost firing broken =>
    refine ⟨fun right => absurd rfl right.1, fun right => ?_⟩
    cases broken.symm.trans (right.2 firing).1

/-- Two tasks with one deadline are run after a wait. -/
def twoTogether : List Action :=
  [.add 5 [⟨0, 5⟩] 4, .add 5 [⟨0, 5⟩, ⟨1, 5⟩] 4, .begin, .look [], .tick 5, .timeout,
    .wake [⟨1, 5⟩], .look []]

/-- Two tasks are due, and the later one is run first. -/
def laterFirst : List Action :=
  [.add 5 [⟨0, 5⟩] 4, .add 9 [⟨1, 9⟩, ⟨0, 5⟩] 4, .tick 10, .begin, .look [⟨0, 5⟩]]

/-- The wait for a task has timed out when a later one is added, which is run in its place before
its deadline. -/
def tooEarly : List Action :=
  [.add 5 [⟨0, 5⟩] 4, .begin, .look [], .tick 5, .timeout, .add 9 [⟨1, 14⟩, ⟨0, 5⟩] 4,
    .wake [⟨0, 5⟩]]

/-- The same, with a storage that has to grow. -/
def danglingTop : List Action :=
  [.add 5 [⟨0, 5⟩] 1, .begin, .look [], .tick 5, .timeout, .add 9 [⟨1, 14⟩, ⟨0, 5⟩] 2,
    .wake [⟨0, 5⟩]]

end Mola.Timers
