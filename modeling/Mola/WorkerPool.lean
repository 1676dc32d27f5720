import Mola.WorkStealCounts

/-!
# The worker pool

`WorkStealStrategy` puts the workers of a pool to sleep when there is too little to do
and wakes them when there is more. Two counters guide it: the jobs that were announced
and not yet taken, and the workers that sleep. Both are words that are changed outside
the locks of the queues that they describe.

A thread that enqueues a task, to its own ring or to the global queue, announces it and
notifies a sleeper if the jobs outnumber the busy workers. A worker that finds its ring
empty looks at the jobs, searches the global queue and the rings of the others, and goes
to sleep when the jobs do not outnumber the busy workers. The last worker that is awake
sleeps for ten milliseconds at most.

A step is one atomic access to a counter, one operation of the mutex or of the condition
variable, or one step of the queues. A sleeper can be woken at any time, as a spurious
wakeup or because its time is over. The victims of a search are chosen freely.
-/

namespace Mola.WorkerPool

open Rings Tallies

universe u v

/-- What a thread is to the pool: a worker, a helper with a ring, or a thread of another
part of the process. -/
inductive Role where
  | worker
  | helper
  | outsider
deriving DecidableEq

/-- Where a thread stands in the functions of the pool: outside; in `enqueue` or
`global_enqueue`; in `wakeup`; in `dequeue` with its search; in the section that puts a
worker to sleep; or at the exit of `dequeue`. -/
inductive Control where
  | outside
  | enqueueing
  | counting
  | announce
  | wakeupSleep
  | wakeupJobs (busy : Nat)
  | wakeupLock
  | wakeupNotify
  | dequeueing
  | check
  | globalAttempt
  | attempt (tries : Nat)
  | stealing (tries : Nat)
  | busySleep
  | busyJobs (busy : Nat)
  | sleepLock
  | sleepCount
  | enterWait
  | waiting
  | lastCheck
  | enterTimedWait
  | timedWaiting
  | relock
  | sleepDiscount
  | sleepUnlock
  | exit
deriving DecidableEq

/-- The queues, the two counters, the mutex and the threads. -/
structure State (Item : Type u) (Id : Type v) where
  queues : WorkSteal.State Item Id
  totalJobs : Nat
  sleepNum : Nat
  mutex : Option Id
  controls : Id → Control

/-- A call, the next step of a thread, the choice of a victim, a notification with the
sleeper that it wakes, or a wakeup for another reason. -/
inductive Action (Item : Type u) (Id : Type v) where
  | enqueue (id : Id) (task : Item)
  | globalEnqueue (id : Id) (task : Item)
  | dequeue (id : Id)
  | proceed (id : Id)
  | steal (id victim : Id)
  | notify (id : Id) (woken : Option Id)
  | wake (id : Id)

/-- A worker counts one. -/
def isWorker : Role → Nat
  | .worker => 1
  | _ => 0

/-- A thread with a ring counts one. -/
def hasRing : Role → Nat
  | .outsider => 0
  | _ => 1

variable {Item : Type u} {Id : Type v} [DecidableEq Id] [Fintype Id]

/-- `m_workers_num`. -/
def workersNum (role : Id → Role) : Nat := tally isWorker role

/-- `m_total_thr_num`. -/
def totalThrNum (role : Id → Role) : Nat := tally hasRing role

/-- An idle pool with empty queues. -/
def start (content : Id → Nat → Item) : State Item Id where
  queues := WorkSteal.start content
  totalJobs := 0
  sleepNum := 0
  mutex := none
  controls := fun _ => .outside

/-- Move a thread. -/
def move (state : State Item Id) (id : Id) (control : Control) : State Item Id :=
  { state with controls := Function.update state.controls id control }

/-- Take the mutex when it is free. -/
def lock (state : State Item Id) (id : Id) (control : Control) : Option (State Item Id) :=
  match state.mutex with
  | none => some { move state id control with mutex := some id }
  | some _ => none

/-- Where a step of the queues leaves a thread. The end of `enqueue` leads to `wakeup`, a
task that was found to the exit, and an attempt that failed to the next one. -/
def settle (role : Id → Role) (control : Control) (position : WorkSteal.Phase) : Control :=
  match control, position with
  | .enqueueing, .idle => .announce
  | .dequeueing, .idle => .exit
  | .dequeueing, .search => .check
  | .globalAttempt, .idle => .exit
  | .globalAttempt, .search => if totalThrNum role = 1 then .check else .attempt 0
  | .stealing _, .idle => .exit
  | .stealing tries, .search => .attempt (tries + 1)
  | _, _ => control

/-- A step of the queues by a thread. -/
def queueStep (capacity : Nat) (role : Id → Role) (state : State Item Id) (id : Id) :
    Option (State Item Id) :=
  (WorkSteal.threadStep capacity state.queues id).map fun queues =>
    { move state id (settle role (state.controls id) (WorkSteal.phase (queues.threads id))) with
      queues := queues }

/-- An operation of the queues that moves a thread. -/
def callQueues (capacity : Nat) (state : State Item Id) (id : Id) (control : Control)
    (action : WorkSteal.Action Item Id) : Option (State Item Id) :=
  (WorkSteal.step capacity state.queues action).map fun queues =>
    { move state id control with queues := queues }

/-- The next step of a thread. -/
def proceed (capacity : Nat) (role : Id → Role) (state : State Item Id) (id : Id) :
    Option (State Item Id) :=
  match state.controls id with
  | .enqueueing | .dequeueing | .globalAttempt | .stealing _ => queueStep capacity role state id
  | .counting => callQueues capacity state id .announce .count
  | .announce =>
      some { move state id .wakeupSleep with totalJobs := word (state.totalJobs + 1) }
  | .wakeupSleep =>
      some (move state id (.wakeupJobs (distance state.sleepNum (workersNum role))))
  | .wakeupJobs busy =>
      some (move state id
        (if busy < workersNum role ∧ busy < state.totalJobs then .wakeupLock else .outside))
  | .wakeupLock => lock state id .wakeupNotify
  | .check =>
      if 0 < state.totalJobs then callQueues capacity state id .globalAttempt (.globalDequeue id)
      else some (move state id .busySleep)
  | .attempt tries =>
      if tries < totalThrNum role - 1 then none else some (move state id .busySleep)
  | .busySleep => some (move state id (.busyJobs (distance state.sleepNum (workersNum role))))
  | .busyJobs busy =>
      some (move state id (if busy < state.totalJobs then .check else .sleepLock))
  | .sleepLock => lock state id .sleepCount
  | .sleepCount =>
      let sleepNum := word (state.sleepNum + 1)
      some { move state id (if sleepNum < workersNum role then .enterWait else .lastCheck) with
        sleepNum := sleepNum }
  | .enterWait => some { move state id .waiting with mutex := none }
  | .lastCheck =>
      some (move state id (if state.totalJobs = 0 then .enterTimedWait else .sleepDiscount))
  | .enterTimedWait => some { move state id .timedWaiting with mutex := none }
  | .relock => lock state id .sleepDiscount
  | .sleepDiscount =>
      some { move state id .sleepUnlock with sleepNum := word (state.sleepNum + 2 ^ 32 - 1) }
  | .sleepUnlock => some { move state id .check with mutex := none }
  | .exit =>
      some { move state id .outside with totalJobs := word (state.totalJobs + 2 ^ 32 - 1) }
  | .outside | .wakeupNotify | .waiting | .timedWaiting => none

/-- A thread that waits on the condition variable, with or without a limit. -/
def blocked : Control → Bool
  | .waiting | .timedWaiting => true
  | _ => false

/-- Wake a thread that waits. It has to take the mutex again. -/
def wake (state : State Item Id) (id : Id) : Option (State Item Id) :=
  if blocked (state.controls id) then some (move state id .relock) else none

/-- One step of the pool. Only workers dequeue, only threads with a ring enqueue to it or
are stolen from, and every thread can enqueue to the global queue. A notification is
lost only when nobody waits. -/
def step (capacity : Nat) (role : Id → Role) (state : State Item Id) :
    Action Item Id → Option (State Item Id)
  | .enqueue id task =>
      if state.controls id = .outside ∧ role id ≠ .outsider then
        callQueues capacity state id .enqueueing (.enqueue id task)
      else none
  | .globalEnqueue id task =>
      if state.controls id = .outside then
        callQueues capacity state id .counting (.globalEnqueue task)
      else none
  | .dequeue id =>
      if state.controls id = .outside ∧ role id = .worker then
        callQueues capacity state id .dequeueing (.dequeue id)
      else none
  | .proceed id => proceed capacity role state id
  | .steal id victim =>
      match state.controls id with
      | .attempt tries =>
          if tries < totalThrNum role - 1 ∧ role victim ≠ .outsider then
            callQueues capacity state id (.stealing tries) (.steal id victim)
          else none
      | _ => none
  | .notify id woken =>
      if state.controls id = .wakeupNotify then
        match woken with
        | some other =>
            (wake state other).map fun woken => { move woken id .outside with mutex := none }
        | none =>
            if ∀ other, blocked (state.controls other) = false then
              some { move state id .outside with mutex := none }
            else none
      else none
  | .wake id => wake state id

/-- The tasks in the rings and in the global queue. -/
def held (capacity : Nat) (queues : WorkSteal.State Item Id) : Nat :=
  tally (fun ring => (items capacity ring).length) queues.rings + queues.global.length

/-- A thread in the untimed wait, or about to enter it, counts one. -/
def untimed : Control → Nat
  | .enterWait | .waiting => 1
  | _ => 0

/-- The pool is awake: the count of sleepers is at most the number of workers, not all
workers are in the untimed wait, and between calls the counters are exact. -/
structure Awake (capacity : Nat) (role : Id → Role) (state : State Item Id) : Prop where
  sleepers : state.sleepNum ≤ workersNum role
  untimed : tally untimed state.controls < workersNum role
  counters : (∀ id, state.controls id = .outside) →
    state.totalJobs = held capacity state.queues ∧
      state.queues.globalNum = state.queues.global.length

/-- Before a step, fewer than 2^32 - 1 tasks are on their way through the pool, and a
thief that exchanges a head does so before 2^32 items have left the ring. -/
def few (state : State Item Id) (action : Action Item Id) : Bool :=
  state.queues.enqueued.length + 1 < state.queues.returned.length + 2 ^ 32 &&
    match action with
    | .proceed id => WorkSteal.fewPassed state.queues (.proceed id)
    | _ => true

end Mola.WorkerPool
