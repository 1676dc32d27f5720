import Mola.AsyncLocks
import Mathlib.Tactic.Common
import Mathlib.Algebra.Order.Ring.Nat

/-!
# The distributed lock

Processes share a lock of one zone and id through sequence nodes of ZooKeeper. Inside a
process, callers first compete for an asynchronous lock. The caller that has it creates a
node, unless the lock has one already, lists all nodes, sets a watch on the least one, and
runs its callback if that is its own. Otherwise it is parked at the front of the queue in
which local callers wait. The deletion of a watched node is reported to the process, whose
event thread then calls whatever is first in the queue.

A step is one operation of ZooKeeper or one taking of the spin lock, with the local code
up to the next one. A caller that enters through `acquire` keeps the spin lock until it is
parked or its callback has returned. The event thread keeps the lock table while it calls
what it took from the queue, so neither `lock` nor `unlock` starts then. Every other
thread of a process can work for any caller.

ZooKeeper executes each operation at once, gives increasing sequence numbers, and expires
no session. The creation of the parent nodes, other zones and ids, and a callback that
calls the lock again are not modelled.
-/

namespace Mola.DistributedLock

open AsyncLocks

/-- A callback in the wait queue: one that calls `acquire` again, or a caller that
`zk_lock` has parked. -/
inductive Entry where
  | retry (call : Nat)
  | parked (call : Nat)
deriving DecidableEq

/-- Where a call of `zk_lock` stands: before the creation of its node, before
`get_children`, before `exists`, and before its decision. The least number that it found
is an `int`. -/
inductive Stage where
  | enter
  | list
  | watch (least : Int)
  | decide (least : Int)
deriving DecidableEq

/-- Where a thread stands: outside, before the spin lock in `acquire`, in `zk_lock` with
or without the spin lock, before the spin lock in `release`, or stopped by the assertion
of `unlock`. -/
inductive Position where
  | idle
  | acquire (call : Nat)
  | locking (call : Nat) (stage : Stage) (spins : Bool)
  | release
  | aborted
deriving DecidableEq

/-- A process: its lock, the path of its node, whether the spin lock is kept, its threads
with the event thread as `none`, its watches on present nodes, and the deletions that were
not delivered to it. -/
structure Process where
  lock : AsyncLock Entry
  path : Option Nat
  spin : Bool
  threads : Option Nat → Position
  watches : List Nat
  events : List Nat

/-- All processes, the nodes of the lock, a bound of the numbers given so far, and the
callers between their callback and their `unlock`. -/
structure State where
  processes : Nat → Process
  nodes : List Nat
  last : Nat
  holders : List (Nat × Nat)

/-- A thread calls `lock` or `unlock`, a deletion is delivered, or a thread goes on. The
number is for a node that is created. -/
inductive Action where
  | lock (process thread call : Nat)
  | unlock (process thread call : Nat)
  | deliver (process seq : Nat)
  | proceed (process : Nat) (thread : Option Nat) (seq : Nat)

/-- Processes that have not used the lock. -/
def start : State where
  processes := fun _ => ⟨create, none, false, fun _ => .idle, [], []⟩
  nodes := []
  last := 0
  holders := []

/-- Move a thread. -/
def goto (process : Process) (thread : Option Nat) (position : Position) : Process :=
  { process with threads := Function.update process.threads thread position }

/-- Change a process. -/
def put (state : State) (id : Nat) (process : Process) : State :=
  { state with processes := Function.update state.processes id process }

/-- The number in a path as `get_least_seq` reads it: a conversion to a 32-bit `int`. -/
def toInt (seq : Nat) : Int := (seq : Int).bmod (2 ^ 32)

/-- The loop of `get_least_seq`, which starts at `INT_MAX`. -/
def leastSeq (nodes : List Nat) : Int :=
  nodes.foldl (fun least seq => if toInt seq < least then toInt seq else least) (2 ^ 31 - 1)

/-- Where a thread goes that calls a callback from the queue. -/
def called : Option Entry → Position
  | none => .idle
  | some (.retry call) => .acquire call
  | some (.parked call) => .locking call .enter false

/-- The end of `zk_lock`, which drops the spin lock if it is kept. -/
def leave (process : Process) (thread : Option Nat) (spins : Bool) : Process :=
  { goto process thread .idle with spin := process.spin && !spins }

/-- `acquire` with the closure that calls `zk_lock`. -/
def acquireStep (process : Process) (thread : Option Nat) (call : Nat) : Option Process :=
  if process.spin then none
  else
    match acquire process.lock (.retry call) with
    | (lock, true) =>
        some { goto process thread (.locking call .enter true) with lock := lock, spin := true }
    | (lock, false) => some { goto process thread .idle with lock := lock }

/-- `release` up to the callback that it took. -/
def releaseStep (process : Process) (thread : Option Nat) : Option Process :=
  if process.spin then none
  else some { goto process thread (called (release process.lock).2) with
    lock := (release process.lock).1 }

/-- `Lock::wait`. -/
def wait (process : Process) (call : Nat) : Process :=
  { process with lock := { process.lock with waitQue := .parked call :: process.lock.waitQue } }

/-- `exists`, which leaves a watch on a node that is present. -/
def watchStep (nodes : List Nat) (process : Process) (least : Int) : Process :=
  { process with
    watches := nodes.filter (fun seq : Nat => (seq : Int) = least) ++ process.watches }

/-- A step of `zk_lock`. -/
def lockingStep (state : State) (id : Nat) (thread : Option Nat) (call : Nat) (spins : Bool)
    (seq : Nat) : Stage → Option State
  | .enter =>
      let process := state.processes id
      match process.path with
      | some _ => some (put state id (goto process thread (.locking call .list spins)))
      | none =>
          if state.last ≤ seq then
            some { put state id { goto process thread (.locking call .list spins) with
                path := some seq } with
              nodes := state.nodes ++ [seq]
              last := seq + 1 }
          else none
  | .list =>
      some (put state id (goto (state.processes id) thread
        (.locking call (.watch (leastSeq state.nodes)) spins)))
  | .watch least =>
      some (put state id (goto (watchStep state.nodes (state.processes id) least) thread
        (.locking call (.decide least) spins)))
  | .decide least =>
      let process := state.processes id
      if process.path.map Int.ofNat = some least then
        some { put state id (leave process thread spins) with
          holders := (id, call) :: state.holders }
      else some (put state id (leave (wait process call) thread spins))

/-- The deletion of a node reaches the processes that watch it. -/
def report (seq : Nat) (process : Process) : Process :=
  if seq ∈ process.watches then
    { process with
      watches := process.watches.filter (fun other => other ≠ seq)
      events := process.events ++ [seq] }
  else process

/-- `unlock` up to its call of `release`. -/
def unlockStep (state : State) (id thread call : Nat) : State :=
  let process := state.processes id
  match process.path with
  | none => put state id (goto process (some thread) .aborted)
  | some seq =>
      if seq ∈ state.nodes then
        { processes := fun other => report seq
            (Function.update state.processes id
              { goto process (some thread) .release with path := none } other)
          nodes := state.nodes.erase seq
          last := state.last
          holders := state.holders.erase (id, call) }
      else put state id (goto process (some thread) .aborted)

/-- `Lock::notify` in the event thread. -/
def notify (process : Process) (seq : Nat) : Process :=
  { goto process none (called process.lock.waitQue.head?) with
    lock := { process.lock with waitQue := process.lock.waitQue.tail }
    events := process.events.erase seq }

/-- One step. `lock` and `unlock` need the lock table, which the event thread keeps while
it is busy. -/
def step (state : State) : Action → Option State
  | .lock id thread call =>
      let process := state.processes id
      if process.threads (some thread) = .idle ∧ process.threads none = .idle then
        some (put state id (goto process (some thread) (.acquire call)))
      else none
  | .unlock id thread call =>
      let process := state.processes id
      if process.threads (some thread) = .idle ∧ process.threads none = .idle ∧
          (id, call) ∈ state.holders then some (unlockStep state id thread call)
      else none
  | .deliver id seq =>
      let process := state.processes id
      if process.threads none = .idle ∧ process.spin = false ∧ seq ∈ process.events then
        some (put state id (notify process seq))
      else none
  | .proceed id thread seq =>
      match (state.processes id).threads thread with
      | .acquire call => (acquireStep (state.processes id) thread call).map (put state id)
      | .locking call stage spins => lockingStep state id thread call spins seq stage
      | .release => (releaseStep (state.processes id) thread).map (put state id)
      | _ => none

/-- The node that `exists` asks for is still there. -/
def stillThere (state : State) : Action → Bool
  | .proceed id thread _ =>
      match (state.processes id).threads thread with
      | .locking _ (.watch least) _ => state.nodes.any fun seq => (seq : Int) = least
      | _ => true
  | _ => true

/-- A parked caller will be called: a node with a smaller number than its own is watched,
or its deletion was not delivered yet. -/
def Awaited (nodes : List Nat) (process : Process) : Prop :=
  ∃ own seq, process.path = some own ∧ seq < own ∧
    (seq ∈ nodes ∧ seq ∈ process.watches ∨ seq ∈ process.events)

/-- No caller is parked without a watch or an event. -/
def NeverStranded (state : State) : Prop :=
  ∀ id call, .parked call ∈ (state.processes id).lock.waitQue →
    Awaited state.nodes (state.processes id)

/-- The loop of `get_least_seq` ends below its start and below every number it reads. -/
theorem foldl_least (nodes : List Nat) (least : Int) :
    nodes.foldl (fun least seq => if toInt seq < least then toInt seq else least) least ≤ least ∧
      ∀ seq ∈ nodes, nodes.foldl
        (fun least seq => if toInt seq < least then toInt seq else least) least ≤ toInt seq := by
  induction nodes generalizing least with
  | nil => exact ⟨Int.le_refl _, nofun⟩
  | cons first _ inductionHypothesis =>
    obtain ⟨below, all⟩ := inductionHypothesis (if toInt first < least then toInt first else least)
    have smaller : (if toInt first < least then toInt first else least) ≤ least ∧
        (if toInt first < least then toInt first else least) ≤ toInt first := by
      split <;> omega
    rw [List.foldl_cons]
    refine ⟨Int.le_trans below smaller.1, ?_⟩
    intro seq among
    rcases List.mem_cons.mp among with rfl | later
    · exact Int.le_trans below smaller.2
    · exact all seq later

theorem toInt_le (seq : Nat) : toInt seq ≤ seq := by
  have converted := Int.bmod_eq_emod (seq : Int) (2 ^ 32)
  unfold toInt
  split at converted <;> omega

theorem leastSeq_le {nodes : List Nat} {seq : Nat} (among : seq ∈ nodes) :
    leastSeq nodes ≤ seq :=
  Int.le_trans ((foldl_least nodes _).2 seq among) (toInt_le seq)

end Mola.DistributedLock
