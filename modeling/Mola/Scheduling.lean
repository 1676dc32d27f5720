import Mola.Mailbox
import Mola.Tallies
import Mathlib.Tactic.Common

/-!
# Delivering to an actor and executing it

Threads deliver messages to one actor and workers execute it. A deliverer whose
enqueue finds the mailbox BLOCKED puts the actor in the run queue. A worker takes
an entry of the run queue, runs the message loop up to the threshold of rounds,
and leaves by blocking the mailbox or by putting the actor back in the queue.

A step is one atomic operation of one thread with the local code that follows it.
Every worker has a position of its own, so that nothing in the model keeps two
workers out of the same actor. The scheduler is a count of entries: it hands out
each entry once. Callbacks do not exit, and what they compute is not modelled; a
callback that delivers a message does so as one of the delivering threads.

The token machine at the end is what the mailbox mark is for: every step of the
model either stays in place there or makes one of four moves.
-/

namespace Mola.Scheduling

open Mailbox Tallies

universe u v w

/-- Where a call of `deliver_message` stands: in `enqueue`, or about to put the
actor in the run queue because the mailbox was BLOCKED. -/
inductive Deliverer (Item : Type u) where
  | enqueue (call : Enqueue Item)
  | resume
deriving DecidableEq

/-- Where a worker stands. `start` to `blockExchange` are inside `execute`, with
the round of the message loop where it is live. A worker at `requeue` has been
told that the actor is resumable. -/
inductive Worker (Item : Type u) where
  | idle
  | start
  | next (round : Nat)
  | load (round : Nat)
  | exchange (round : Nat) (seen : Top Item)
  | invoke (round : Nat) (item : Item)
  | isBlocked
  | blockLoad
  | blockExchange
  | requeue
  | aborted
deriving DecidableEq

/-- The actor, its run-queue entries, and the positions of all threads. The last
field counts the items on the shared stack; no thread reads it. -/
structure State (Item : Type u) (Thread : Type v) (Id : Type w) where
  mailbox : Mailbox Item
  allocated : List Item
  deliverers : Thread → Deliverer Item
  workers : Id → Worker Item
  runq : Nat
  startup : Bool
  onStack : Nat

/-- A thread calls `deliver_message`, a thread goes on with its call, or a worker
goes on. The position decides what the step is; the copy loop is given fuel. -/
inductive Action (Item : Type u) (Thread : Type v) (Id : Type w) where
  | call (thread : Thread) (item : Item)
  | deliver (thread : Thread)
  | work (worker : Id) (fuel : Nat)

variable {Item : Type u} [DecidableEq Item] {Thread : Type v} [DecidableEq Thread]
  {Id : Type w} [DecidableEq Id]

/-- The call of `enqueue` inside a call of `deliver_message`. -/
def Deliverer.call : Deliverer Item → Enqueue Item
  | .enqueue call => call
  | .resume => .idle

/-- The priority of a message: replies come before everything else. -/
def getMsgPriority (reply : Item → Bool) (item : Item) : Nat :=
  if reply item then 0 else 1

/-- An actor that exists before any message, with the given number of run-queue
entries: none when it is created on demand, one when it is started with its
module. -/
def createInstance (lastp : Nat) (links : Item → Option Item) (entries : Nat) :
    State Item Thread Id where
  mailbox := Mailbox.create lastp links
  allocated := []
  deliverers := fun _ => .enqueue .idle
  workers := fun _ => .idle
  runq := entries
  startup := true
  onStack := 0

/-- The test at the top of the message loop. -/
def loop (threshold round : Nat) : Worker Item :=
  if round ≤ threshold then .next round else .isBlocked

/-- The round after a message: replies do not count. The counter is a 32-bit word. -/
def following (reply : Item → Bool) (round : Nat) (item : Item) : Nat :=
  if reply item then round else (round + 1) % 2 ^ 32

/-- Where a step of `dequeue` leaves the worker. No message ends the loop. -/
def fetched (round : Nat) : Fetch Item → Worker Item
  | .returned none => .isBlocked
  | .returned (some item) => .invoke round item
  | .load => .load round
  | .exchange seen => .exchange round seen
  | .fault => .aborted

/-- The link node of a message is freed when the message is taken out of it. -/
def freed (allocated : List Item) : Fetch Item → List Item
  | .returned (some item) => allocated.filter (fun other => other ≠ item)
  | _ => allocated

/-- Record where a step left a worker's call of `dequeue`. -/
def settle (state : State Item Thread Id) (worker : Id) (round : Nat) (mailbox : Mailbox Item)
    (fetch : Fetch Item) : State Item Thread Id :=
  { state with
    mailbox := mailbox
    allocated := freed state.allocated fetch
    workers := Function.update state.workers worker (fetched round fetch) }

/-- Move one worker. -/
def place (state : State Item Thread Id) (worker : Id) (position : Worker Item) :
    State Item Thread Id :=
  { state with workers := Function.update state.workers worker position }

/-- Move one delivering thread. -/
def move (state : State Item Thread Id) (thread : Thread) (position : Deliverer Item) :
    State Item Thread Id :=
  { state with deliverers := Function.update state.deliverers thread position }

/-- A step of `deliver_message`. -/
def deliverStep (state : State Item Thread Id) (thread : Thread) :
    Deliverer Item → Option (State Item Thread Id)
  | .enqueue .idle => none
  | .enqueue (.load item) =>
      match enqueueLoad state.mailbox item with
      | none => some (move state thread (.enqueue .idle))
      | some (seen, mailbox) =>
          some { move state thread (.enqueue (.exchange item seen)) with mailbox := mailbox }
  | .enqueue (.exchange item seen) =>
      match enqueueExchange state.mailbox item seen with
      | none => some (move state thread (.enqueue (.load item)))
      | some (status, mailbox) =>
          some { move state thread (if status = .unblocked then .resume else .enqueue .idle) with
            mailbox := mailbox
            onStack := state.onStack + 1 }
  | .resume => some { move state thread (.enqueue .idle) with runq := state.runq + 1 }

/-- A step of a worker, from the run queue through `execute` and back. -/
def workStep (threshold : Nat) (reply : Item → Bool) (fuel : Nat) (state : State Item Thread Id)
    (worker : Id) : Worker Item → Option (State Item Thread Id)
  | .idle =>
      if 0 < state.runq then
        some { place state worker .start with runq := state.runq - 1 }
      else none
  | .start => some { place state worker (loop threshold 1) with startup := false }
  | .next round =>
      some (settle state worker round (dequeueEnter 2 state.mailbox).2
        (dequeueEnter 2 state.mailbox).1)
  | .load round => some (settle state worker round state.mailbox (dequeueLoad state.mailbox))
  | .exchange round seen =>
      match dequeueExchange 2 (getMsgPriority reply) fuel state.mailbox seen with
      | none => none
      | some (moved, fetch, mailbox) =>
          some { settle state worker round mailbox fetch with
            onStack := if moved = [] then state.onStack else 0 }
  | .invoke round item => some (place state worker (loop threshold (following reply round item)))
  | .isBlocked =>
      if isBlocked state.mailbox then some (place state worker .idle)
      else some (place state worker (if tryBlockEnter state.mailbox then .requeue else .blockLoad))
  | .blockLoad =>
      some (place state worker (if tryBlockLoad state.mailbox then .blockExchange else .requeue))
  | .blockExchange =>
      match tryBlockExchange state.mailbox with
      | none => some (place state worker .blockLoad)
      | some mailbox => some { place state worker .idle with mailbox := mailbox }
  | .requeue => some { place state worker .idle with runq := state.runq + 1 }
  | .aborted => none

/-- One step of the system. -/
def step (threshold : Nat) (reply : Item → Bool) (state : State Item Thread Id) :
    Action Item Thread Id → Option (State Item Thread Id)
  | .call thread item =>
      if state.deliverers thread = .enqueue .idle ∧ item ∉ state.allocated then
        some { move state thread (.enqueue (.load item)) with
          allocated := item :: state.allocated }
      else none
  | .deliver thread => deliverStep state thread (state.deliverers thread)
  | .work worker fuel => workStep threshold reply fuel state worker (state.workers worker)

/-- A deliverer that owes the run queue an entry. -/
def Deliverer.resuming : Deliverer Item → Nat
  | .resume => 1
  | .enqueue _ => 0

/-- A worker that has taken an entry and has neither blocked the mailbox nor put the
entry back. -/
def Worker.executing : Worker Item → Nat
  | .idle => 0
  | _ => 1

/-- What the mailbox mark and the threads amount to: whether the mailbox is
BLOCKED, how many deliverers owe an entry, and how many entries and executions
there are. -/
structure Tokens where
  blocked : Bool
  resuming : Nat
  busy : Nat

/-- The moves of the token machine. -/
inductive Tokens.Moves : Tokens → Tokens → Prop
  | stay (tokens : Tokens) : Moves tokens tokens
  | unblock (resuming busy : Nat) : Moves ⟨true, resuming, busy⟩ ⟨false, resuming + 1, busy⟩
  | resume (blocked : Bool) (resuming busy : Nat) :
      Moves ⟨blocked, resuming + 1, busy⟩ ⟨blocked, resuming, busy + 1⟩
  | block (resuming busy : Nat) : Moves ⟨false, resuming, busy + 1⟩ ⟨true, resuming, busy⟩
  | leave (resuming busy : Nat) : Moves ⟨true, resuming, busy + 1⟩ ⟨true, resuming, busy⟩

/-- A worker's pending exchange never saw the BLOCKED mark, which ends a call of
`dequeue` at its load. -/
def Unmarked (worker : Worker Item) : Prop := ∀ round, worker ≠ .exchange round .blocked

omit [DecidableEq Item] in
/-- A call of `dequeue` that has no pending exchange of BLOCKED leaves its worker
without one. -/
theorem fetched_unmarked (round : Nat) {fetch : Fetch Item} (pending : fetch ≠ .exchange .blocked) :
    Unmarked (fetched round fetch) := by
  intro other
  cases fetch with
  | returned item => cases item <;> simp [fetched]
  | load | fault => simp [fetched]
  | exchange seen =>
    have unseen : seen ≠ .blocked := fun same => pending (same ▸ rfl)
    simp [fetched, unseen]

omit [DecidableEq Thread] in
/-- A step of a worker moves that worker alone, and never to a pending exchange of
the BLOCKED mark. -/
theorem work_position {threshold : Nat} {reply : Item → Bool} {fuel : Nat}
    {state next : State Item Thread Id} {worker : Id}
    (taken : workStep threshold reply fuel state worker (state.workers worker) = some next) :
    ∃ position, next.workers = Function.update state.workers worker position ∧
      Unmarked position := by
  have looping : ∀ round, Unmarked (loop threshold round : Worker Item) := by
    intro round other
    unfold loop
    split <;> simp
  cases position : state.workers worker with
  | idle =>
    rw [position] at taken
    simp only [workStep, Option.ite_none_right_eq_some, Option.some.injEq] at taken
    obtain ⟨_, rfl⟩ := taken
    exact ⟨.start, rfl, by simp [Unmarked]⟩
  | start =>
    simp only [position, workStep] at taken
    cases taken
    exact ⟨_, rfl, looping 1⟩
  | next round =>
    simp only [position, workStep] at taken
    cases taken
    exact ⟨_, rfl, fetched_unmarked round (dequeueEnter_fetch 2 state.mailbox .blocked)⟩
  | load round =>
    simp only [position, workStep] at taken
    cases taken
    refine ⟨_, rfl, fetched_unmarked round ?_⟩
    cases pointer : state.mailbox.stack <;> simp [dequeueLoad, pointer]
  | exchange round seen =>
    cases exchanged : dequeueExchange 2 (getMsgPriority reply) fuel state.mailbox seen with
    | none => simp [position, workStep, exchanged] at taken
    | some outcome =>
      simp only [position, workStep, exchanged] at taken
      cases taken
      exact ⟨_, rfl, fetched_unmarked round
        (dequeueExchange_fetch 2 _ fuel _ outcome.2.2 seen .blocked outcome.1 outcome.2.1 exchanged)⟩
  | invoke =>
    simp only [position, workStep] at taken
    cases taken
    exact ⟨_, rfl, looping _⟩
  | isBlocked =>
    simp only [position, workStep] at taken
    split at taken <;> obtain rfl := Option.some.inj taken
    · exact ⟨.idle, rfl, by simp [Unmarked]⟩
    · exact ⟨_, rfl, by split <;> simp [Unmarked]⟩
  | blockLoad =>
    simp only [position, workStep] at taken
    cases taken
    exact ⟨_, rfl, by split <;> simp [Unmarked]⟩
  | blockExchange =>
    simp only [position, workStep] at taken
    split at taken <;> obtain rfl := Option.some.inj taken
    · exact ⟨.blockLoad, rfl, by simp [Unmarked]⟩
    · exact ⟨.idle, rfl, by simp [Unmarked]⟩
  | requeue =>
    simp only [position, workStep] at taken
    cases taken
    exact ⟨.idle, rfl, by simp [Unmarked]⟩
  | aborted => simp [position, workStep] at taken

omit [DecidableEq Id] in
/-- A step of a delivering thread moves no worker. -/
theorem deliver_workers {state next : State Item Thread Id} {thread : Thread}
    (taken : deliverStep state thread (state.deliverers thread) = some next) :
    next.workers = state.workers := by
  unfold deliverStep at taken
  split at taken
  · simp at taken
  · split at taken <;> obtain rfl := Option.some.inj taken <;> rfl
  · split at taken <;> obtain rfl := Option.some.inj taken <;> rfl
  · cases taken
    rfl

/-- No step leaves a worker with a pending exchange of the BLOCKED mark. -/
theorem step_unmarked {threshold : Nat} {reply : Item → Bool} {state next : State Item Thread Id}
    {action : Action Item Thread Id} (unmarked : ∀ worker, Unmarked (state.workers worker))
    (taken : step threshold reply state action = some next) :
    ∀ worker, Unmarked (next.workers worker) := by
  cases action with
  | call =>
    simp only [step, Option.ite_none_right_eq_some, Option.some.injEq] at taken
    obtain ⟨_, rfl⟩ := taken
    exact unmarked
  | deliver =>
    rw [deliver_workers taken]
    exact unmarked
  | work worker =>
    obtain ⟨position, moved, kept⟩ := work_position taken
    intro other
    rw [moved]
    by_cases same : other = worker
    · rw [same, Function.update_self]
      exact kept
    · rw [Function.update_of_ne same]
      exact unmarked other

section
variable [Fintype Thread] [Fintype Id]

/-- The tokens of a state. -/
def tokens (state : State Item Thread Id) : Tokens where
  blocked := isBlocked state.mailbox
  resuming := tally Deliverer.resuming state.deliverers
  busy := state.runq + tally Worker.executing state.workers

variable {threshold : Nat} {reply : Item → Bool} {state next : State Item Thread Id}

omit [DecidableEq Thread] [DecidableEq Id] in
theorem tokens_createInstance (lastp : Nat) (links : Item → Option Item) (entries : Nat) :
    tokens (createInstance lastp links entries : State Item Thread Id) = ⟨true, 0, entries⟩ := by
  simp [tokens, createInstance, create, isBlocked, tally, Deliverer.resuming, Worker.executing]

/-- Only a deliverer's exchange for a BLOCKED pointer may unblock the mailbox. -/
def UnblocksBy (state next : State Item Thread Id) (action : Action Item Thread Id) : Prop :=
  isBlocked state.mailbox = true → isBlocked next.mailbox = false →
    ∃ thread item, action = .deliver thread ∧
      state.deliverers thread = .enqueue (.exchange item .blocked)

variable (action : Action Item Thread Id)

omit [DecidableEq Thread] [DecidableEq Id] [Fintype Thread] [Fintype Id] in
theorem unblocksBy_kept (mark : isBlocked next.mailbox = isBlocked state.mailbox) :
    UnblocksBy state next action := by
  intro before after
  rw [mark, before] at after
  exact absurd after (by decide)

omit [DecidableEq Thread] [DecidableEq Id] in
/-- A step that keeps the mark, the debts and the load stays in place. -/
theorem stays (mark : isBlocked next.mailbox = isBlocked state.mailbox)
    (debts : tally Deliverer.resuming next.deliverers = tally Deliverer.resuming state.deliverers)
    (load : next.runq + tally Worker.executing next.workers =
      state.runq + tally Worker.executing state.workers) :
    (tokens state).Moves (tokens next) ∧ UnblocksBy state next action := by
  refine ⟨?_, unblocksBy_kept action mark⟩
  have same : tokens next = tokens state := by simp only [tokens, mark, debts, load]
  rw [same]
  exact .stay _

omit [DecidableEq Id] in
/-- The steps of a delivering thread: it stays, it unblocks the mailbox and owes an
entry, or it pays the entry. -/
theorem deliver_moves {thread : Thread}
    (taken : deliverStep state thread (state.deliverers thread) = some next) :
    (tokens state).Moves (tokens next) ∧ UnblocksBy state next (.deliver thread) := by
  cases position : state.deliverers thread with
  | resume =>
    simp only [position, deliverStep] at taken
    cases taken
    refine ⟨?_, unblocksBy_kept _ rfl⟩
    have paid := tally_update Deliverer.resuming state.deliverers thread (.enqueue .idle)
    simp only [position, Deliverer.resuming, Nat.add_zero] at paid
    simp only [tokens, move, ← paid, Nat.add_right_comm state.runq 1]
    exact .resume _ _ _
  | enqueue call =>
    have undebted : ∀ other : Enqueue Item,
        tally Deliverer.resuming (Function.update state.deliverers thread (.enqueue other)) =
          tally Deliverer.resuming state.deliverers := by
      intro other
      exact tally_same (by rw [position]; rfl)
    cases call with
    | idle => simp [position, deliverStep] at taken
    | load item =>
      cases loaded : enqueueLoad state.mailbox item with
      | none =>
        simp only [position, deliverStep, loaded] at taken
        cases taken
        exact stays _ rfl (undebted _) rfl
      | some result =>
        have mark : isBlocked result.2 = isBlocked state.mailbox := by
          simp only [enqueueLoad, Option.ite_none_left_eq_some, Option.some.injEq] at loaded
          rw [← loaded.2, isBlocked, isBlocked]
        simp only [position, deliverStep, loaded] at taken
        cases taken
        exact stays _ mark (undebted _) rfl
    | exchange item seen =>
      by_cases current : state.mailbox.stack = seen
      · simp only [position, deliverStep, enqueueExchange, current, if_true,
          Option.some.injEq] at taken
        subst taken
        by_cases wasBlocked : seen = .blocked
        · subst wasBlocked
          refine ⟨?_, fun _ _ => ⟨thread, item, rfl, position⟩⟩
          have owed := tally_update Deliverer.resuming state.deliverers thread .resume
          simp only [position, Deliverer.resuming, Nat.add_zero] at owed
          simp only [tokens, move, if_true, owed, isBlocked, current, decide_true,
            reduceCtorEq, decide_false]
          exact .unblock _ _
        · simp only [wasBlocked, if_false, reduceCtorEq]
          exact stays _ (by simp [isBlocked, current, wasBlocked]) (undebted _) rfl
      · simp only [position, deliverStep, enqueueExchange, current, if_false,
          Option.some.injEq] at taken
        subst taken
        exact stays _ rfl (undebted _) rfl

omit [DecidableEq Item] in
theorem fetched_executing (round : Nat) (fetch : Fetch Item) :
    (fetched round fetch).executing = 1 := by
  cases fetch with
  | returned item => cases item <;> rfl
  | load | exchange | fault => rfl

omit [DecidableEq Item] in
theorem loop_executing (threshold round : Nat) :
    (loop threshold round : Worker Item).executing = 1 := by
  unfold loop
  split <;> rfl

omit [DecidableEq Thread] in
theorem stays_inside {worker : Id} (fuel : Nat) {position : Worker Item}
    (inside : (state.workers worker).executing = 1) (still : position.executing = 1)
    (mark : isBlocked next.mailbox = isBlocked state.mailbox)
    (moved : next.workers = Function.update state.workers worker position)
    (deliverers : next.deliverers = state.deliverers) (runq : next.runq = state.runq) :
    (tokens state).Moves (tokens next) ∧ UnblocksBy state next (.work worker fuel) := by
  apply stays _ mark (by rw [deliverers])
  rw [runq, moved, tally_same (still.trans inside.symm)]

omit [DecidableEq Thread] in
/-- A worker that goes out takes its token with it, from a mailbox that is or has
just been BLOCKED. -/
theorem leaves (worker : Id) (fuel : Nat) (mailbox : Mailbox Item)
    (inside : (state.workers worker).executing = 1) (after : isBlocked mailbox = true) :
    (tokens state).Moves (tokens { place state worker .idle with mailbox := mailbox }) ∧
      UnblocksBy state { place state worker .idle with mailbox := mailbox }
        (.work worker fuel) := by
  refine ⟨?_, fun _ unblocked => absurd (after.symm.trans unblocked) (by decide)⟩
  have gone := tally_update Worker.executing state.workers worker .idle
  rw [inside] at gone
  have load : state.runq + tally Worker.executing state.workers =
      state.runq + tally Worker.executing (Function.update state.workers worker .idle) + 1 := by
    simp only [Worker.executing] at gone ⊢
    omega
  simp only [tokens, place, after, load]
  cases isBlocked state.mailbox with
  | true => exact .leave _ _
  | false => exact .block _ _

omit [DecidableEq Thread] in
/-- The steps of a worker: it stays, it blocks the mailbox and leaves, or it finds
the mailbox BLOCKED and leaves. -/
theorem work_moves {worker : Id} {fuel : Nat} (unmarked : Unmarked (state.workers worker))
    (taken : workStep threshold reply fuel state worker (state.workers worker) = some next) :
    (tokens state).Moves (tokens next) ∧ UnblocksBy state next (.work worker fuel) := by
  cases position : state.workers worker with
  | idle =>
    rw [position] at taken
    simp only [workStep, Option.ite_none_right_eq_some, Option.some.injEq] at taken
    obtain ⟨queued, rfl⟩ := taken
    have entered := tally_update Worker.executing state.workers worker .start
    simp only [position, Worker.executing, Nat.add_zero] at entered
    refine stays _ rfl rfl ?_
    simp only [place, entered]
    omega
  | start | invoke =>
    simp only [position, workStep] at taken
    cases taken
    exact stays_inside fuel (by rw [position]; rfl) (loop_executing _ _) rfl rfl rfl rfl
  | next =>
    simp only [position, workStep] at taken
    cases taken
    exact stays_inside fuel (by rw [position]; rfl) (fetched_executing _ _)
      (by simp only [settle, isBlocked, dequeueEnter_stack]) rfl rfl rfl
  | load =>
    simp only [position, workStep] at taken
    cases taken
    exact stays_inside fuel (by rw [position]; rfl) (fetched_executing _ _) rfl rfl rfl
      rfl
  | exchange round seen =>
    cases exchanged : dequeueExchange 2 (getMsgPriority reply) fuel state.mailbox seen with
    | none => simp [position, workStep, exchanged] at taken
    | some outcome =>
      obtain ⟨moved, fetch, mailbox⟩ := outcome
      have mark : isBlocked mailbox = isBlocked state.mailbox := by
        rcases dequeueExchange_stack _ _ _ _ _ _ _ _ exchanged with ⟨current, emptied⟩ | ⟨_, rfl⟩
        · have unseen : seen ≠ .blocked := by
            rintro rfl
            exact unmarked round position
          simp [isBlocked, emptied, current, unseen]
        · rfl
      simp only [position, workStep, exchanged] at taken
      cases taken
      exact stays_inside fuel (by rw [position]; rfl) (fetched_executing _ _) mark rfl
        rfl rfl
  | isBlocked =>
    cases blocked : isBlocked state.mailbox with
    | true =>
      simp only [position, workStep, blocked, if_true] at taken
      cases taken
      exact leaves worker fuel state.mailbox (by rw [position]; rfl) blocked
    | false =>
      simp only [position, workStep, blocked, Bool.false_eq_true, if_false,
        Option.some.injEq] at taken
      subst taken
      exact stays_inside fuel (by rw [position]; rfl) (by split <;> rfl) rfl rfl rfl rfl
  | blockLoad =>
    simp only [position, workStep] at taken
    cases taken
    exact stays_inside fuel (by rw [position]; rfl) (by split <;> rfl) rfl rfl rfl rfl
  | blockExchange =>
    by_cases vacant : state.mailbox.stack = .empty
    · simp only [position, workStep, tryBlockExchange, vacant, if_true] at taken
      cases taken
      exact leaves worker fuel _ (by rw [position]; rfl) (by simp [isBlocked])
    · simp only [position, workStep, tryBlockExchange, vacant, if_false,
        Option.some.injEq] at taken
      subst taken
      exact stays_inside fuel (by rw [position]; rfl) rfl rfl rfl rfl rfl
  | requeue =>
    simp only [position, workStep] at taken
    cases taken
    have gone := tally_update Worker.executing state.workers worker .idle
    simp only [position, Worker.executing, Nat.add_zero] at gone
    refine stays _ rfl rfl ?_
    simp only [place, ← gone]
    omega
  | aborted => simp [position, workStep] at taken

/-- Every step of the system is a move of the token machine. -/
theorem step_moves (unmarked : ∀ worker, Unmarked (state.workers worker))
    (taken : step threshold reply state action = some next) :
    (tokens state).Moves (tokens next) ∧ UnblocksBy state next action := by
  cases action with
  | call =>
    simp only [step, Option.ite_none_right_eq_some, Option.some.injEq] at taken
    obtain ⟨⟨position, _⟩, rfl⟩ := taken
    exact stays _ rfl (tally_same (by rw [position]; rfl)) rfl
  | deliver => exact deliver_moves taken
  | work worker => exact work_moves (unmarked worker) taken

end

end Mola.Scheduling
