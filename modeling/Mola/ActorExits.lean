import Mola.MailboxClose
import Mola.Routing
import Mola.SchedulingRuns

/-!
# Messages that race with an exit

A message reaches an instance in two parts: `dispatch` looks the instance up under the lock of
the module, and `deliver_message` enqueues the message without it. An instance leaves in three:
`execute` closes the mailbox when a callback exits, the destructor erases the instance from the
map under the lock, and the memory is freed.

Nothing holds the parts together. A lookup may find an instance that is closed and not erased
yet, and an instance that was found may close before the message is enqueued. Either way the
mailbox refuses the message, and `deliver_message` answers that with a fatal assertion in front
of its error return. If the memory is freed first, it is used after that.

An instance is the scheduling model of its actor with a phase. Every other step of that model
is taken as it is, so that its token law says who may still reach an instance that is leaving.
-/

namespace Mola.ActorExits

open Mailbox Runs Routing Scheduling SchedulingRuns

universe u v w

/-- How far an instance has left. -/
inductive Phase where
  | alive
  | closed
  | removed
  | freed
deriving DecidableEq

/-- An instance: what the module knows of it, its mailbox and threads, and its phase. -/
structure Instance (Item : Type u) (Thread : Type v) (Id : Type w) where
  actor : Routing.Actor
  state : Scheduling.State Item Thread Id
  phase : Phase

/-- How the process ends: the fatal assertion of `deliver_message`, or the use of an instance
after its memory was freed. -/
inductive Fault where
  | undelivered
  | dangling
deriving DecidableEq

/-- A module with its instances by address, the instance that each thread's call of `dispatch`
has found, and the phase in which each returned call left its instance, newest first. -/
structure System (Item : Type u) (Thread : Type v) (Id : Type w) where
  module : Routing.Module
  instances : Nat → Option (Instance Item Thread Id)
  calls : Thread → Option Nat
  delivered : List Phase
  fault : Option Fault

/-- The module's constants, which messages are replies, and what the memory of a new mailbox
holds. -/
structure Setup (Item : Type u) where
  nodeId : UInt32
  mId : UInt32
  threshold : Nat
  reply : Item → Bool
  lastp : Nat
  links : Item → Option Item

/-- A thread looks an instance up for a message, or goes on in `deliver_message`. A worker goes
on, or the callback that it runs exits; then the instance is erased and freed. -/
inductive Action (Item : Type u) (Thread : Type v) (Id : Type w) where
  | dispatch (thread : Thread) (instId : UInt32) (item : Item)
  | deliver (thread : Thread)
  | work (address : Nat) (worker : Id) (fuel : Nat)
  | exit (address : Nat) (worker : Id) (fuel : Nat)
  | remove (address : Nat)
  | free (address : Nat)

variable {Item : Type u} [DecidableEq Item] {Thread : Type v} [DecidableEq Thread]
  {Id : Type w} [DecidableEq Id]

/-- A module without instances. -/
def start (setup : Setup Item) : System Item Thread Id where
  module := (Routing.start setup.nodeId setup.mId).module
  instances := fun _ => none
  calls := fun _ => none
  delivered := []
  fault := none

/-- An instance as `create_instance` leaves it. -/
def newInstance (setup : Setup Item) (actor : Routing.Actor) : Instance Item Thread Id where
  actor := actor
  state := Scheduling.createInstance setup.lastp setup.links 0
  phase := .alive

/-- Replace an instance. -/
def put (system : System Item Thread Id) (address : Nat) (changed : Instance Item Thread Id) :
    System Item Thread Id :=
  { system with instances := Function.update system.instances address (some changed) }

/-- `dispatch` up to the call of `deliver_message`: the instance that the lookup finds or has
just created, and the call that begins there. -/
def lookup (setup : Setup Item) (system : System Item Thread Id) (thread : Thread)
    (instId : UInt32) (item : Item) : Option (System Item Thread Id) :=
  let (actor, module) := selectOrCreateActorInstance system.module instId
  let found := (system.instances actor.address).getD (newInstance setup actor)
  match Scheduling.step setup.threshold setup.reply found.state (.call thread item) with
  | none => none
  | some state =>
      some { put system actor.address { found with state := state } with
        module := module
        calls := Function.update system.calls thread (some actor.address) }

/-- The mailbox refuses the message that a thread is about to enqueue. -/
def refuses (state : Scheduling.State Item Thread Id) (thread : Thread) : Bool :=
  match state.deliverers thread with
  | .enqueue (.load item) => (enqueueLoad state.mailbox item).isNone
  | _ => false

/-- A step of `deliver_message`. A call that returns leaves its thread idle. -/
def deliver (setup : Setup Item) (system : System Item Thread Id) (thread : Thread)
    (address : Nat) (found : Instance Item Thread Id) : Option (System Item Thread Id) :=
  if found.phase = .freed then some { system with fault := some .dangling }
  else if refuses found.state thread then some { system with fault := some .undelivered }
  else
    match Scheduling.step setup.threshold setup.reply found.state (.deliver thread) with
    | none => none
    | some state =>
        let next := put system address { found with state := state }
        if state.deliverers thread = .enqueue .idle then
          some { next with
            calls := Function.update system.calls thread none
            delivered := found.phase :: system.delivered }
        else some next

/-- The callback that a worker runs exits: `execute` catches the code and closes the mailbox.
The worker is not inside `execute` any more. -/
def exit (found : Instance Item Thread Id) (worker : Id) (fuel : Nat) :
    Option (Instance Item Thread Id) :=
  match found.state.workers worker with
  | .invoke _ _ =>
      match Mailbox.close 2 fuel found.state.mailbox with
      | none => none
      | some closing => some { found with
          state := { place found.state worker .idle with
            mailbox := closing.mailbox
            allocated := found.state.allocated.filter (fun item => item ∉ closing.deleted) }
          phase := .closed }
  | _ => none

/-- One step. Nothing follows a fault. -/
def step (setup : Setup Item) (system : System Item Thread Id) (action : Action Item Thread Id) :
    Option (System Item Thread Id) :=
  match system.fault, action with
  | some _, _ => none
  | none, .dispatch thread instId item =>
      match system.calls thread with
      | some _ => none
      | none => lookup setup system thread instId item
  | none, .deliver thread =>
      match system.calls thread with
      | none => none
      | some address =>
          match system.instances address with
          | none => none
          | some found => deliver setup system thread address found
  | none, .work address worker fuel =>
      match system.instances address with
      | none => none
      | some found =>
          (Scheduling.step setup.threshold setup.reply found.state (.work worker fuel)).map
            fun state => put system address { found with state := state }
  | none, .exit address worker fuel =>
      match system.instances address with
      | none => none
      | some found => (exit found worker fuel).map (put system address)
  | none, .remove address =>
      match system.instances address with
      | none => none
      | some found =>
          if found.phase = .closed then
            some { put system address { found with phase := .removed } with
              module := onRemoveInstance system.module found.actor }
          else none
  | none, .free address =>
      match system.instances address with
      | none => none
      | some found =>
          if found.phase = .removed then
            some (put system address { found with phase := .freed })
          else none

/-- The phase of the instance at an address. -/
def phaseOf (system : System Item Thread Id) (address : Nat) : Option Phase :=
  (system.instances address).map Instance.phase

/-- No call has reached the fatal assertion or freed memory, and none is about to: every call
that has not returned is at an instance that is alive. -/
def Handled (system : System Item Thread Id) : Prop :=
  system.fault = none ∧
    ∀ thread address, system.calls thread = some address →
      phaseOf system address = some .alive

/-- A step without a race: a lookup does not find an instance that is leaving, and an instance
does not close its mailbox while a call that found it has not returned. -/
def Quiet (system : System Item Thread Id) : Action Item Thread Id → Prop
  | .dispatch _ instId _ =>
      ∀ actor, system.module.instMap instId = some actor →
        phaseOf system actor.address = some .alive
  | .exit address _ _ => ∀ thread, system.calls thread ≠ some address
  | _ => True

section
variable [Fintype Thread] [Fintype Id]

/-- What every instance keeps. As long as it is alive it has the tokens of an actor that is
created on demand, and its mailbox is open. From the close on it has no token, and its mailbox
stays closed. -/
structure Kept (found : Instance Item Thread Id) : Prop where
  unmarked : ∀ worker, Unmarked (found.state.workers worker)
  unclosed : ∀ thread item, found.state.deliverers thread ≠ .enqueue (.exchange item .closed)
  present : found.phase = .alive →
    OnDemand (tokens found.state) ∧ found.state.mailbox.stack ≠ .closed
  leaving : found.phase ≠ .alive →
    tokens found.state = ⟨false, 0, 0⟩ ∧ found.state.mailbox.stack = .closed

variable (setup : Setup Item) (threshold : Nat) (system : System Item Thread Id)
  (reply : Item → Bool) (found : Instance Item Thread Id) {state : Scheduling.State Item Thread Id}

omit [DecidableEq Thread] [DecidableEq Id] in
/-- A new instance keeps the law. -/
theorem newInstance_kept (actor : Routing.Actor) :
    Kept (newInstance setup actor : Instance Item Thread Id) where
  unmarked _ _ := by simp [newInstance, Scheduling.createInstance]
  unclosed _ _ := by simp [newInstance, Scheduling.createInstance]
  present _ := by
    refine ⟨?_, by simp [newInstance, Scheduling.createInstance, Mailbox.create]⟩
    rw [newInstance, tokens_createInstance]
    rfl
  leaving gone := absurd rfl gone

theorem onDemand_single {tokens : Tokens} (law : OnDemand tokens) :
    tokens.resuming + tokens.busy ≤ 1 := by
  unfold OnDemand at law
  rw [law]
  split <;> decide

theorem moves_none {after : Tokens} (moves : Tokens.Moves ⟨false, 0, 0⟩ after) :
    after = ⟨false, 0, 0⟩ := by
  cases moves
  rfl

omit [DecidableEq Thread] [Fintype Thread] in
/-- Without an entry and an execution, no worker takes a step. -/
theorem work_none (fuel : Nat) (worker : Id)
    (unused : state.runq + Tallies.tally Worker.executing state.workers = 0) :
    workStep threshold reply fuel state worker (state.workers worker) = none := by
  have outside := Tallies.weight_le_tally Worker.executing state.workers worker
  cases position : state.workers worker with
  | idle =>
    have unqueued : ¬0 < state.runq := by omega
    simp only [workStep, if_neg unqueued]
  | _ =>
    simp only [position, Worker.executing] at outside
    omega

omit [DecidableEq Thread] [Fintype Thread] [Fintype Id] in
/-- A worker does not close an open mailbox, and moves no delivering thread. -/
theorem work_open {threshold : Nat} {reply : Item → Bool} {fuel : Nat}
    {next : Scheduling.State Item Thread Id} {worker : Id}
    (opened : state.mailbox.stack ≠ .closed)
    (taken : workStep threshold reply fuel state worker (state.workers worker) = some next) :
    next.mailbox.stack ≠ .closed ∧ next.deliverers = state.deliverers := by
  cases position : state.workers worker with
  | idle =>
    simp only [position, workStep, Option.ite_none_right_eq_some, Option.some.injEq] at taken
    obtain ⟨-, rfl⟩ := taken
    exact ⟨opened, rfl⟩
  | next =>
    simp only [position, workStep] at taken
    cases taken
    exact ⟨(dequeueEnter_stack 2 state.mailbox).symm ▸ opened, rfl⟩
  | exchange _ seen =>
    cases exchanged : dequeueExchange 2 (getMsgPriority reply) fuel state.mailbox seen with
    | none => simp [position, workStep, exchanged] at taken
    | some outcome =>
      simp only [position, workStep, exchanged] at taken
      cases taken
      refine ⟨?_, rfl⟩
      rcases dequeueExchange_stack 2 _ fuel _ outcome.2.2 seen outcome.1 outcome.2.1 exchanged with
        ⟨-, emptied⟩ | ⟨-, same⟩
      · simp [settle, emptied]
      · exact same.symm ▸ opened
  | isBlocked =>
    simp only [position, workStep] at taken
    split at taken <;> obtain rfl := Option.some.inj taken <;> exact ⟨opened, rfl⟩
  | blockExchange =>
    simp only [position, workStep, tryBlockExchange] at taken
    split at taken
    · cases taken
      exact ⟨opened, rfl⟩
    · rename_i mailbox blocked
      simp only [Option.ite_none_right_eq_some, Option.some.injEq] at blocked
      obtain ⟨-, rfl⟩ := blocked
      cases taken
      exact ⟨by simp, rfl⟩
  | aborted => simp [position, workStep] at taken
  | _ =>
    simp only [position, workStep] at taken
    cases taken
    exact ⟨opened, rfl⟩

omit [DecidableEq Id] [Fintype Thread] [Fintype Id] in
/-- A step of `deliver_message` neither closes the mailbox nor opens it, and the pointer that it
keeps for its exchange is not the CLOSED mark. -/
theorem deliver_closed {next : Scheduling.State Item Thread Id} {thread : Thread}
    (unclosed : ∀ thread item, state.deliverers thread ≠ .enqueue (.exchange item .closed))
    (taken : deliverStep state thread (state.deliverers thread) = some next) :
    (next.mailbox.stack = .closed ↔ state.mailbox.stack = .closed) ∧
      ∀ thread item, next.deliverers thread ≠ .enqueue (.exchange item .closed) := by
  have others (position : Deliverer Item)
      (kept : ∀ item, position ≠ .enqueue (.exchange item .closed)) (other : Thread) (item : Item) :
      Function.update state.deliverers thread position other ≠
        .enqueue (.exchange item .closed) := by
    exact (Function.forall_update_iff state.deliverers fun _ deliverer => ∀ item,
      deliverer ≠ .enqueue (.exchange item .closed)).mpr
      ⟨kept, fun other _ => unclosed other⟩ other item
  cases position : state.deliverers thread with
  | resume =>
    simp only [position, deliverStep] at taken
    cases taken
    exact ⟨Iff.rfl, others _ (by simp)⟩
  | enqueue call =>
    cases call with
    | idle => simp [position, deliverStep] at taken
    | load =>
      simp only [position, deliverStep, enqueueLoad] at taken
      split at taken
      · cases taken
        exact ⟨Iff.rfl, others _ (by simp)⟩
      · rename_i seen mailbox loaded
        obtain ⟨opened, same⟩ := (Option.ite_none_left_eq_some ..).mp loaded
        cases same
        cases taken
        exact ⟨Iff.rfl, others _ (by simpa using opened)⟩
    | exchange item seen =>
      have remembered : seen ≠ .closed := fun same => unclosed thread item (same ▸ position)
      simp only [position, deliverStep, enqueueExchange] at taken
      split at taken
      · cases taken
        exact ⟨Iff.rfl, others _ (by simp)⟩
      · rename_i status mailbox exchanged
        obtain ⟨current, same⟩ := (Option.ite_none_right_eq_some ..).mp exchanged
        cases same
        cases taken
        refine ⟨by simp [current, remembered], others _ ?_⟩
        intro item
        split <;> simp

/-- Every step of the scheduling model keeps the law of an instance. -/
theorem step_kept (state : Scheduling.State Item Thread Id)
    (action : Scheduling.Action Item Thread Id) (kept : Kept found)
    (taken : Scheduling.step threshold reply found.state action = some state) :
    Kept { found with state := state } := by
  have moves := (step_moves action kept.unmarked taken).1
  have unmarked := step_unmarked kept.unmarked taken
  have law (alive : found.phase = .alive) : OnDemand (tokens state) :=
    onDemand_moves moves (kept.present alive).1
  have spent (gone : found.phase ≠ .alive) : tokens state = ⟨false, 0, 0⟩ := by
    rw [(kept.leaving gone).1] at moves
    exact moves_none moves
  cases action with
  | call thread =>
    simp only [Scheduling.step, Option.ite_none_right_eq_some, Option.some.injEq] at taken
    obtain ⟨-, rfl⟩ := taken
    refine ⟨unmarked, ?_, fun alive => ⟨law alive, (kept.present alive).2⟩,
      fun gone => ⟨spent gone, (kept.leaving gone).2⟩⟩
    intro other pending
    by_cases same : other = thread
    · simp [move, same]
    · simpa [move, Function.update_of_ne same] using kept.unclosed other pending
  | deliver =>
    obtain ⟨pointer, unclosed⟩ := deliver_closed kept.unclosed taken
    exact ⟨unmarked, unclosed,
      fun alive => ⟨law alive, fun closed => (kept.present alive).2 (pointer.mp closed)⟩,
      fun gone => ⟨spent gone, pointer.mpr (kept.leaving gone).2⟩⟩
  | work worker fuel =>
    by_cases alive : found.phase = .alive
    · obtain ⟨opened, deliverers⟩ :=
        work_open (kept.present alive).2 taken
      exact ⟨unmarked, deliverers ▸ kept.unclosed, fun _ => ⟨law alive, opened⟩,
        fun gone => absurd alive gone⟩
    · have unused := congrArg Tokens.busy (kept.leaving alive).1
      rw [Scheduling.step, work_none threshold reply fuel worker unused] at taken
      cases taken

omit [DecidableEq Thread] in
/-- Only an instance that is alive runs a callback. The one that exits takes the last token with
it. -/
theorem exit_kept {found after : Instance Item Thread Id} {worker : Id} {fuel : Nat}
    (kept : Kept found) (exits : exit found worker fuel = some after) :
    Kept after ∧ found.phase = .alive ∧ after.phase = .closed := by
  unfold exit at exits
  split at exits
  case h_2 => cases exits
  case h_1 round item running =>
    split at exits
    case h_1 => cases exits
    case h_2 closing closes =>
      cases exits
      have executing : (found.state.workers worker).executing = 1 := by rw [running]; rfl
      have counted := Tallies.weight_le_tally Worker.executing found.state.workers worker
      have alive : found.phase = .alive := by
        by_contra gone
        have unused := congrArg Tokens.busy (kept.leaving gone).1
        simp only [tokens] at unused
        omega
      have shut : closing.mailbox.stack = .closed := (close_shut closes).1
      have single : Tallies.tally Deliverer.resuming found.state.deliverers +
          (found.state.runq + Tallies.tally Worker.executing found.state.workers) ≤ 1 :=
        onDemand_single (kept.present alive).1
      have left := Tallies.tally_update Worker.executing found.state.workers worker .idle
      rw [executing, Worker.executing] at left
      refine ⟨⟨?_, kept.unclosed, fun still => Phase.noConfusion still, fun _ => ⟨?_, shut⟩⟩,
        alive, rfl⟩
      · intro other
        by_cases same : other = worker
        · simp [place, same, Unmarked]
        · simpa [place, Function.update_of_ne same] using kept.unmarked other
      · have debts : Tallies.tally Deliverer.resuming found.state.deliverers = 0 := by omega
        have load : found.state.runq + Tallies.tally Worker.executing
            (Function.update found.state.workers worker .idle) = 0 := by omega
        simp only [tokens, place, isBlocked, shut, debts, load, reduceCtorEq, decide_false]

/-- A call at an instance that is leaving does not return: its exchange fails, and its load is
refused. -/
theorem leaving_pending (state : Scheduling.State Item Thread Id) (thread : Thread)
    (kept : Kept found) (gone : found.phase ≠ .alive)
    (accepted : refuses found.state thread = false)
    (taken : Scheduling.step threshold reply found.state (.deliver thread) = some state) :
    state.deliverers thread ≠ .enqueue .idle := by
  obtain ⟨spent, shut⟩ := kept.leaving gone
  unfold Scheduling.step at taken
  cases position : found.state.deliverers thread with
  | resume =>
    have owed := Tallies.weight_le_tally Deliverer.resuming found.state.deliverers thread
    have none_ := congrArg Tokens.resuming spent
    simp only [position, Deliverer.resuming] at owed
    simp only [tokens] at none_
    omega
  | enqueue call =>
    cases call with
    | idle => simp [position, deliverStep] at taken
    | load => simp [refuses, position, enqueueLoad, shut] at accepted
    | exchange item seen =>
      have other : ¬Top.closed = seen := fun same => kept.unclosed thread item (same ▸ position)
      simp only [position, deliverStep, enqueueExchange, shut, if_neg other,
        Option.some.injEq] at taken
      subst taken
      simp [move]

omit [DecidableEq Thread] [DecidableEq Id] in
theorem present_accepts (thread : Thread) (kept : Kept found) (alive : found.phase = .alive) :
    refuses found.state thread = false := by
  unfold refuses
  split
  · simp [enqueueLoad, (kept.present alive).2]
  · rfl

/-- What every run keeps: the law of each instance, an address below the number of those created,
an instance for each entry of the map and each call, and calls that return from instances that are
alive. -/
structure Sound (system : System Item Thread Id) : Prop where
  kept : ∀ address found, system.instances address = some found → Kept found
  numbered : ∀ address found, system.instances address = some found →
    address < system.module.created
  mapped : ∀ key actor, system.module.instMap key = some actor →
    (system.instances actor.address).isSome
  called : ∀ thread address, system.calls thread = some address →
    (system.instances address).isSome
  delivered : ∀ phase ∈ system.delivered, phase = .alive

omit [DecidableEq Thread] [DecidableEq Id] in
theorem start_sound : Sound (start setup : System Item Thread Id) where
  kept _ _ none_ := by cases none_
  numbered _ _ none_ := by cases none_
  mapped _ _ none_ := by cases none_
  called _ _ none_ := by cases none_
  delivered _ none_ := by cases none_

omit [DecidableEq Thread] [DecidableEq Id] [Fintype Thread] [Fintype Id] [DecidableEq Item] in
theorem phaseOf_put (address other : Nat) (changed : Instance Item Thread Id) :
    phaseOf (put system address changed) other =
      if other = address then some changed.phase else phaseOf system other := by
  unfold phaseOf put
  by_cases same : other = address <;> simp [same]

omit [DecidableEq Thread] [DecidableEq Id] [Fintype Thread] [Fintype Id] [DecidableEq Item] in
theorem put_cases {system : System Item Thread Id} {address other : Nat}
    {changed there : Instance Item Thread Id}
    (present : (put system address changed).instances other = some there) :
    (other = address ∧ changed = there) ∨ system.instances other = some there := by
  by_cases same : other = address
  · exact .inl ⟨same, by simpa [put, same] using present⟩
  · exact .inr (by simpa [put, same] using present)

omit [DecidableEq Thread] [DecidableEq Id] [Fintype Thread] [Fintype Id] [DecidableEq Item] in
theorem put_isSome {system : System Item Thread Id} {address other : Nat}
    (changed : Instance Item Thread Id)
    (before : other = address ∨ (system.instances other).isSome) :
    ((put system address changed).instances other).isSome := by
  by_cases same : other = address
  · simp [put, same]
  · simpa [put, same] using before

omit [DecidableEq Thread] [DecidableEq Id] in
/-- An instance may be replaced by one that keeps the law. -/
theorem put_sound (address : Nat) (found changed : Instance Item Thread Id) (sound : Sound system)
    (here : system.instances address = some found) (kept : Kept changed) :
    Sound (put system address changed) where
  kept other there present := by
    obtain ⟨-, rfl⟩ | old := put_cases present
    · exact kept
    · exact sound.kept other there old
  numbered other there present := by
    obtain ⟨rfl, -⟩ | old := put_cases present
    · exact sound.numbered other found here
    · exact sound.numbered other there old
  mapped key actor entry := put_isSome changed (.inr (sound.mapped key actor entry))
  called thread other call :=
    put_isSome changed (.inr (sound.called thread other call))
  delivered := sound.delivered

/-- What a lookup comes to: a call begins at the instance that the map names, or at a new one that
had no predecessor at its address. -/
theorem lookup_cases (next : System Item Thread Id) (thread : Thread) (instId : UInt32)
    (item : Item) (sound : Sound system)
    (looked : lookup setup system thread instId item = some next) :
    ∃ actor module found state,
      Scheduling.step setup.threshold setup.reply found.state (.call thread item) = some state ∧
      next = { put system actor.address { found with state := state } with
        module := module, calls := Function.update system.calls thread (some actor.address) } ∧
      ((system.module.instMap instId = some actor ∧
          system.instances actor.address = some found ∧ module = system.module) ∨
        (system.module.instMap instId = none ∧ system.instances actor.address = none ∧
          found = newInstance setup actor ∧ actor.address = system.module.created ∧
          module.created = system.module.created + 1 ∧
          ∀ key other, module.instMap key = some other →
            system.module.instMap key = some other ∨ other = actor)) := by
  unfold lookup selectOrCreateActorInstance at looked
  cases entry : system.module.instMap instId with
  | some actor =>
    obtain ⟨found, here⟩ := Option.isSome_iff_exists.mp (sound.mapped instId actor entry)
    simp only [entry, here, Option.getD_some] at looked
    split at looked
    · cases looked
    · rename_i state begun
      exact ⟨actor, system.module, found, state, begun, (Option.some.inj looked).symm,
        .inl ⟨rfl, here, rfl⟩⟩
  | none =>
    have unused : system.instances system.module.created = none := by
      cases there : system.instances system.module.created with
      | none => rfl
      | some found => exact absurd (sound.numbered _ found there) (Nat.lt_irrefl _)
    simp only [entry, Routing.createInstance, unused, Option.getD_none] at looked
    split at looked
    · cases looked
    · rename_i state begun
      refine ⟨_, _, _, state, begun, (Option.some.inj looked).symm,
        .inr ⟨rfl, unused, rfl, rfl, rfl, ?_⟩⟩
      intro key other present
      exact emplace_cases present

omit [DecidableEq Thread] [DecidableEq Id] [Fintype Thread] [Fintype Id] [DecidableEq Item] in
theorem phaseOf_put_same (address other : Nat) (found changed : Instance Item Thread Id)
    (here : system.instances address = some found) (same : changed.phase = found.phase) :
    phaseOf (put system address changed) other = phaseOf system other := by
  rw [phaseOf_put]
  split
  · rename_i there
    rw [there, phaseOf, here, Option.map_some, same]
  · rfl

omit [DecidableEq Thread] [DecidableEq Id] [Fintype Thread] [Fintype Id] [DecidableEq Item] in
/-- Whether the calls are handled depends on the fault, the calls and who is alive. -/
theorem handled_congr (next : System Item Thread Id) (fault : next.fault = system.fault)
    (calls : next.calls = system.calls)
    (phases : ∀ address, phaseOf next address = some .alive ↔
      phaseOf system address = some .alive) :
    Handled next ↔ Handled system := by
  simp only [Handled, fault, calls, phases]

/-- A lookup keeps the system sound. -/
theorem lookup_sound {setup : Setup Item} {system next : System Item Thread Id} {thread : Thread}
    {instId : UInt32} {item : Item} (sound : Sound system)
    (looked : lookup setup system thread instId item = some next) : Sound next := by
  obtain ⟨actor, module, found, state, begun, rfl, origin⟩ :=
    lookup_cases setup system next thread instId item sound looked
  have kept : Kept { found with state := state } := by
    refine step_kept _ _ found state _ ?_ begun
    obtain ⟨-, here, -⟩ | ⟨-, -, rfl, -⟩ := origin
    · exact sound.kept _ found here
    · exact newInstance_kept setup actor
  have grown : system.module.created ≤ module.created ∧ actor.address < module.created := by
    obtain ⟨-, here, rfl⟩ | ⟨-, -, -, address, created, -⟩ := origin
    · exact ⟨Nat.le_refl _, sound.numbered _ found here⟩
    · omega
  have entries (key : UInt32) (other : Routing.Actor) (entry : module.instMap key = some other) :
      system.module.instMap key = some other ∨ other = actor := by
    obtain ⟨-, -, rfl⟩ | ⟨-, -, -, -, -, cases_⟩ := origin
    · exact .inl entry
    · exact cases_ key other entry
  refine ⟨fun other there present => ?_, fun other there present => ?_,
    fun key other entry => put_isSome _ ?_, fun other address call => put_isSome _ ?_,
    sound.delivered⟩
  · obtain ⟨-, rfl⟩ | old := put_cases present
    · exact kept
    · exact sound.kept other there old
  · obtain ⟨rfl, -⟩ | old := put_cases present
    · exact grown.2
    · exact Nat.lt_of_lt_of_le (sound.numbered other there old) grown.1
  · obtain old | rfl := entries key other entry
    · exact .inr (sound.mapped key other old)
    · exact .inl rfl
  · by_cases same : other = thread
    · left
      simpa [same, eq_comm] using call
    · right
      exact sound.called other address (by simpa [same] using call)

omit [Fintype Thread] in
/-- A property of the places of all calls, after an idle thread has begun one. -/
theorem calls_begin (calls : Thread → Option Nat) (thread : Thread) (place : Nat)
    (idle : calls thread = none) (property : Nat → Prop) :
    (∀ other address, Function.update calls thread (some place) other = some address →
        property address) ↔
      property place ∧ ∀ other address, calls other = some address → property address := by
  rw [Function.forall_update_iff calls fun _ call => ∀ address, call = some address →
    property address]
  refine and_congr (by simp) ⟨fun others other address call => ?_, fun all other _ => all other⟩
  have different : other ≠ thread := by
    rintro rfl
    rw [idle] at call
    cases call
  exact others other different address call

omit [Fintype Thread] in
/-- A property of the places of all calls, after one has returned from a place that has it. -/
theorem calls_end (calls : Thread → Option Nat) (thread : Thread) (place : Nat)
    (call : calls thread = some place) (property : Nat → Prop) (holds : property place) :
    (∀ other address, Function.update calls thread none other = some address →
        property address) ↔
      ∀ other address, calls other = some address → property address := by
  rw [Function.forall_update_iff calls fun _ call => ∀ address, call = some address →
    property address]
  refine ⟨fun others other address there => ?_, fun all => ⟨by simp, fun other _ => all other⟩⟩
  by_cases same : other = thread
  · rw [same, call] at there
    exact Option.some.inj there ▸ holds
  · exact others.2 other same address there

/-- A lookup by an idle thread leaves all calls handled exactly if they were and it did not find
an instance that is leaving. -/
theorem lookup_handled (next : System Item Thread Id) (thread : Thread) (instId : UInt32)
    (item : Item) (sound : Sound system) (idle : system.calls thread = none)
    (looked : lookup setup system thread instId item = some next) :
    Handled next ↔ Handled system ∧ Quiet system (.dispatch thread instId item) := by
  obtain ⟨actor, module, found, state, begun, rfl, origin⟩ :=
    lookup_cases setup system next thread instId item sound looked
  refine (and_congr_right' (calls_begin system.calls thread actor.address idle fun address =>
    phaseOf (put system actor.address { found with state := state }) address =
      some .alive)).trans ?_
  obtain ⟨entry, here, -⟩ | ⟨entry, unused, created, -⟩ := origin
  · have phases (address : Nat) := phaseOf_put_same system actor.address address found
      { found with state := state } here rfl
    have quiet : Quiet system (.dispatch thread instId item) ↔
        phaseOf system actor.address = some .alive := by
      simp only [Quiet, entry, Option.some.injEq, forall_eq']
    simp only [phases, quiet, Handled]
    exact (and_congr_right' and_comm).trans and_assoc.symm
  · have phases (other : Thread) (address : Nat) (call : system.calls other = some address) :
        phaseOf (put system actor.address { found with state := state }) address =
          phaseOf system address := by
      rw [phaseOf_put, if_neg]
      rintro rfl
      simpa [unused] using sound.called other _ call
    have alive : phaseOf (put system actor.address { found with state := state })
        actor.address = some .alive := by
      rw [phaseOf_put, if_pos rfl, created]
      rfl
    have quiet : Quiet system (.dispatch thread instId item) := by
      simp [Quiet, entry]
    refine (and_congr_right' ((and_iff_right alive).trans ?_)).trans
      (and_iff_left quiet).symm
    refine forall₂_congr fun other address => ?_
    refine forall_congr' fun call => ?_
    rw [phases other address call]

omit [DecidableEq Thread] [DecidableEq Id] [Fintype Thread] [Fintype Id] [DecidableEq Item] in
theorem not_handled (thread : Thread) (address : Nat) (found : Instance Item Thread Id)
    (call : system.calls thread = some address) (here : system.instances address = some found)
    (gone : found.phase ≠ .alive) :
    ¬Handled system := by
  intro handled
  have alive := handled.2 thread address call
  rw [phaseOf, here, Option.map_some, Option.some.injEq] at alive
  exact gone alive

/-- A step of `deliver_message` keeps the system sound, and leaves all calls handled exactly if
they were. A call that ends the process was at an instance that is leaving, and one that returns
was at an instance that is alive. -/
theorem deliver_exact (next : System Item Thread Id) (thread : Thread) (address : Nat)
    (found : Instance Item Thread Id) (sound : Sound system)
    (call : system.calls thread = some address) (here : system.instances address = some found)
    (taken : deliver setup system thread address found = some next) :
    Sound next ∧ (Handled next ↔ Handled system) := by
  have kept := sound.kept address found here
  have ended (fault : Fault) (gone : found.phase ≠ .alive) :
      Sound { system with fault := some fault } ∧
        (Handled { system with fault := some fault } ↔ Handled system) :=
    ⟨⟨sound.kept, sound.numbered, sound.mapped, sound.called, sound.delivered⟩,
      iff_of_false (fun handled => by cases handled.1)
        (not_handled system thread address found call here gone)⟩
  unfold deliver at taken
  split at taken
  case isTrue freed =>
    cases taken
    exact ended .dangling fun alive => by rw [alive] at freed; cases freed
  split at taken
  case isTrue refused =>
    cases taken
    refine ended .undelivered fun alive => ?_
    rw [present_accepts found thread kept alive] at refused
    cases refused
  case isFalse accepted =>
    split at taken
    · cases taken
    rename_i state stepped
    have after := put_sound system address found { found with state := state } sound here
      (step_kept _ _ found state _ kept stepped)
    have phases (other : Nat) := phaseOf_put_same system address other found
      { found with state := state } here rfl
    dsimp only at taken
    split at taken
    case isFalse =>
      cases taken
      exact ⟨after, handled_congr _ _ rfl rfl fun other => by rw [phases]⟩
    case isTrue returned =>
      cases taken
      have alive : found.phase = .alive := by
        by_contra gone
        exact leaving_pending _ _ found state thread kept gone (by simpa using accepted) stepped
          returned
      refine ⟨⟨after.kept, after.numbered, after.mapped, fun other place there => ?_, ?_⟩, ?_⟩
      · obtain ⟨-, gone⟩ | ⟨-, older⟩ := (Places.update_place ..).mp there
        · cases gone
        · exact after.called other place older
      · exact List.forall_mem_cons.mpr ⟨alive, sound.delivered⟩
      · have present : phaseOf system address = some .alive := by
          rw [phaseOf, here, Option.map_some, alive]
        refine (and_congr_right' (calls_end system.calls thread address call (fun place =>
          phaseOf (put system address { found with state := state }) place = some .alive)
          ((phases address).trans present))).trans ?_
        simp only [phases]
        exact Iff.rfl

omit [DecidableEq Thread] in
/-- An exit keeps the system sound, and leaves all calls handled exactly if they were and none of
them was at the instance. -/
theorem exit_exact {system : System Item Thread Id} {address : Nat} {worker : Id} {fuel : Nat}
    {found after : Instance Item Thread Id} (sound : Sound system)
    (here : system.instances address = some found) (exits : exit found worker fuel = some after) :
    Sound (put system address after) ∧
      (Handled (put system address after) ↔
        Handled system ∧ Quiet system (.exit address worker fuel)) := by
  obtain ⟨kept, alive, closed⟩ := exit_kept
    (sound.kept address found here) exits
  refine ⟨put_sound system address found after sound here kept, fun handled => ?_, ?_⟩
  · have away (thread : Thread) : system.calls thread ≠ some address := by
      intro call
      have present := handled.2 thread address call
      rw [phaseOf_put, if_pos rfl, closed] at present
      cases present
    refine ⟨⟨handled.1, fun thread place call => ?_⟩, away⟩
    have elsewhere : place ≠ address := fun same => away thread (same ▸ call)
    simpa only [phaseOf_put, if_neg elsewhere] using handled.2 thread place call
  · rintro ⟨handled, away⟩
    refine ⟨handled.1, fun thread place call => ?_⟩
    have elsewhere : place ≠ address := fun same => away thread (same ▸ call)
    rw [phaseOf_put, if_neg elsewhere]
    exact handled.2 thread place call

omit [DecidableEq Thread] [DecidableEq Id] in
/-- An instance that goes from one phase of leaving to another keeps the law, and whether the calls
are handled. -/
theorem leave_exact (address : Nat) (found : Instance Item Thread Id) (phase : Phase)
    (sound : Sound system) (here : system.instances address = some found)
    (gone : found.phase ≠ .alive) (still : phase ≠ .alive) :
    Sound (put system address { found with phase := phase }) ∧
      (Handled (put system address { found with phase := phase }) ↔ Handled system) := by
  have kept := sound.kept address found here
  refine ⟨put_sound system address found _ sound here ⟨kept.unmarked, kept.unclosed,
    fun alive => absurd alive still, fun _ => kept.leaving gone⟩,
    handled_congr _ _ rfl rfl fun other => ?_⟩
  rw [phaseOf_put]
  split
  · rename_i same
    simp [same, phaseOf, here, gone, still]
  · rfl

/-- Every step keeps the system sound, and leaves all calls handled exactly if they were and the
step is no race. -/
theorem step_exact (next : System Item Thread Id) (action : Action Item Thread Id)
    (sound : Sound system) (taken : step setup system action = some next) :
    Sound next ∧ (Handled next ↔ Handled system ∧ Quiet system action) := by
  cases fault : system.fault with
  | some => simp [step, fault] at taken
  | none =>
    cases action with simp only [step, fault] at taken
    | dispatch thread instId item =>
      split at taken
      · cases taken
      · rename_i idle
        exact ⟨lookup_sound sound taken,
          lookup_handled setup system next thread instId item sound idle taken⟩
    | deliver thread =>
      split at taken
      · cases taken
      rename_i address call
      split at taken
      · cases taken
      rename_i found here
      obtain ⟨after, handled⟩ :=
        deliver_exact setup system next thread address found sound call here taken
      exact ⟨after, handled.trans (and_iff_left trivial).symm⟩
    | work address =>
      split at taken
      · cases taken
      rename_i found here
      obtain ⟨state, stepped, rfl⟩ := Option.map_eq_some_iff.mp taken
      have phases (other : Nat) := phaseOf_put_same system address other found
        { found with state := state } here rfl
      have handled : Handled (put system address { found with state := state }) ↔
          Handled system := handled_congr _ _ rfl rfl fun other => by rw [phases]
      exact ⟨put_sound system address found _ sound here
        (step_kept _ _ found state _ (sound.kept address found here) stepped),
        handled.trans (and_iff_left trivial).symm⟩
    | exit =>
      split at taken
      · cases taken
      rename_i found here
      obtain ⟨after, exits, rfl⟩ := Option.map_eq_some_iff.mp taken
      exact exit_exact sound here exits
    | remove address =>
      split at taken
      · cases taken
      rename_i found here
      simp only [Option.ite_none_right_eq_some, Option.some.injEq] at taken
      obtain ⟨closed, rfl⟩ := taken
      obtain ⟨after, handled⟩ := leave_exact system address found .removed sound here
        (by simp [closed]) (by decide)
      refine ⟨⟨after.kept, after.numbered, fun key actor entry => ?_, after.called,
        after.delivered⟩, handled.trans (and_iff_left trivial).symm⟩
      by_cases same : key = found.actor.id.instanceId
      · simp [onRemoveInstance, same] at entry
      · simp only [onRemoveInstance, Function.update_of_ne same] at entry
        exact after.mapped key actor entry
    | free address =>
      split at taken
      · cases taken
      rename_i found here
      simp only [Option.ite_none_right_eq_some, Option.some.injEq] at taken
      obtain ⟨removed, rfl⟩ := taken
      obtain ⟨after, handled⟩ := leave_exact system address found .freed sound here
        (by simp [removed]) (by decide)
      exact ⟨after, handled.trans (and_iff_left trivial).symm⟩

/-- In every run, each call of `dispatch` that has returned has delivered its message to an
instance that was alive. No call has reached the fatal assertion or freed memory, and none is at an
instance that is leaving, exactly if no step of the run was a race. -/
theorem run_handled_iff (setup : Setup Item) (schedule : List (Action Item Thread Id))
    (final : System Item Thread Id)
    (executed : run (step setup) (start setup) schedule = some final) :
    (∀ phase ∈ final.delivered, phase = .alive) ∧
      (Handled final ↔ Along (step setup) Quiet (start setup) schedule) := by
  have sound : Sound final := run_invariant (step setup) Sound
    (fun system action next sound taken => (step_exact setup system next action sound taken).1)
    (start setup) final schedule (start_sound setup) executed
  have exact_ := run_good_iff (step setup) Quiet Sound Handled
    (fun system action next sound taken => (step_exact setup system next action sound taken).1)
    (fun system action next sound taken => (step_exact setup system next action sound taken).2)
    (start setup) final schedule (start_sound setup) executed
  have initial : Handled (start setup : System Item Thread Id) := ⟨rfl, by simp [start]⟩
  exact ⟨sound.delivered, exact_.trans (and_iff_right initial)⟩

end

/-- Whether a step is a race is decided by the map, the phases and the calls. -/
instance decidableQuiet [Fintype Thread] (system : System Item Thread Id)
    (action : Action Item Thread Id) : Decidable (Quiet system action) :=
  match action with
  | .dispatch _ instId _ =>
      match entry : system.module.instMap instId with
      | none => isTrue (by simp [Quiet, entry])
      | some actor => decidable_of_iff (phaseOf system actor.address = some .alive)
          (by simp [Quiet, entry])
  | .exit address _ _ => inferInstanceAs (Decidable (∀ thread, system.calls thread ≠ some address))
  | .deliver _ | .work _ _ _ | .remove _ | .free _ => isTrue trivial

/-- A module whose instances serve one message at a time. -/
def oneMessage : Setup Nat := ⟨7, 2, 1, fun _ => false, 0, fun _ => none⟩

/-- A message for the wildcard instance creates it, and a worker runs the callback. -/
def served : List (Action Nat Bool Unit) :=
  [.dispatch false ActorID.any 1, .deliver false, .deliver false, .deliver false] ++
    List.replicate 5 (.work 0 () 1)

/-- The second message is looked up after the instance has exited and was erased. -/
def afterRemoval : List (Action Nat Bool Unit) :=
  served ++ [.exit 0 () 1, .remove 0, .dispatch true ActorID.any 2, .deliver true, .deliver true,
    .deliver true, .free 0]

/-- Without a race both messages are delivered, the second one to a new instance. -/
theorem run_handled_without_race :
    ∃ final, run (step oneMessage) (start oneMessage) afterRemoval = some final ∧
      final.delivered = [.alive, .alive] ∧ Handled final := by
  have reached : (run (step oneMessage) (start oneMessage) afterRemoval).map System.delivered =
      some [.alive, .alive] := by decide +kernel
  have quiet : Along (step oneMessage) Quiet (start oneMessage) afterRemoval := by decide +kernel
  obtain ⟨final, executed, delivered⟩ := Option.map_eq_some_iff.mp reached
  exact ⟨final, executed, delivered,
    (run_handled_iff oneMessage afterRemoval final executed).2.mpr quiet⟩

/-- The fault that a schedule ends with after the first message was served. -/
def faultAfter (schedule : List (Action Nat Bool Unit)) : Option (Option Fault) :=
  (run (step oneMessage) (start oneMessage) (served ++ schedule)).map System.fault

/-- A call that found the instance before it closed reaches the fatal assertion, and so does one
that finds it closed and not erased yet. If the instance is freed first, it is used after that. -/
theorem exit_race_faults :
    faultAfter [.dispatch true ActorID.any 2, .exit 0 () 1, .deliver true] =
        some (some .undelivered) ∧
      faultAfter [.exit 0 () 1, .dispatch true ActorID.any 2, .deliver true] =
        some (some .undelivered) ∧
      faultAfter [.dispatch true ActorID.any 2, .exit 0 () 1, .remove 0, .free 0, .deliver true] =
        some (some .dangling) := by
  decide +kernel

end Mola.ActorExits
