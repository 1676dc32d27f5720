import Mola.Runs
import Mathlib.Logic.Function.Basic

/-!
# Exit from a fiber

`InstanceExit` throws its code from a normal interface, and `execute` catches it, closes the
mailbox and returns EXIT. On a fiber the code has to leave the fiber's context first:
`StrongActor::exit` stores it in the fiber, forgets the current fiber and switches to the
thread, where `call_intf_on_fiber` looks at the state of the fiber and throws if it is EXIT.
Nothing sets that state. The fiber is still RUNNING, and so it is taken for one that waits.

A fiber that returns does not reset the current fiber either. A normal interface that exits
afterwards takes the way of a fiber, writes to one that was deleted, and switches to a frame
of the thread that has returned.

The state of a fiber, the current fiber and where the actor runs are modelled, with one step
for the code between two switches. The messages, the request contexts other than those of
fibers and the values that interfaces return are not.
-/

namespace Mola.FiberExits

/-- `Fiber::State`. -/
inductive FiberState where
  | init
  | running
  | suspend
  | dead
  | exit
deriving DecidableEq

/-- What the return value of a fiber points to: nothing, the code of an exit, or a message. -/
inductive Retval where
  | null
  | code (rc : Int)
  | message
deriving DecidableEq

/-- Where the saved context of a fiber continues: at the entry of `Fiber::spawn`, or in
`wait_response`. -/
inductive Context where
  | entry
  | waiting
deriving DecidableEq

/-- A fiber object. -/
structure Fiber where
  state : FiberState
  retval : Retval
  context : Context
deriving DecidableEq

/-- Where the actor runs: in the loop of `execute` between two messages, in a normal interface,
or in an interface on a fiber. Or `execute` has caught a code and returned EXIT, or an assertion
has failed, or a deleted fiber or a frame that has returned was used. -/
inductive Control where
  | idle
  | interface
  | fiber (id : Nat)
  | exited (rc : Int)
  | crashed
deriving DecidableEq

/-- A strong actor: its fibers, the pointer to the current one, which may dangle, and whether
the mailbox is closed. -/
structure Actor where
  fibers : Nat → Option Fiber
  currentFiber : Option Nat
  control : Control
  closed : Bool

/-- A message is handled by a normal interface, by a synchronous one on a new fiber, or by one on
the fiber of its context. The running interface returns, waits for a response or exits. -/
inductive Action where
  | invoke
  | spawn (id : Nat)
  | resume (id : Nat)
  | finish
  | wait
  | exit (rc : Int)
deriving DecidableEq

/-- A new actor. -/
def start : Actor := ⟨fun _ => none, none, .idle, false⟩

/-- An assertion fails, or memory is used that is gone. -/
def crash (actor : Actor) : Actor := { actor with control := .crashed }

/-- Replace a fiber object. -/
def setFiber (actor : Actor) (id : Nat) (fiber : Fiber) : Actor :=
  { actor with fibers := Function.update actor.fibers id (some fiber) }

/-- `Actor::exit` on the thread, up to the end of `execute`: the code is caught, the mailbox is
closed, and EXIT is returned. -/
def throwCode (actor : Actor) (rc : Int) : Actor :=
  { actor with control := .exited rc, closed := true }

/-- A fiber once its context continues. Both ways set RUNNING first, and `wait_response` takes
the return value out. -/
def Fiber.continued (fiber : Fiber) : Fiber :=
  match fiber.context with
  | .entry => { fiber with state := .running }
  | .waiting => { fiber with state := .running, retval := .null }

/-- `call_intf_on_fiber` from the point where it saves the context of the thread. The point is
passed on the way to the fiber, and again when the fiber switches back. A dead fiber is deleted
here or at the end of the turn, and the current fiber is left as it is. -/
def callIntfOnFiber (actor : Actor) (id : Nat) : Actor :=
  match actor.fibers id with
  | none => crash actor
  | some fiber =>
      match fiber.state with
      | .init | .suspend =>
          { setFiber actor id fiber.continued with
            currentFiber := some id
            control := .fiber id }
      | .dead =>
          { actor with
            fibers := Function.update actor.fibers id none
            control := .idle }
      | .exit =>
          match fiber.retval with
          | .code rc => throwCode actor rc
          | _ => crash actor
      | .running =>
          { setFiber actor id { fiber with state := .suspend } with control := .idle }

/-- `StrongActor::exit`. With a current fiber it switches to the context that
`call_intf_on_fiber` saved, which is there only while that function has not returned. Without
one it throws, and nothing on the stack of a fiber catches the code. -/
def exitInstance (actor : Actor) (rc : Int) : Actor :=
  match actor.currentFiber, actor.control with
  | none, .interface => throwCode actor rc
  | some current, .fiber id =>
      match actor.fibers current with
      | none => crash actor
      | some fiber =>
          callIntfOnFiber
            { setFiber actor current { fiber with retval := .code rc } with currentFiber := none }
            id
  | _, _ => crash actor

/-- `wait_response` up to the switch, and `call_intf_on_fiber` after it. -/
def waitResponse (actor : Actor) : Actor :=
  match actor.currentFiber, actor.control with
  | some current, .fiber id =>
      match actor.fibers current with
      | none => crash actor
      | some fiber =>
          callIntfOnFiber
            { setFiber actor current { fiber with context := .waiting } with currentFiber := none }
            id
  | _, _ => crash actor

/-- The end of `Fiber::spawn`, after the interface has returned. -/
def returnFromFiber (actor : Actor) (id : Nat) : Actor :=
  match actor.fibers id with
  | none => crash actor
  | some fiber =>
      callIntfOnFiber (setFiber actor id { fiber with state := .dead, retval := .message }) id

/-- One step. A new fiber has the id of a new request. -/
def step (actor : Actor) : Action → Option Actor
  | .invoke =>
      match actor.control with
      | .idle => some { actor with control := .interface }
      | _ => none
  | .spawn id =>
      match actor.control, actor.fibers id with
      | .idle, none => some (callIntfOnFiber (setFiber actor id ⟨.init, .null, .entry⟩) id)
      | _, _ => none
  | .resume id =>
      match actor.control, actor.fibers id with
      | .idle, some fiber =>
          some (callIntfOnFiber (setFiber actor id { fiber with retval := .message }) id)
      | _, _ => none
  | .finish =>
      match actor.control with
      | .interface => some { actor with control := .idle }
      | .fiber id => some (returnFromFiber actor id)
      | _ => none
  | .wait =>
      match actor.control with
      | .interface | .fiber _ => some (waitResponse actor)
      | _ => none
  | .exit rc =>
      match actor.control with
      | .interface | .fiber _ => some (exitInstance actor rc)
      | _ => none

/-- The call has ended the actor with its code: `execute` has caught it, closed the mailbox and
returned EXIT. -/
def Exits (actor : Actor) (rc : Int) : Prop :=
  actor.control = .exited rc ∧ actor.closed = true

/-- The fiber is left as one that waits: the loop goes on, the mailbox is open, and the fiber is
SUSPEND. -/
def Suspended (actor : Actor) (id : Nat) : Prop :=
  actor.control = .idle ∧ actor.closed = false ∧
    ∃ fiber, actor.fibers id = some fiber ∧ fiber.state = .suspend

/-- What holds of every actor between two switches: an interface on a fiber is that of the
current fiber, which is RUNNING, and the mailbox is closed only by an exit. -/
structure Sound (actor : Actor) : Prop where
  current : ∀ id, actor.control = .fiber id → actor.currentFiber = some id ∧
    ∃ fiber, actor.fibers id = some fiber ∧ fiber.state = .running
  opened : actor.closed = true → ∃ rc, actor.control = .exited rc

theorem start_sound : Sound start where
  current _ onFiber := by cases onFiber
  opened isClosed := by cases isClosed

/-- A sound actor with an open mailbox stays sound in the loop or in a normal interface. -/
theorem sound_of_thread {actor : Actor} (opened : actor.closed = false)
    (onThread : ∀ id, actor.control ≠ .fiber id) : Sound actor where
  current id onFiber := absurd onFiber (onThread id)
  opened isClosed := by rw [opened] at isClosed; cases isClosed

theorem Sound.isOpen {actor : Actor} (sound : Sound actor)
    (runs : ∀ rc, actor.control ≠ .exited rc) : actor.closed = false := by
  cases shut : actor.closed with
  | false => rfl
  | true =>
    obtain ⟨rc, ended⟩ := sound.opened shut
    exact absurd ended (runs rc)

theorem Fiber.continued_state (fiber : Fiber) : fiber.continued.state = .running := by
  unfold Fiber.continued
  cases fiber.context <;> rfl

theorem crash_sound {actor : Actor} (opened : actor.closed = false) : Sound (crash actor) :=
  sound_of_thread opened fun _ => Control.noConfusion

/-- `call_intf_on_fiber` leads to a sound actor from any that has an open mailbox. -/
theorem callIntfOnFiber_sound {actor : Actor} (id : Nat) (opened : actor.closed = false) :
    Sound (callIntfOnFiber actor id) := by
  have entered (fiber : Fiber) : Sound
      { setFiber actor id fiber.continued with currentFiber := some id, control := .fiber id } :=
    { current := fun other onFiber => by
        cases onFiber
        exact ⟨rfl, fiber.continued, Function.update_self .., fiber.continued_state⟩
      opened := fun isClosed => by
        cases opened.symm.trans isClosed }
  have thrown (rc : Int) : Sound (throwCode actor rc) :=
    { current := fun other onFiber => by cases onFiber
      opened := fun _ => ⟨rc, rfl⟩ }
  unfold callIntfOnFiber
  split
  · exact crash_sound opened
  · split
    · exact entered _
    · exact entered _
    · exact sound_of_thread opened fun _ => Control.noConfusion
    · split
      · exact thrown _
      · exact crash_sound opened
    · exact sound_of_thread opened fun _ => Control.noConfusion

theorem callIntfOnFiber_suspends {actor : Actor} {id : Nat} {fiber : Fiber}
    (opened : actor.closed = false) (present : actor.fibers id = some fiber)
    (running : fiber.state = .running) : Suspended (callIntfOnFiber actor id) id := by
  unfold callIntfOnFiber
  simp only [present, running]
  exact ⟨rfl, opened, { fiber with state := .suspend }, Function.update_self .., rfl⟩

/-- An exit on a fiber leaves it as one that waits. The code was stored, and nothing sets EXIT. -/
theorem exitInstance_on_fiber {actor : Actor} {id : Nat} (rc : Int) (sound : Sound actor)
    (onFiber : actor.control = .fiber id) : Suspended (exitInstance actor rc) id := by
  obtain ⟨current, fiber, present, running⟩ := sound.current id onFiber
  have opened : actor.closed = false :=
    sound.isOpen fun code ended => by rw [onFiber] at ended; cases ended
  unfold exitInstance
  simp only [current, onFiber, present]
  exact callIntfOnFiber_suspends opened
    (Function.update_self ..) running

/-- An exit of a normal interface throws the code if there is no current fiber, and otherwise
switches to a frame that has returned. -/
theorem exitInstance_on_thread {actor : Actor} (rc : Int) (onThread : actor.control = .interface) :
    exitInstance actor rc =
      if actor.currentFiber = none then throwCode actor rc else crash actor := by
  unfold exitInstance
  cases current : actor.currentFiber with
  | none => simp only [onThread, if_true]
  | some => simp only [onThread, reduceCtorEq, if_false]

/-- An exit keeps an actor sound, from an interface of either kind. -/
theorem exitInstance_sound {actor : Actor} (rc : Int) (opened : actor.closed = false) :
    Sound (exitInstance actor rc) := by
  unfold exitInstance
  split
  · exact ⟨fun _ onFiber => Control.noConfusion onFiber, fun _ => ⟨rc, rfl⟩⟩
  · split
    · exact crash_sound opened
    · exact callIntfOnFiber_sound _ opened
  · exact crash_sound opened

theorem waitResponse_sound {actor : Actor} (opened : actor.closed = false) :
    Sound (waitResponse actor) := by
  unfold waitResponse
  split
  · split
    · exact crash_sound opened
    · exact callIntfOnFiber_sound _ opened
  · exact crash_sound opened

theorem returnFromFiber_sound {actor : Actor} (id : Nat) (opened : actor.closed = false) :
    Sound (returnFromFiber actor id) := by
  unfold returnFromFiber
  split
  · exact crash_sound opened
  · exact callIntfOnFiber_sound id opened

theorem step_runs (actor next : Actor) (action : Action) (taken : step actor action = some next)
    (rc : Int) : actor.control ≠ .exited rc := by
  intro ended
  cases action <;> simp [step, ended] at taken

/-- Every step keeps an actor sound. -/
theorem step_sound (actor : Actor) (action : Action) (next : Actor) (sound : Sound actor)
    (taken : step actor action = some next) : Sound next := by
  have opened : actor.closed = false := sound.isOpen (step_runs actor next action taken)
  have onThread (control : Control) (notFiber : ∀ id, control ≠ .fiber id) :
      Sound { actor with control := control } := sound_of_thread opened notFiber
  cases action with dsimp only [step] at taken
  | invoke =>
    split at taken <;> cases taken
    exact onThread .interface fun _ => Control.noConfusion
  | spawn id | resume id =>
    split at taken <;> cases taken
    exact callIntfOnFiber_sound id opened
  | finish =>
    split at taken <;> cases taken
    · exact onThread .idle fun _ => Control.noConfusion
    · exact returnFromFiber_sound _ opened
  | wait =>
    split at taken <;> cases taken <;> exact waitResponse_sound opened
  | exit rc =>
    split at taken <;> cases taken <;> exact exitInstance_sound rc opened

/-- The step of an exit: an interface runs, on the thread or on a fiber. -/
theorem exit_step {actor next : Actor} {rc : Int} (called : step actor (.exit rc) = some next) :
    next = exitInstance actor rc ∧
      (actor.control = .interface ∨ ∃ id, actor.control = .fiber id) := by
  dsimp only [step] at called
  split at called
  case h_1 onThread =>
    cases called
    exact ⟨rfl, .inl onThread⟩
  case h_2 id onFiber =>
    cases called
    exact ⟨rfl, .inr ⟨id, onFiber⟩⟩
  case h_3 => cases called

/-- In every run, a call of `InstanceExit` ends the actor with its code exactly if a normal
interface makes it while there is no current fiber. Made on a fiber, on its first run or after
any number of waits, it leaves the fiber suspended and the mailbox open. -/
theorem run_exits_iff (schedule : List Action) (actor next : Actor) (rc : Int)
    (executed : Runs.run step start schedule = some actor)
    (called : step actor (.exit rc) = some next) :
    (Exits next rc ↔ actor.control = .interface ∧ actor.currentFiber = none) ∧
      ∀ id, actor.control = .fiber id → Suspended next id := by
  have sound : Sound actor := Runs.run_invariant step Sound step_sound start actor schedule
    start_sound executed
  obtain ⟨rfl, place⟩ := exit_step called
  have left (id : Nat) (onFiber : actor.control = .fiber id) :
      Suspended (exitInstance actor rc) id := exitInstance_on_fiber rc sound onFiber
  refine ⟨⟨fun ended => ?_, fun normal => ?_⟩, left⟩
  · obtain onThread | ⟨id, onFiber⟩ := place
    · refine ⟨onThread, ?_⟩
      by_contra current
      rw [exitInstance_on_thread rc onThread, if_neg current] at ended
      cases ended.1
    · cases (left id onFiber).1.symm.trans ended.1
  · rw [exitInstance_on_thread rc normal.1, if_pos normal.2]
    exact ⟨rfl, rfl⟩

/-- A run leads to an interface that exits, and the exit to an actor with the property. -/
def ExitLeads (schedule : List Action) (rc : Int) (property : Actor → Prop) : Prop :=
  ∃ actor next, Runs.run step start schedule = some actor ∧
    step actor (.exit rc) = some next ∧ property next

/-- A normal interface exits while a fiber of the actor waits. -/
theorem run_exits_normal :
    ExitLeads [.spawn 1, .wait, .invoke] 5 fun next => Exits next 5 :=
  ⟨_, _, rfl, rfl,
    (run_exits_iff [.spawn 1, .wait, .invoke] _ _ 5 rfl rfl).1.mpr ⟨rfl, rfl⟩⟩

/-- A fiber that exits on its first run, or after a wait, does not end the actor: it is left
suspended. A normal interface that exits after a fiber has returned does not end it either: it
crashes. -/
theorem exit_on_fiber_suspends :
    ExitLeads [.spawn 1] 5 (fun next => ¬Exits next 5 ∧ Suspended next 1) ∧
      ExitLeads [.spawn 1, .wait, .resume 1] 5 (fun next => ¬Exits next 5 ∧ Suspended next 1) ∧
      ExitLeads [.spawn 1, .finish, .invoke] 5
        (fun next => ¬Exits next 5 ∧ next.control = .crashed) := by
  refine ⟨⟨_, _, rfl, rfl, ?first, rfl, rfl, _, rfl, rfl⟩,
    ⟨_, _, rfl, rfl, ?resumed, rfl, rfl, _, rfl, rfl⟩, ⟨_, _, rfl, rfl, ?normal, rfl⟩⟩
  case first => exact fun ended => Control.noConfusion ended.1
  case resumed => exact fun ended => Control.noConfusion ended.1
  case normal => exact fun ended => Control.noConfusion ended.1

end Mola.FiberExits
