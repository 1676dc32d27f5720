import Mola.FiberExits
import Mola.Places
import Mathlib.Data.List.Induction

/-!
# The current fiber outside fibers

`m_current_fiber` is set on the way to a fiber. A fiber that waits or exits resets it before it
switches back. A fiber whose interface has returned does not, and its object is deleted by the
thread. Until another fiber is entered, the pointer designates an object that is gone: the id
that `get_fiber_reqid` reads there is not known, and a normal interface that exits takes the way
of a fiber.

In the loop and in a normal interface the pointer is null exactly if the last way out of a fiber
was not a return.
-/

namespace Mola.FiberExits

open Runs

/-- `get_fiber_reqid`. There is no answer if the object of the current fiber was deleted. -/
def getFiberReqid (actor : Actor) : Option Nat :=
  match actor.currentFiber with
  | none => some 0
  | some id => (actor.fibers id).map fun _ => id

/-- The loop of `execute` or a normal interface runs. -/
def Outside (actor : Actor) : Prop := actor.control = .idle ∨ actor.control = .interface

/-- No fiber is current: the pointer is null, `get_fiber_reqid` is zero, and the exit of a normal
interface throws its code. -/
def NoneCurrent (actor : Actor) : Prop :=
  actor.currentFiber = none ∧ getFiberReqid actor = some 0 ∧
    ∀ rc, actor.control = .interface → exitInstance actor rc = throwCode actor rc

/-- The action leads to a fiber. -/
def enters : Action → Bool
  | .spawn _ | .resume _ => true
  | _ => false

/-- The last way out of a fiber was the return of its interface. -/
def ReturnedLast (schedule : List Action) : Prop :=
  ∃ before after actor id, schedule = before ++ .finish :: after ∧
    run step start before = some actor ∧ actor.control = .fiber id ∧
    ∀ action ∈ after, enters action = false

/-- Every fiber but the one that runs is suspended. -/
def Rested (actor : Actor) : Prop :=
  ∀ id fiber, actor.fibers id = some fiber → fiber.state = .suspend ∨ actor.control = .fiber id

/-- What a step can do. It enters a fiber from the loop; the interface on the fiber returns, and
the fiber is deleted; the fiber waits or exits, and is left suspended; the thread goes on; or a
normal interface ends the actor. -/
inductive Moved (actor : Actor) : Action → Actor → Prop where
  | entered (action : Action) (next : Actor) (id : Nat) (fiber : Fiber)
      (entering : enters action = true) (idle : actor.control = .idle)
      (fibers : next.fibers = Function.update actor.fibers id (some fiber))
      (control : next.control = .fiber id) : Moved actor action next
  | returned (next : Actor) (id : Nat) (onFiber : actor.control = .fiber id)
      (fibers : next.fibers = Function.update actor.fibers id none)
      (current : next.currentFiber = some id) (control : next.control = .idle) :
      Moved actor .finish next
  | left (action : Action) (next : Actor) (id : Nat) (fiber : Fiber)
      (onFiber : actor.control = .fiber id) (unfinished : action ≠ .finish)
      (fibers : next.fibers = Function.update actor.fibers id (some fiber))
      (suspended : fiber.state = .suspend) (current : next.currentFiber = none)
      (control : next.control = .idle) : Moved actor action next
  | stayed (action : Action) (next : Actor) (staying : enters action = false)
      (outside : Outside actor) (fibers : next.fibers = actor.fibers)
      (current : next.currentFiber = actor.currentFiber) (control : Outside next) :
      Moved actor action next
  | ended (action : Action) (next : Actor) (onThread : actor.control = .interface)
      (fibers : next.fibers = actor.fibers) (notOutside : ¬Outside next)
      (notFiber : ∀ id, next.control ≠ .fiber id) : Moved actor action next

theorem crash_not_outside (actor : Actor) : ¬Outside (crash actor) := by
  rintro (idle | onThread)
  · cases idle
  · cases onThread

/-- A new fiber, or one that is suspended, is entered. -/
theorem callIntfOnFiber_enters (actor : Actor) (id : Nat) {fiber : Fiber}
    (ready : fiber.state = .init ∨ fiber.state = .suspend) :
    callIntfOnFiber (setFiber actor id fiber) id =
      { setFiber actor id fiber.continued with currentFiber := some id, control := .fiber id } := by
  have present : (setFiber actor id fiber).fibers id = some fiber := Function.update_self ..
  have twice : setFiber (setFiber actor id fiber) id fiber.continued =
      setFiber actor id fiber.continued := by simp [setFiber]
  unfold callIntfOnFiber
  obtain initial | suspended := ready
  · simp only [present, initial, twice]
  · simp only [present, suspended, twice]

theorem moved_entered {actor : Actor} {action : Action} (id : Nat) {fiber : Fiber}
    (entering : enters action = true) (idle : actor.control = .idle)
    (ready : fiber.state = .init ∨ fiber.state = .suspend) :
    Moved actor action (callIntfOnFiber (setFiber actor id fiber) id) := by
  rw [callIntfOnFiber_enters actor id ready]
  exact .entered action _ id fiber.continued entering idle rfl rfl

/-- A fiber that has stored its way back and forgotten itself is left suspended. -/
theorem moved_left {actor : Actor} {action : Action} {id : Nat} {fiber : Fiber}
    (onFiber : actor.control = .fiber id) (unfinished : action ≠ .finish)
    (running : fiber.state = .running) :
    Moved actor action
      (callIntfOnFiber { setFiber actor id fiber with currentFiber := none } id) := by
  have present : (setFiber actor id fiber).fibers id = some fiber := Function.update_self ..
  have back : callIntfOnFiber { setFiber actor id fiber with currentFiber := none } id =
      { setFiber actor id { fiber with state := .suspend } with
        currentFiber := none
        control := .idle } := by
    unfold callIntfOnFiber
    simp only [present, running]
    simp [setFiber]
  rw [back]
  exact .left action _ id { fiber with state := .suspend } onFiber unfinished rfl rfl rfl rfl

theorem moved_returned {actor : Actor} {id : Nat} {fiber : Fiber}
    (onFiber : actor.control = .fiber id) (current : actor.currentFiber = some id)
    (present : actor.fibers id = some fiber) : Moved actor .finish (returnFromFiber actor id) := by
  have deleted : returnFromFiber actor id =
      { actor with fibers := Function.update actor.fibers id none, control := .idle } := by
    simp [returnFromFiber, callIntfOnFiber, setFiber, present]
  rw [deleted]
  exact .returned _ id onFiber rfl current rfl

theorem waitResponse_on_thread {actor : Actor} (onThread : actor.control = .interface) :
    waitResponse actor = crash actor := by
  unfold waitResponse
  cases current : actor.currentFiber <;> simp only [onThread]

/-- Every step of a sound actor whose other fibers are suspended is one of these. -/
theorem step_moved (actor : Actor) (action : Action) (next : Actor) (sound : Sound actor)
    (rested : Rested actor) (taken : step actor action = some next) :
    Moved actor action next := by
  have crashed (onThread : actor.control = .interface) : Moved actor action (crash actor) :=
    .ended action _ onThread rfl (crash_not_outside actor) fun _ => Control.noConfusion
  cases action with dsimp only [step] at taken
  | invoke =>
    split at taken <;> cases taken
    case h_1 idle => exact .stayed .invoke _ rfl (.inl idle) rfl rfl (.inr rfl)
  | spawn id =>
    split at taken <;> cases taken
    case h_1 idle absent => exact moved_entered id rfl idle (.inl rfl)
  | resume id =>
    split at taken <;> cases taken
    case h_1 fiber idle present =>
      obtain suspended | onFiber := rested id fiber present
      · exact moved_entered id rfl idle (.inr suspended)
      · cases idle.symm.trans onFiber
  | finish =>
    split at taken <;> cases taken
    case h_1 onThread => exact .stayed .finish _ rfl (.inr onThread) rfl rfl (.inl rfl)
    case h_2 id onFiber =>
      obtain ⟨current, fiber, present, -⟩ := sound.current id onFiber
      exact moved_returned onFiber current present
  | wait =>
    split at taken <;> cases taken
    case h_1 onThread =>
      rw [waitResponse_on_thread onThread]
      exact crashed onThread
    case h_2 id onFiber =>
      obtain ⟨current, fiber, present, running⟩ := sound.current id onFiber
      unfold waitResponse
      simp only [current, onFiber, present]
      exact moved_left onFiber Action.noConfusion running
  | exit rc =>
    split at taken <;> cases taken
    case h_1 onThread =>
      rw [exitInstance_on_thread rc onThread]
      split
      · refine .ended (.exit rc) _ onThread rfl ?_ fun _ => Control.noConfusion
        rintro (idle | interface)
        · cases idle
        · cases interface
      · exact crashed onThread
    case h_2 id onFiber =>
      obtain ⟨current, fiber, present, running⟩ := sound.current id onFiber
      unfold exitInstance
      simp only [current, onFiber, present]
      exact moved_left onFiber Action.noConfusion running

/-- Fibers other than one stay as they are when that one is replaced. -/
theorem rested_of_update {actor next : Actor} {id : Nat} {value : Option Fiber}
    (rested : Rested actor) (place : actor.control = .idle ∨ actor.control = .fiber id)
    (fibers : next.fibers = Function.update actor.fibers id value)
    (replaced : ∀ fiber, value = some fiber →
      fiber.state = .suspend ∨ next.control = .fiber id) : Rested next := by
  intro other fiber present
  rw [fibers, Places.update_place] at present
  obtain ⟨rfl, new⟩ | ⟨different, older⟩ := present
  · exact replaced fiber new
  · refine .inl ((rested other fiber older).resolve_right fun onFiber => ?_)
    obtain idle | onOne := place
    · cases idle.symm.trans onFiber
    · cases onOne.symm.trans onFiber
      exact different rfl

/-- On the thread every fiber is suspended, and stays so while the fibers do not change. -/
theorem rested_of_same {actor next : Actor} (rested : Rested actor)
    (notFiber : ∀ id, actor.control ≠ .fiber id) (fibers : next.fibers = actor.fibers) :
    Rested next := by
  intro id fiber present
  rw [fibers] at present
  exact .inl ((rested id fiber present).resolve_right (notFiber id))

theorem Outside.notFiber {actor : Actor} (outside : Outside actor) (id : Nat) :
    actor.control ≠ .fiber id := by
  intro onFiber
  obtain idle | onThread := outside
  · cases idle.symm.trans onFiber
  · cases onThread.symm.trans onFiber

/-- The fibers that do not run stay suspended. -/
theorem step_rested (actor : Actor) (action : Action) (next : Actor)
    (good : Sound actor ∧ Rested actor) (taken : step actor action = some next) :
    Sound next ∧ Rested next := by
  obtain ⟨sound, rested⟩ := good
  refine ⟨step_sound actor action next sound taken, ?_⟩
  cases step_moved actor action next sound rested taken with
  | entered _ _ _ _ _ idle fibers control =>
    exact rested_of_update rested (.inl idle) fibers
      fun _ _ => .inr control
  | returned _ _ onFiber fibers =>
    refine rested_of_update rested (.inr onFiber) fibers ?_
    intro fiber present
    cases present
  | left _ _ _ _ onFiber _ fibers suspended =>
    refine rested_of_update rested (.inr onFiber) fibers ?_
    intro other same
    cases same
    exact .inl suspended
  | stayed _ _ _ outside fibers =>
    exact rested_of_same rested outside.notFiber fibers
  | ended _ _ onThread fibers _ notFiber =>
    exact rested_of_same rested (Outside.notFiber (.inr onThread)) fibers

/-- Every run keeps the actor sound and the fibers that do not run suspended. -/
theorem run_rested {schedule : List Action} {actor : Actor}
    (executed : run step start schedule = some actor) : Sound actor ∧ Rested actor := by
  refine run_invariant step (fun actor => Sound actor ∧ Rested actor) step_rested start actor
    schedule ⟨start_sound, ?_⟩ executed
  intro id fiber present
  cases present

/-- The last way out of a fiber after one more action: this one, if it is a return on a fiber, or
the one before if no fiber is entered. -/
theorem returnedLast_concat {schedule : List Action} {actor : Actor} (action : Action)
    (executed : run step start schedule = some actor) :
    ReturnedLast (schedule ++ [action]) ↔
      (action = .finish ∧ ∃ id, actor.control = .fiber id) ∨
        (ReturnedLast schedule ∧ enters action = false) := by
  constructor
  · rintro ⟨before, after, earlier, id, split, reached, onFiber, quiet⟩
    rcases List.eq_nil_or_concat after with rfl | ⟨rest, last, rfl⟩
    · obtain ⟨rfl, same⟩ := List.append_inj' split rfl
      cases same
      cases reached.symm.trans executed
      exact .inl ⟨rfl, id, onFiber⟩
    · rw [List.concat_eq_append, ← List.cons_append, ← List.append_assoc] at split
      obtain ⟨rfl, same⟩ := List.append_inj' split rfl
      cases same
      refine .inr ⟨⟨before, rest, earlier, id, rfl, reached, onFiber, ?_⟩, ?_⟩
      · exact fun other member => quiet other (by simp [member])
      · exact quiet action (by simp)
  · rintro (⟨rfl, id, onFiber⟩ |
      ⟨⟨before, after, earlier, id, rfl, reached, onFiber, quiet⟩, still⟩)
    · refine ⟨schedule, [], actor, id, rfl, executed, onFiber, ?_⟩
      intro other member
      cases member
    · refine ⟨before, after ++ [action], earlier, id, by simp, reached, onFiber, ?_⟩
      intro other member
      rcases List.mem_append.mp member with old | new
      · exact quiet other old
      · rw [List.mem_singleton.mp new]
        exact still

/-- What the current fiber is after a schedule. Outside fibers it designates a deleted one if the
last way out of a fiber was a return, and is null if not. On a fiber that way has been
forgotten. -/
structure Traced (schedule : List Action) (actor : Actor) : Prop where
  dangling : Outside actor → ReturnedLast schedule →
    ∃ id, actor.currentFiber = some id ∧ actor.fibers id = none
  null : Outside actor → ¬ReturnedLast schedule → actor.currentFiber = none
  onFiber : ∀ id, actor.control = .fiber id → ¬ReturnedLast schedule

/-- A step keeps the trace. -/
theorem step_traced (schedule : List Action) (actor next : Actor) (action : Action)
    (executed : run step start schedule = some actor) (traced : Traced schedule actor)
    (taken : step actor action = some next) : Traced (schedule ++ [action]) next := by
  obtain ⟨sound, rested⟩ := run_rested executed
  have last := returnedLast_concat action executed
  cases step_moved actor action next sound rested taken with
  | entered _ _ id _ entering _ _ control =>
    have forgotten : ¬ReturnedLast (schedule ++ [action]) := by
      rw [last]
      rintro (⟨rfl, -⟩ | ⟨-, still⟩)
      · cases entering
      · cases entering.symm.trans still
    refine ⟨fun outside => ?_, fun outside => ?_, fun _ _ => forgotten⟩
    · exact absurd control (outside.notFiber id)
    · exact absurd control (outside.notFiber id)
  | returned _ id onFiber fibers current control =>
    have returned : ReturnedLast (schedule ++ [.finish]) := last.mpr (.inl ⟨rfl, id, onFiber⟩)
    refine ⟨fun _ _ => ⟨id, current, ?_⟩, fun _ other => absurd returned other, ?_⟩
    · rw [fibers, Function.update_self]
    · intro other elsewhere
      cases control.symm.trans elsewhere
  | left _ _ id _ onFiber unfinished _ _ current =>
    have forgotten : ¬ReturnedLast (schedule ++ [action]) := by
      rw [last]
      rintro (⟨finished, -⟩ | ⟨returned, -⟩)
      · exact unfinished finished
      · exact traced.onFiber id onFiber returned
    exact ⟨fun _ returned => absurd returned forgotten, fun _ _ => current, fun _ _ => forgotten⟩
  | stayed _ _ staying outside fibers current control =>
    have same : ReturnedLast (schedule ++ [action]) ↔ ReturnedLast schedule := by
      rw [last]
      constructor
      · rintro (⟨-, id, onFiber⟩ | ⟨returned, -⟩)
        · exact absurd onFiber (outside.notFiber id)
        · exact returned
      · exact fun returned => .inr ⟨returned, staying⟩
    refine ⟨fun _ returned => ?_, fun _ other => ?_, fun id onFiber => ?_⟩
    · rw [current, fibers]
      exact traced.dangling outside (same.mp returned)
    · rw [current]
      exact traced.null outside fun returned => other (same.mpr returned)
    · exact absurd onFiber (control.notFiber id)
  | ended _ _ _ _ notOutside notFiber =>
    exact ⟨fun outside => absurd outside notOutside, fun outside => absurd outside notOutside,
      fun id onFiber => absurd onFiber (notFiber id)⟩

/-- Every run keeps the trace. -/
theorem run_traced (schedule : List Action) (actor : Actor)
    (executed : run step start schedule = some actor) : Traced schedule actor := by
  induction schedule using List.reverseRecOn generalizing actor with
  | nil =>
    cases executed
    have never : ¬ReturnedLast [] := by
      rintro ⟨before, after, earlier, id, split, -⟩
      cases before <;> cases split
    exact ⟨fun _ returned => absurd returned never, fun _ _ => rfl, fun _ _ => never⟩
  | append_singleton schedule action inductionHypothesis =>
    obtain ⟨middle, reached, last⟩ := run_split step start actor schedule [action] executed
    obtain ⟨next, taken, ended⟩ := (run_cons step middle actor action []).mp last
    cases ended
    exact step_traced schedule middle actor action reached
      (inductionHypothesis middle reached) taken

/-- In every run, while the loop or a normal interface runs, no fiber is current exactly if the
last way out of a fiber was not the return of its interface. If it was, the current fiber is one
that has been deleted. -/
theorem run_none_current_iff (schedule : List Action) (actor : Actor)
    (executed : run step start schedule = some actor) (outside : Outside actor) :
    (NoneCurrent actor ↔ ¬ReturnedLast schedule) ∧
      (ReturnedLast schedule →
        ∃ id, actor.currentFiber = some id ∧ actor.fibers id = none) := by
  have traced := run_traced schedule actor executed
  refine ⟨⟨fun noneCurrent returned => ?_, fun other => ?_⟩, traced.dangling outside⟩
  · obtain ⟨id, current, -⟩ := traced.dangling outside returned
    cases noneCurrent.1.symm.trans current
  · have null := traced.null outside other
    refine ⟨null, ?_, fun rc onThread => ?_⟩
    · unfold getFiberReqid
      rw [null]
    · rw [exitInstance_on_thread rc onThread, if_pos null]

/-- A normal interface runs while a fiber waits. The last way out of the fiber was its wait. -/
theorem run_none_current_waiting :
    ∃ actor, run step start [.spawn 1, .wait, .invoke] = some actor ∧ Outside actor ∧
      NoneCurrent actor := by
  refine ⟨_, rfl, .inr rfl,
    (run_none_current_iff [.spawn 1, .wait, .invoke] _ rfl (.inr rfl)).1.mpr ?_⟩
  rintro ⟨before, after, earlier, id, split, -⟩
  have member : Action.finish ∈ [Action.spawn 1, .wait, .invoke] := by
    rw [split]
    simp
  revert member
  decide

/-- A fiber returns, and the loop and a normal interface run with its deleted object as the
current one: the id of the fiber is not known, and the exit does not throw. -/
theorem returned_fiber_current :
    ∃ actor, run step start [.spawn 1, .finish, .invoke] = some actor ∧ Outside actor ∧
      actor.currentFiber = some 1 ∧ actor.fibers 1 = none ∧ getFiberReqid actor = none ∧
      exitInstance actor 5 = crash actor ∧ ¬NoneCurrent actor := by
  refine ⟨_, rfl, .inr rfl, rfl, rfl, rfl, rfl, fun noneCurrent => ?_⟩
  cases noneCurrent.1

end Mola.FiberExits
