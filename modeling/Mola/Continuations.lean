import Mola.Ledger
import Mathlib.Logic.Relation

/-!
# The continuations of an actor, abstractly

What an actor keeps for its open calls is a map from request ids to contexts. This
module says how that map and the ledger may change, without the allocation of ids: a
view of the actor, and moves between views. Each move is one thing that the actor does
to a context (record one, run on a fiber, hear an answer, collect it in a group, suspend
or return from a fiber, delete), with the condition under which the actor does it. What
the actor puts out for each call is part of the view.

The laws below hold of a view and are kept by every move: each open call that was
recorded has its own context, deleted contexts have no open call, an answer is given the
context of its own call, and the initiators follow the roots of the ledger. When no
gather callback is suspended, a complete group exists only while it is handled. The
module about runs shows that the steps of an actor are such moves.
-/

namespace Mola.Requests

universe u
variable {Body : Type u}

/-- The contexts, the ledger, the ids that were given up, the frame that runs, and the
outputs: returned values with their roots, installed contexts, and for each call the
groups with which its gather callback ran and the ids recycled. -/
@[ext]
structure View (Body : Type u) where
  find : Nat → Option (Context Body)
  ledger : Nat → Option (Call Body)
  calls : Nat
  abandoned : List Nat
  sync : Nat → Bool
  frame : Option (Frame Body)
  root : Option (Message Body)
  saved : Nat → Option (Saved Body)
  savedRoots : Nat → Option (Message Body)
  replies : List (Message Body × Message Body)
  installed : List (Nat × Option Nat)
  gathered : Nat → List (List Body)
  recycled : Nat → List Nat

/-- A reply as a message asks for it: to its sender, with its id, and a gather exactly
when the message is a scatter. -/
def Answers (reply message : Message Body) : Prop :=
  reply.target = message.sender ∧ reply.reqid = message.reqid ∧
    reply.kind = if message.kind = .scatter then .gather else .response

namespace View

/-- The context of the frame that runs. -/
def current (view : View Body) : Option Nat := view.frame.bind Frame.ctx

/-- The fiber of the frame that runs. -/
def fiber (view : View Body) : Option Nat := view.frame.bind Frame.fiber

/-- The initiator for what a frame starts. -/
def initiator (view : View Body) (frame : Frame Body) : Option (Message Body) :=
  match frame.ctx with
  | some id => (view.find id).bind Context.initiator
  | none => frame.message

/-- Store a context. -/
def put (view : View Body) (id : Nat) (context : Context Body) : View Body :=
  { view with find := Function.update view.find id (some context) }

/-- Delete the context of a call, and recycle its id. -/
def drop (view : View Body) (id number : Nat) : View Body :=
  { view with
    find := Function.update view.find id none
    recycled := Function.update view.recycled number (view.recycled number ++ [id]) }

/-- Enter a call in the ledger under the next number. -/
def enter (view : View Body) (call : Call Body) : View Body :=
  { view with
    ledger := Function.update view.ledger (view.calls + 1) (some call)
    calls := view.calls + 1 }

/-- Enter an answer to a call in the ledger. -/
def hear (view : View Body) (number : Nat) (call : Call Body) (body : Body) : View Body :=
  { view with
    ledger := Function.update view.ledger number
      (some { call with answers := call.answers ++ [body] }) }

/-- Install a context for an answer, or none. -/
def install (view : View Body) (number : Nat) (found : Option Nat) : View Body :=
  { view with installed := view.installed ++ [(number, found)] }

/-- Go on in another frame. -/
def go (view : View Body) (frame : Option (Frame Body)) : View Body :=
  { view with frame := frame }

/-- Go on for another root. -/
def under (view : View Body) (root : Option (Message Body)) : View Body :=
  { view with root := root }

/-- Run the gather callback of a call. -/
def fire (view : View Body) (number : Nat) (messages : List Body) : View Body :=
  { view with
    gathered := Function.update view.gathered number (view.gathered number ++ [messages]) }

end View

/-- A call that waits under an id for its one answer. -/
structure Call.Waits (call : Call Body) (id : Nat) : Prop where
  reqid : call.reqid = id
  recorded : call.recorded = true
  single : call.scatter = false
  once : call.size = 1

/-- A scatter that collects its answers under an id. -/
structure Call.Collects (call : Call Body) (id size : Nat) (messages : List Body) : Prop where
  reqid : call.reqid = id
  recorded : call.recorded = true
  scattered : call.scatter = true
  sized : call.size = size
  collected : call.answers = messages

/-- The frame in which the callback of a message starts. -/
def opening (message : Message Body) (ctx : Option Nat) : Frame Body :=
  ⟨some message, ctx, none, .interface⟩

/-- What an actor does to its contexts. When it is quiet, no gather callback waits. -/
inductive Move (quiet : Prop) (view : View Body) : View Body → Prop
  /-- A call is recorded under a new id. -/
  | record (frame : Frame Body) (shape : Shape Body) (call : Call Body)
      (runs : view.frame = some frame) (new : view.find call.reqid = none)
      (usable : call.reqid ∉ view.abandoned) (recorded : call.recorded = true)
      (unanswered : call.answers = []) (rooted : call.root = view.root)
      (fits : shape = .plain ∧ call.scatter = false ∧ call.size = 1 ∨
        shape = .group call.size [] false ∧ call.scatter = true ∧ 0 < call.size) :
      Move quiet view
        ((view.enter call).put call.reqid ⟨view.initiator frame, shape, view.calls + 1⟩)
  /-- A call was not made after all. -/
  | skip : Move quiet view { view with calls := view.calls + 1 }
  /-- A scatter failed and its id is given up. -/
  | lose (call : Call Body) (new : view.find call.reqid = none)
      (unrecorded : call.recorded = false) (scattered : call.scatter = true)
      (unanswered : call.answers = []) (rooted : call.root = view.root) :
      Move quiet view { view.enter call with abandoned := call.reqid :: view.abandoned }
  /-- A message arrives that is no answer. -/
  | arrive (message : Message Body) (rests : view.frame = none) :
      Move quiet view
        ((view.under (if message.isCall then some message else none)).go
          (some (opening message none)))
  /-- An answer to a plain call is handled. -/
  | hearPlain (number : Nat) (call : Call Body) (body : Body) (message : Message Body)
      (initiator : Option (Message Body)) (rests : view.frame = none)
      (entered : view.ledger number = some call) (waits : call.Open)
      (answer : message.isCall = false)
      (found : view.find call.reqid = some ⟨initiator, .plain, number⟩) :
      Move quiet view
        ((((view.hear number call body).install number (some number)).under call.root).go
          (some (opening message (some call.reqid))))
  /-- The handler of an answer to a scatter starts. -/
  | hearGroup (number : Nat) (call : Call Body) (message : Message Body)
      (context : Context Body) (size : Nat) (messages : List Body) (done : Bool)
      (rests : view.frame = none) (entered : view.ledger number = some call)
      (answer : message.isCall = false) (found : view.find call.reqid = some context)
      (shaped : context.shape = .group size messages done) (own : context.call = number) :
      Move quiet view
        (((view.install number (some number)).under call.root).go
          (some (opening message (some call.reqid))))
  /-- The answer to a call of a fiber wakes it. -/
  | wake (number : Nat) (call : Call Body) (body : Body) (message : Message Body)
      (initiator : Option (Message Body)) (stage : Stage Body) (rests : view.frame = none)
      (entered : view.ledger number = some call) (waits : call.Open)
      (answer : message.isCall = false)
      (found : view.find call.reqid = some ⟨initiator, .fiber (.suspend stage), number⟩)
      (synchronous : view.sync message.target.intf = true) :
      Move quiet view
        (((((view.hear number call body).install number (some number)).under call.root).put
          call.reqid ⟨initiator, .fiber .running, number⟩).go
          (some ⟨some message, some call.reqid, some call.reqid, stage⟩))
  /-- An answer to a failed scatter finds no context. -/
  | miss (number : Nat) (call : Call Body) (body : Body)
      (entered : view.ledger number = some call) (waits : call.Open)
      (unrecorded : call.recorded = false) (rests : view.frame = none) :
      Move quiet view
        (((view.hear number call body).install number none).under call.root)
  /-- The callback gets a new fiber. -/
  | enter (frame : Frame Body) (id : Nat) (message : Message Body)
      (runs : view.frame = some frame) (unthreaded : frame.fiber = none)
      (handles : frame.message = some message) (outside : frame.stage = .interface)
      (new : view.find id = none) (usable : id ∉ view.abandoned)
      (synchronous : view.sync message.target.intf = true) :
      Move quiet view
        ((view.put id ⟨view.initiator frame, .fiber .running, 0⟩).go
          (some { frame with fiber := some id }))
  /-- A group collects an answer and is not ready. -/
  | collect (number : Nat) (call : Call Body) (body : Body) (frame : Frame Body)
      (initiator : Option (Message Body)) (size : Nat) (messages : List Body) (done : Bool)
      (runs : view.frame = some frame) (handles : frame.ctx = some call.reqid)
      (entered : view.ledger number = some call) (waits : call.Open)
      (found : view.find call.reqid = some ⟨initiator, .group size messages done, number⟩)
      (unready : (messages ++ [body]).length ≠ size) :
      Move quiet view
        ((view.hear number call body).put call.reqid
          ⟨initiator, .group size (messages ++ [body]) done, number⟩)
  /-- A group collects its last answer, and its gather callback starts. -/
  | complete (number : Nat) (call : Call Body) (body : Body) (frame : Frame Body)
      (initiator : Option (Message Body)) (size : Nat) (messages : List Body) (done : Bool)
      (runs : view.frame = some frame) (handles : frame.ctx = some call.reqid)
      (outside : frame.stage = .interface)
      (entered : view.ledger number = some call) (waits : call.Open)
      (found : view.find call.reqid = some ⟨initiator, .group size messages done, number⟩)
      (ready : (messages ++ [body]).length = size) :
      Move quiet view
        ((((view.hear number call body).put call.reqid
          ⟨initiator, .group size (messages ++ [body]) done, number⟩).fire number
            (messages ++ [body])).go
          (some { frame with stage := .gather call.reqid initiator }))
  /-- A fiber makes a call and waits for its answer. -/
  | suspend (frame : Frame Body) (call : Call Body) (context : Context Body)
      (runs : view.frame = some frame) (threaded : frame.fiber = some call.reqid)
      (found : view.find call.reqid = some context)
      (running : context.shape = .fiber .running) (waits : call.Waits call.reqid)
      (unanswered : call.answers = []) (rooted : call.root = view.root)
      (synchronous : view.sync call.intf = true)
      (outside : quiet → frame.stage = .interface) :
      Move quiet view
        (((view.enter call).put call.reqid
          ⟨context.initiator, .fiber (.suspend frame.stage), view.calls + 1⟩).go
          (some { frame with fiber := none, stage := .interface }))
  /-- The gather callback of a group returns. -/
  | gathered (frame : Frame Body) (group : Nat) (held : Option (Message Body))
      (context : Context Body) (size : Nat) (messages : List Body)
      (runs : view.frame = some frame) (inside : frame.stage = .gather group held)
      (found : view.find group = some context)
      (shaped : context.shape = .group size messages false) :
      Move quiet view
        ((view.put group { context with shape := .group size messages true }).go
          (some { frame with stage := .interface }))
  /-- A callback returns from a fiber that is not the current context. -/
  | leave (frame : Frame Body) (id : Nat) (context : Context Body)
      (runs : view.frame = some frame) (threaded : frame.fiber = some id)
      (other : frame.ctx ≠ some id) (outside : frame.stage = .interface)
      (found : view.find id = some context) (running : context.shape = .fiber .running) :
      Move quiet view
        ((view.drop id context.call).go (some { frame with fiber := none }))
  /-- A callback returns from the fiber of the current context. -/
  | die (frame : Frame Body) (id : Nat) (context : Context Body)
      (runs : view.frame = some frame) (threaded : frame.fiber = some id)
      (same : frame.ctx = some id) (outside : frame.stage = .interface)
      (found : view.find id = some context) (running : context.shape = .fiber .running) :
      Move quiet view
        ((view.put id { context with shape := .fiber .dead }).go
          (some { frame with fiber := none }))
  /-- A returned value is dispatched. -/
  | reply (frame : Frame Body) (reply initiator root : Message Body)
      (runs : view.frame = some frame)
      (whose : view.initiator frame = some initiator ∨
        ∃ group, frame.stage = .gather group (some initiator))
      (rooted : view.root = some root) (built : Answers reply initiator) :
      Move quiet view { view with replies := view.replies ++ [(reply, root)] }
  /-- The right to reply is saved. -/
  | save (frame : Frame Body) (handle : Nat) (saved : Saved Body)
      (runs : view.frame = some frame) (whose : saved.initiator = view.initiator frame) :
      Move quiet view { view with
        saved := Function.update view.saved handle (some saved)
        savedRoots := Function.update view.savedRoots handle view.root }
  /-- A saved right is used, and its value is dispatched. -/
  | replySaved (handle : Nat) (saved : Saved Body) (reply initiator : Message Body)
      (held : view.saved handle = some saved) (whose : saved.initiator = some initiator)
      (built : Answers reply initiator) :
      Move quiet view { view with
        saved := Function.update view.saved handle none
        replies := view.replies ++
          ((view.savedRoots handle).map fun root => (reply, root)).toList }
  /-- The turn ends and the current context is deleted. -/
  | delete (frame : Frame Body) (id : Nat) (context : Context Body)
      (runs : view.frame = some frame) (unthreaded : frame.fiber = none)
      (outside : frame.stage = .interface) (handles : frame.ctx = some id)
      (found : view.find id = some context) (done : context.shape.done = true) :
      Move quiet view ((view.drop id context.call).go none)
  /-- The turn ends and there is no context to delete. -/
  | rest (frame : Frame Body) (runs : view.frame = some frame)
      (unthreaded : frame.fiber = none) (outside : frame.stage = .interface)
      (undone : ∀ id context, frame.ctx = some id → view.find id = some context →
        context.shape.done = false) :
      Move quiet view (view.go none)

namespace View

/-- A number without an open call, and not that of a scatter. -/
def Closed (view : View Body) (number : Nat) : Prop :=
  ∀ call, view.ledger number = some call → ¬ call.Open ∧ call.scatter = false

/-- What a context says about the call that it was recorded for. A fiber that runs is
that of the frame, and one that has returned is the current context. -/
def Stored (view : View Body) (id : Nat) (context : Context Body) : Prop :=
  match context.shape with
  | .plain => ∃ call, view.ledger context.call = some call ∧ call.Waits id
  | .group size messages done =>
      ∃ call, view.ledger context.call = some call ∧ call.Collects id size messages ∧
        (done = true → messages.length = size)
  | .fiber .running => view.fiber = some id ∧ view.Closed context.call
  | .fiber (.suspend _) =>
      ∃ call, view.ledger context.call = some call ∧ call.Waits id ∧ view.sync call.intf = true
  | .fiber .dead => view.current = some id ∧ view.Closed context.call

/-- A complete group whose gather callback has not returned. -/
def Firing (view : View Body) (group : Nat) : Prop :=
  ∃ context size messages, view.find group = some context ∧
    context.shape = .group size messages false ∧ messages.length = size

/-- Who is in the gather callback of a group: the frame, or a suspended fiber. -/
def Holder (view : View Body) : Option Nat → Nat → Prop
  | none, group => ∃ frame held, view.frame = some frame ∧ frame.stage = .gather group held
  | some fiber, group =>
      ∃ context held, view.find fiber = some context ∧
        context.shape = .fiber (.suspend (.gather group held))

/-- What a frame relies on: its context and its fiber. -/
structure Framed (view : View Body) (frame : Frame Body) : Prop where
  ctx : ∀ id, frame.ctx = some id → ∃ context, view.find id = some context ∧
    (context.shape = .plain → view.Closed context.call)
  fiber : ∀ id, frame.fiber = some id →
    (∃ context, view.find id = some context ∧ context.shape = .fiber .running) ∧
      ∃ message, frame.message = some message ∧ view.sync message.target.intf = true

/-- The law of a view: calls are numbered, contexts match their calls, every open call
that was recorded has its context, failed scatters have none, frames have what they
rely on, a request has no context, and whoever is in the gather callback of a group is
there alone. -/
structure Law (view : View Body) : Prop where
  numbered : ∀ number call, view.ledger number = some call →
    0 < number ∧ number ≤ view.calls ∧ call.answers.length ≤ call.size
  stamped : ∀ id context, view.find id = some context → context.call ≤ view.calls
  stored : ∀ id context, view.find id = some context → view.Stored id context
  waiting : ∀ number call, view.ledger number = some call → call.Open →
    call.recorded = true → ∃ context, view.find call.reqid = some context ∧ context.call = number
  lost : ∀ number call, view.ledger number = some call → call.recorded = false →
    call.scatter = true ∧ call.reqid ∈ view.abandoned
  absent : ∀ id, id ∈ view.abandoned → view.find id = none
  framed : ∀ frame, view.frame = some frame → view.Framed frame
  opened : ∀ frame message, view.frame = some frame → frame.message = some message →
    message.isCall = true → frame.ctx = none
  firing : ∀ holder group, view.Holder holder group → view.Firing group
  alone : ∀ holder other group, view.Holder holder group → view.Holder other group →
    holder = other

variable (view : View Body)

/-- A context keeps its place when its call is as before and its fiber or turn, if it is
the one of the frame, goes on. -/
theorem stored_frame (next : View Body) (id : Nat) (context : Context Body)
    (stored : view.Stored id context)
    (ledger : next.ledger context.call = view.ledger context.call) (sync : next.sync = view.sync)
    (fiber : context.shape = .fiber .running → view.fiber = some id → next.fiber = some id)
    (current : context.shape = .fiber .dead → view.current = some id → next.current = some id) :
    next.Stored id context := by
  unfold Stored Closed at *
  rw [ledger, sync]
  split
  next shape =>
    rw [shape] at stored
    exact stored
  next size messages done shape =>
    rw [shape] at stored
    exact stored
  next shape =>
    rw [shape] at stored
    exact ⟨fiber shape stored.1, stored.2⟩
  next stage shape =>
    rw [shape] at stored
    exact stored
  next shape =>
    rw [shape] at stored
    exact ⟨current shape stored.1, stored.2⟩

/-- The case in which the frame stays as it is. -/
theorem stored_still (next : View Body) (id : Nat) (context : Context Body)
    (stored : view.Stored id context)
    (ledger : next.ledger context.call = view.ledger context.call) (sync : next.sync = view.sync)
    (frame : next.frame = view.frame) :
    next.Stored id context := by
  apply stored_frame view next id context stored ledger sync
  · intro _ runs
    rw [fiber, frame]
    exact runs
  · intro _ handled
    rw [current, frame]
    exact handled

/-- The case in which a turn begins. -/
theorem stored_begin (next : View Body) (id : Nat) (context : Context Body)
    (stored : view.Stored id context)
    (ledger : next.ledger context.call = view.ledger context.call) (sync : next.sync = view.sync)
    (rests : view.frame = none) : next.Stored id context := by
  apply stored_frame view next id context stored ledger sync
  · intro _ runs
    simp [fiber, rests] at runs
  · intro _ handled
    simp [current, rests] at handled

/-- The case in which the turn goes on, and the fiber too if it is that of the context. -/
theorem stored_turn (next : View Body) (frame after : Frame Body) (id : Nat)
    (context : Context Body) (stored : view.Stored id context)
    (ledger : next.ledger context.call = view.ledger context.call) (sync : next.sync = view.sync)
    (runs : view.frame = some frame) (goes : next.frame = some after)
    (ctx : after.ctx = frame.ctx) (threaded : frame.fiber = some id → after.fiber = some id) :
    next.Stored id context := by
  apply stored_frame view next id context stored ledger sync
  · intro _ alive
    rw [fiber, runs] at alive
    rw [fiber, goes]
    exact threaded alive
  · intro _ handled
    rw [current, runs] at handled
    rw [current, goes]
    exact ctx.trans handled

/-- The context of an open call is stored under its id. -/
theorem stored_owner (id : Nat) (context : Context Body) (call : Call Body)
    (stored : view.Stored id context) (entered : view.ledger context.call = some call)
    (waits : call.Open) : call.reqid = id := by
  unfold Stored at stored
  split at stored
  next =>
    obtain ⟨known, same, kept⟩ := stored
    rw [entered] at same
    cases same
    exact kept.reqid
  next =>
    obtain ⟨known, same, kept, _⟩ := stored
    rw [entered] at same
    cases same
    exact kept.reqid
  next => exact absurd waits (stored.2 call entered).1
  next =>
    obtain ⟨known, same, kept, _⟩ := stored
    rw [entered] at same
    cases same
    exact kept.reqid
  next => exact absurd waits (stored.2 call entered).1

end View

end Mola.Requests
