import Mola.FiberRuns

/-!
# Events of fibers

A fiber can create an event: a response to its own interface under its own request id,
which it hands to others. `NotifyEvent` puts data into this message and dispatches it.
`WaitForNotify` suspends the fiber as a synchronous call does, and sends nothing. The
message that resumes a suspended fiber is what its `SendMsgToIntfAndRecv` or its
`WaitForNotify` returns, whichever it waits in.

A wait has a number and an entry in the ledger as a call has, and is answered by an
event. Each message that is taken from the mailbox has a number, and the life of a fiber
is the number of the message that started it. By its life a fiber is known after its id
is used again.

The actor does not tell a notification from a reply. A call returns its own reply and a
wait returns the data of an event of its fiber in every run in which no event is handled
at the wrong moment: an event finds no context under its id, or the fiber that created it
in `WaitForNotify`.

A notification consumes the event, so an event is notified once. `CreateEvent` outside a
fiber is not modelled.
-/

namespace Mola.Requests.FiberEvents

universe u

/-- An event: the id and the interface in its message, the life of the fiber that created
it, the sender and the data once it is notified, and whether its message was handled. -/
structure Event (Body : Type u) where
  reqid : Nat
  intf : Nat
  life : Nat
  notice : Option (Address × Body)
  handled : Bool

/-- Where a message comes from: it is the reply to a call, or the message of an event with
its data, or none of these. -/
inductive Origin (Body : Type u) where
  | reply (call : Nat)
  | event (life : Nat) (data : Body)
  | other
deriving DecidableEq

/-- What a suspended fiber got: the number of its call or wait, its life when it was in
`WaitForNotify`, and the message that resumed it. -/
structure Result (Body : Type u) where
  number : Nat
  waiter : Option Nat
  origin : Origin Body
  message : Message Body

/-- An actor with its ledger, the lives of its fibers by their ids, the number of messages
taken from the mailbox, the events that were created, the lives of the fibers that waited
by the numbers of the waits, and the results. -/
structure World (Body : Type u) where
  solo : Solo Body
  lives : Nat → Nat
  taken : Nat
  events : Nat → Option (Event Body)
  created : Nat
  waits : Nat → Option Nat
  results : List (Result Body)

/-- A request or scatter message arrives, a reply arrives, the running callback takes an
action, creates an event or waits, somebody notifies an event, or the message of an event
is taken from the mailbox. -/
inductive Deed (Body : Type u) where
  | arrive (message : Message Body)
  | reply (call : Nat) (sender : Address) (body : Body)
  | act (act : Act Body)
  | createEvent
  | waitForNotify
  | notifyEvent (event : Nat) (sender : Address) (data : Body)
  | handle (event : Nat)

variable {Body : Type u}

/-- `CreateEvent`: the target of the message is the current interface, and its id is that
of the fiber. -/
def createEvent (message : Message Body) (fiber life : Nat) : Event Body :=
  ⟨fiber, message.target.intf, life, none, false⟩

/-- The message of an event as `NotifyEvent` dispatches it. -/
def notification (actor : Actor Body) (event : Event Body) (sender : Address) (data : Body) :
    Message Body where
  kind := .response
  reqid := event.reqid
  sender := sender
  target := { actor.self with intf := event.intf }
  call := 0
  body := data

/-- `WaitForNotify` up to its suspension, and the end of the turn. -/
def waitForNotify (actor : Actor Body) (frame : Frame Body) (fiber intf : Nat) :
    Actor Body × List (Effect Body) :=
  let numbered := nextCall actor
  let (ended, more) := endExecute (suspendFiber numbered frame fiber) frame
  (ended, .called numbered.calls fiber intf 1 false true :: more)

/-- The fiber that runs. -/
def fiberOf (actor : Actor Body) : Option Nat :=
  match actor.status with
  | .running frame => frame.fiber
  | _ => none

/-- The number of the call or wait that returns when a step resumes a suspended fiber. -/
def resumed (actor after : Actor Body) : Option Nat :=
  (fiberOf after).bind fun id =>
    match findReqCtx actor id with
    | some ⟨_, .fiber (.suspend _), number⟩ => some number
    | _ => none

/-- A message was taken from the mailbox: a fiber that starts has a new life, and a fiber
that is resumed has a result. -/
def deliver (world : World Body) (solo : Solo Body) (origin : Origin Body)
    (message : Message Body) : World Body :=
  { world with
    solo := solo
    lives :=
      match begun world.solo.actor solo.actor with
      | some id => Function.update world.lives id world.taken
      | none => world.lives
    taken := world.taken + 1
    results := world.results ++
      ((resumed world.solo.actor solo.actor).map fun number =>
        ⟨number, world.waits number, origin, message⟩).toList }

/-- The ledger when the message of an event is handled. It answers the wait of the fiber
under its id. Otherwise it is handled on nobody's behalf. -/
def noted (world : World Body) (event : Event Body) (data : Body) : Solo Body :=
  match findReqCtx world.solo.actor event.reqid with
  | some ⟨_, .fiber (.suspend _), number⟩ =>
      match world.waits number, world.solo.ledger number with
      | some _, some call =>
          { heard world.solo number call data with
            log := world.solo.log ++ [.installed number (some number)] }
      | _, _ => { world.solo with root := none }
  | _ => { world.solo with root := none }

/-- One step. -/
def worldStep (world : World Body) : Deed Body → Option (World Body)
  | .arrive message =>
      (soloStep world.solo (.arrive message)).map fun solo => deliver world solo .other message
  | .reply number sender body =>
      match world.waits number, world.solo.ledger number with
      | none, some call =>
          (soloStep world.solo (.answer number sender body)).map fun solo =>
            deliver world solo (.reply number) (answerTo world.solo number call sender body)
      | _, _ => none
  | .act act => (soloStep world.solo (.act act)).map fun solo => { world with solo := solo }
  | .createEvent =>
      match world.solo.actor.status with
      | .running ⟨some message, _, some fiber, _⟩ =>
          some { world with
            events := Function.update world.events world.created
              (some (createEvent message fiber (world.lives fiber)))
            created := world.created + 1 }
      | _ => none
  | .waitForNotify =>
      match world.solo.actor.status with
      | .running ⟨some message, ctx, some fiber, stage⟩ =>
          some { world with
            solo := advance world.solo
              (waitForNotify world.solo.actor ⟨some message, ctx, some fiber, stage⟩ fiber
                message.target.intf)
            waits := Function.update world.waits (world.solo.actor.calls + 1)
              (some (world.lives fiber)) }
      | _ => none
  | .notifyEvent number sender data =>
      match world.events number with
      | some ⟨reqid, intf, life, none, handled⟩ =>
          some { world with
            events := Function.update world.events number
              (some ⟨reqid, intf, life, some (sender, data), handled⟩) }
      | _ => none
  | .handle number =>
      match world.events number with
      | some ⟨reqid, intf, life, some (sender, data), false⟩ =>
          let event : Event Body := ⟨reqid, intf, life, some (sender, data), true⟩
          let message := notification world.solo.actor event sender data
          (step world.solo.actor (.receive message)).map fun result =>
            { deliver world { noted world event data with actor := result.1 } (.event life data)
                message with
              events := Function.update world.events number (some event) }
      | _ => none

/-- An actor in its init callback. -/
def start (self : Address) (sync : Nat → Bool) : World Body where
  solo := begin self sync
  lives := fun _ => 0
  taken := 0
  events := fun _ => none
  created := 0
  waits := fun _ => none
  results := []

/-- A call returned its own reply, and a wait returned the data of an event that the same
fiber had created. -/
def Result.Right (result : Result Body) : Prop :=
  result.origin =
    match result.waiter with
    | none => .reply result.number
    | some life => .event life result.message.body

/-- Whether a result is right can be decided. -/
instance [DecidableEq Body] (result : Result Body) : Decidable result.Right :=
  inferInstanceAs (Decidable (_ = _))

/-- A step that takes a request id leaves fewer than `2 ^ 32` ids outstanding or
abandoned. -/
def roomy (world : World Body) (deed : Deed Body) : Bool :=
  match worldStep world deed with
  | none => true
  | some next =>
      decide (next.solo.actor.issued.length = world.solo.actor.issued.length) ||
        decide (world.solo.actor.contexts.keys.length + world.solo.actor.abandoned.length + 1 <
          2 ^ 32)

/-- An event is handled when there is no context under its id, or when the fiber that
created it is in `WaitForNotify`. -/
def timely (world : World Body) : Deed Body → Bool
  | .handle number =>
      match world.events number with
      | none => true
      | some event =>
          match findReqCtx world.solo.actor event.reqid with
          | none => true
          | some ⟨_, .fiber (.suspend _), wait⟩ => world.waits wait == some event.life
          | some _ => false
  | _ => true

end Mola.Requests.FiberEvents
