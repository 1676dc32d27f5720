import Mola.Tickets

/-!
# Requests, replies and their contexts

An actor handles one message at a time. While a callback runs it can send requests,
scatter groups of messages, ask for a lock or an event, wait on a fiber for a reply, and
save the right to reply later. Each of these that expects an answer has a request id,
under which a context waits in the actor's map. The context remembers the initiator:
the message on whose behalf the request was sent. When the answer is handled, the
context is installed, and a value that the callback returns goes to the initiator.

One action is the code that the actor runs between two decisions of its callbacks.
A failed assertion or a null dereference halts the process. Pointers to contexts are
the ids under which they are stored, and `m_current_message` and `m_current_ctx` are in
the frame of the running callback, since they are set anew for every message. A handler
of a gather message is the wrapper that calls `InsertToGatherCtx` and then
`SwitchToGatherCtx`.

The number of a call in messages and contexts, the ids of failed scatters and the list
of issued ids are for reasoning only: no step depends on them. User pointers that are
stored and handed back, the routing of messages and the lifetime of their buffers are
not modelled.
-/

namespace Mola.Requests

open Tickets

universe u

/-- The four kinds of messages. -/
inductive Kind where
  | request
  | response
  | scatter
  | gather
deriving DecidableEq

/-- An actor and one of its interfaces. -/
structure Address where
  actor : Nat
  intf : Nat
deriving DecidableEq

/-- The metadata of a message that requests and replies use, with its body. A request
or scatter message has the number of its call, a reply that of the call it answers. -/
structure Message (Body : Type u) where
  kind : Kind
  reqid : Nat
  sender : Address
  target : Address
  call : Nat
  body : Body
deriving DecidableEq

/-- Where a callback stands: in the interface, or in the gather callback that
`SwitchToGatherCtx` runs for a group, of which it has copied the initiator. -/
inductive Stage (Body : Type u) where
  | interface
  | gather (group : Nat) (initiator : Option (Message Body))
deriving DecidableEq

/-- A fiber runs, is suspended at a stage until its reply comes, or has returned. -/
inductive FiberState (Body : Type u) where
  | running
  | suspend (stage : Stage Body)
  | dead
deriving DecidableEq

/-- The three classes of request contexts: of a plain request, of a scatter (a
`GatherGroup`), and of a fiber (a `FiberReqCtx`). -/
inductive Shape (Body : Type u) where
  | plain
  | group (size : Nat) (messages : List Body) (done : Bool)
  | fiber (state : FiberState Body)
deriving DecidableEq

/-- A request context. Its initiator is nil when it was made in the init callback. The
call is the last one that it was recorded for, or zero. -/
structure Context (Body : Type u) where
  initiator : Option (Message Body)
  shape : Shape Body
  call : Nat
deriving DecidableEq

/-- A saved return state, with the message type that `SaveReturnState` was given. -/
structure Saved (Body : Type u) where
  initiator : Option (Message Body)
  vtab : Option Nat

/-- The callback that runs: the current message (nil in the init callback), the current
context, and the fiber that it runs on. -/
structure Frame (Body : Type u) where
  message : Option (Message Body)
  ctx : Option Nat
  fiber : Option Nat
  stage : Stage Body

/-- Why the process stopped: an assertion of `insert_req_ctx`, of `invoke_message` (on
gather messages and on contexts), of `SwitchToGatherCtx`, or of `ReplyMsg`, or a null
dereference. -/
inductive Halt where
  | insertAssertion
  | gatherAssertion
  | contextAssertion
  | initiatorAssertion
  | replyAssertion
  | nullPointer
deriving DecidableEq

/-- An actor waits for a message, runs a callback, or has stopped the process. -/
inductive Status (Body : Type u) where
  | idle
  | running (frame : Frame Body)
  | halted (reason : Halt)

/-- The state of an actor. `sync` says which interfaces run on a fiber. -/
structure Actor (Body : Type u) where
  self : Address
  sync : Nat → Bool
  reqids : Dispenser
  contexts : AList fun _ : Nat => Context Body
  saved : AList fun _ : Nat => Saved Body
  handles : Nat
  status : Status Body
  calls : Nat
  abandoned : List Nat
  issued : List Nat

/-- Who returned a value: a callback for a request or response, the gather callback of a
group, an interface that handled a gather message, or `ReplyMsg` with a handle. -/
inductive Source where
  | callback
  | gatherCallback
  | gatherHandler
  | saved (handle : Nat)
deriving DecidableEq

/-- What an action did outside the tables of the actor. -/
inductive Effect (Body : Type u) where
  /-- A call that a number of messages can answer, and whether it has a context. -/
  | called (call reqid intf size : Nat) (scatter recorded : Bool)
  /-- A request or scatter message was put on its way. -/
  | sent (message : Message Body)
  /-- A value was dispatched. -/
  | replied (source : Source) (message : Message Body)
  /-- An answer to a call was given the context of a call. -/
  | installed (call : Nat) (found : Option Nat)
  /-- The gather callback of a call started with these messages. -/
  | gathered (call : Nat) (messages : List Body)
  /-- The context of a call was deleted and its id recycled. -/
  | recycled (call reqid : Nat)
  /-- A return state was saved under a handle. -/
  | saved (handle : Nat)

/-- What became of a message that was dispatched: it was delivered or put off and the
reference stays, it was passed to another node and the reference is nil, or the
dispatch failed. -/
inductive Outcome where
  | kept
  | passed
  | failed
deriving DecidableEq

/-- A message of a scatter, and whether its dispatch succeeds. -/
structure Posting (Body : Type u) where
  target : Address
  body : Body
  accepted : Bool

/-- The next action: a message is taken from the mailbox, or the running callback calls
the runtime or returns. A null message of a scatter is `none`, as is the null handle of
`ReplyMsg`. -/
inductive Act (Body : Type u) where
  | receive (message : Message Body)
  | send (target : Address) (returnIntf : Option Nat) (body : Body) (outcome : Outcome)
  | scatter (gatherIntf : Nat) (postings : List (Option (Posting Body)))
  | lock (returnIntf : Nat)
  | call (target : Address) (body : Body) (outcome : Outcome)
  | save (vtab : Option Nat)
  | reply (handle : Option Nat) (vtab : Nat) (body : Body)
  | gatherReturn (value : Option Body)
  | finish (value : Option Body)

variable {Body : Type u}

/-- An actor in its init callback. -/
def create (self : Address) (sync : Nat → Bool) : Actor Body where
  self := self
  sync := sync
  reqids := ⟨0, []⟩
  contexts := ∅
  saved := ∅
  handles := 0
  status := .running ⟨none, none, none, .interface⟩
  calls := 0
  abandoned := []
  issued := []

/-- Stop the process. -/
def halt (actor : Actor Body) (reason : Halt) : Actor Body :=
  { actor with status := .halted reason }

/-- Go on in a frame. -/
def resume (actor : Actor Body) (frame : Frame Body) : Actor Body :=
  { actor with status := .running frame }

/-- A recycled id, or the next one of the 32-bit generator. -/
def newReqid (actor : Actor Body) : Nat × Actor Body :=
  let (reqid, reqids) := issue (2 ^ 32) actor.reqids
  (reqid, { actor with reqids := reqids, issued := reqid :: actor.issued })

/-- Recycle an id. -/
def releaseReqid (actor : Actor Body) (reqid : Nat) : Actor Body :=
  { actor with reqids := giveBack actor.reqids reqid }

/-- The context under an id. -/
def findReqCtx (actor : Actor Body) (reqid : Nat) : Option (Context Body) :=
  actor.contexts.lookup reqid

/-- Store a context under an id. -/
def assignReqCtx (actor : Actor Body) (reqid : Nat) (context : Context Body) : Actor Body :=
  { actor with contexts := actor.contexts.insert reqid context }

/-- Change the context under an id. -/
def updateReqCtx (actor : Actor Body) (reqid : Nat) (change : Context Body → Context Body) :
    Actor Body :=
  match findReqCtx actor reqid with
  | none => actor
  | some context => assignReqCtx actor reqid (change context)

/-- Store a context under a new id. The assertion is that there is none yet. -/
def insertReqCtx (actor : Actor Body) (reqid : Nat) (context : Context Body) : Actor Body :=
  match findReqCtx actor reqid with
  | none => assignReqCtx actor reqid context
  | some _ => halt actor .insertAssertion

/-- Whether a context can be deleted. -/
def Shape.done : Shape Body → Bool
  | .plain => true
  | .group _ _ done => done
  | .fiber .dead => true
  | .fiber _ => false

/-- Delete the context under an id when it is done. -/
def deleteReqCtx (actor : Actor Body) (reqid : Nat) : Actor Body × List (Effect Body) :=
  match findReqCtx actor reqid with
  | none => (actor, [])
  | some context =>
      if context.shape.done then
        ({ releaseReqid actor reqid with contexts := actor.contexts.erase reqid },
          [.recycled context.call reqid])
      else (actor, [])

/-- The initiator for what a frame starts: that of its context, or its own message. -/
def initiatorOf (actor : Actor Body) (frame : Frame Body) : Option (Message Body) :=
  match frame.ctx with
  | some reqid => (findReqCtx actor reqid).bind Context.initiator
  | none => frame.message

/-- The next number for a call. -/
def nextCall (actor : Actor Body) : Actor Body := { actor with calls := actor.calls + 1 }

/-- Record a plain request. -/
def onAsyncSendDone (actor : Actor Body) (frame : Frame Body) (reqid : Nat) : Actor Body :=
  insertReqCtx actor reqid ⟨initiatorOf actor frame, .plain, actor.calls⟩

/-- Record a scatter. The size is a 32-bit word. -/
def onScatterDone (actor : Actor Body) (frame : Frame Body) (reqid size : Nat) : Actor Body :=
  insertReqCtx actor reqid
    ⟨initiatorOf actor frame, .group (size % 2 ^ 32) [] false, actor.calls⟩

/-- `Dispatcher::dispatch` of a request. Only a request with a return interface has an
id: the one that it brings, or a new one, which is recorded when the dispatch succeeds
and released when it fails. A message that was passed on leaves a nil reference, which
is read when its context is recorded. -/
def dispatch (actor : Actor Body) (frame : Frame Body) (reqid : Nat) (target : Address)
    (returnIntf : Option Nat) (body : Body) (outcome : Outcome) :
    Actor Body × List (Effect Body) :=
  match returnIntf with
  | none =>
      let message : Message Body := ⟨.request, reqid, actor.self, target, 0, body⟩
      (actor, if outcome = .failed then [] else [.sent message])
  | some intf =>
      let sender : Address := { actor.self with intf := intf }
      let numbered := nextCall actor
      if reqid = 0 then
        let (fresh, after) := newReqid numbered
        let message : Message Body := ⟨.request, fresh, sender, target, after.calls, body⟩
        match outcome with
        | .kept =>
            (onAsyncSendDone after frame fresh,
              [.called after.calls fresh intf 1 false true, .sent message])
        | .passed => (halt after .nullPointer, [.sent message])
        | .failed => (releaseReqid after fresh, [])
      else
        let message : Message Body := ⟨.request, reqid, sender, target, numbered.calls, body⟩
        if outcome = .failed then (actor, [])
        else (numbered, [.called numbered.calls reqid intf 1 false true, .sent message])

/-- `ScatterToIntf`. The group leaves out null messages. The scatter fails when there is
one, or when a dispatch fails; its id is then given up for good. The destructor records
the group unless its id is the invalid one. -/
def scatterToIntf (actor : Actor Body) (frame : Frame Body) (gatherIntf : Nat)
    (postings : List (Option (Posting Body))) : Actor Body × List (Effect Body) :=
  if postings = [] then (actor, [])
  else
    let sender : Address := { actor.self with intf := gatherIntf }
    let group := postings.filterMap fun posting => posting
    let (reqid, after) := newReqid (nextCall actor)
    let accepted :=
      if group.length = postings.length then group.filter Posting.accepted else []
    let messages : List (Effect Body) := accepted.map fun posting =>
      .sent ⟨.scatter, reqid, sender, posting.target, after.calls, posting.body⟩
    if accepted.length = postings.length then
      if reqid = 0 then
        (after, .called after.calls reqid gatherIntf accepted.length true false :: messages)
      else
        (onScatterDone after frame reqid accepted.length,
          .called after.calls reqid gatherIntf accepted.length true true :: messages)
    else
      ({ after with abandoned := reqid :: after.abandoned },
        .called after.calls reqid gatherIntf accepted.length true false :: messages)

/-- `Lock` and `Subscribe`: the answer comes from the node manager. -/
def lockOrSubscribe (actor : Actor Body) (frame : Frame Body) (returnIntf : Nat) :
    Actor Body × List (Effect Body) :=
  let (reqid, after) := newReqid (nextCall actor)
  (onAsyncSendDone after frame reqid, [.called after.calls reqid returnIntf 1 false true])

/-- The end of a turn of the message loop: delete the current context if it is done. -/
def endExecute (actor : Actor Body) (frame : Frame Body) : Actor Body × List (Effect Body) :=
  let (after, effects) :=
    match frame.ctx with
    | some reqid => deleteReqCtx actor reqid
    | none => (actor, [])
  ({ after with status := .idle }, effects)

/-- `wait_response` suspends the fiber, and the thread goes on in `invoke_message`. -/
def suspendFiber (actor : Actor Body) (frame : Frame Body) (fiber : Nat) : Actor Body :=
  resume
    (updateReqCtx actor fiber fun context =>
      { context with shape := .fiber (.suspend frame.stage), call := actor.calls })
    { frame with fiber := none, stage := .interface }

/-- `SendMsgToIntfAndRecv` on a fiber: the request has the id of the fiber, and the reply
comes to the interface that the fiber runs. -/
def sendAndRecv (actor : Actor Body) (frame : Frame Body) (fiber intf : Nat)
    (target : Address) (body : Body) (outcome : Outcome) : Actor Body × List (Effect Body) :=
  let (after, effects) := dispatch actor frame fiber target (some intf) body outcome
  match after.status with
  | .running _ =>
      if outcome = .failed then (after, effects)
      else
        let (ended, more) := endExecute (suspendFiber after frame fiber) frame
        (ended, effects ++ more)
  | _ => (after, effects)

/-- The answer to a message: its kind depends on what is answered. -/
def replyTo (actor : Actor Body) (initiator : Message Body) (body : Body) : Message Body where
  kind := if initiator.kind = .scatter then .gather else .response
  reqid := initiator.reqid
  sender := actor.self
  target := initiator.sender
  call := initiator.call
  body := body

/-- `SaveReturnState`. -/
def saveReturnState (actor : Actor Body) (frame : Frame Body) (vtab : Option Nat) :
    Actor Body × List (Effect Body) :=
  ({ actor with
      saved := actor.saved.insert actor.handles ⟨initiatorOf actor frame, vtab⟩
      handles := actor.handles + 1 },
    [.saved actor.handles])

/-- `ReplyMsg`. A null handle and a wrong message type are refused. A handle that was
used before is a dangling pointer. -/
def replyMsg (actor : Actor Body) (handle : Option Nat) (vtab : Nat) (body : Body) :
    Option (Actor Body × List (Effect Body)) :=
  match handle with
  | none => some (actor, [])
  | some handle =>
      match actor.saved.lookup handle with
      | none => none
      | some saved =>
          if saved.vtab = none ∨ saved.vtab = some vtab then
            match saved.initiator with
            | none => some (halt actor .nullPointer, [])
            | some initiator =>
                if initiator.kind = .request ∨ initiator.kind = .scatter then
                  some ({ actor with saved := actor.saved.erase handle },
                    [.replied (.saved handle) (replyTo actor initiator body)])
                else some (halt actor .replyAssertion, [])
          else some (actor, [])

/-- `InsertToGatherCtx`. -/
def insertToGatherCtx (actor : Actor Body) (group : Nat) (body : Body) : Actor Body :=
  updateReqCtx actor group fun context =>
    match context.shape with
    | .group size messages done => { context with shape := .group size (messages ++ [body]) done }
    | _ => context

/-- `SwitchToGatherCtx` up to the gather callback, which runs when the group is ready. -/
def switchToGatherCtx (actor : Actor Body) (frame : Frame Body) (group : Nat) :
    Actor Body × List (Effect Body) :=
  match findReqCtx actor group with
  | some ⟨initiator, .group size messages _, call⟩ =>
      if messages.length = size then
        (resume actor { frame with stage := .gather group initiator }, [.gathered call messages])
      else (actor, [])
  | _ => (actor, [])

/-- `SwitchToGatherCtx` after the gather callback: reply, and set the group done. -/
def gatherReturn (actor : Actor Body) (frame : Frame Body) (group : Nat)
    (initiator : Option (Message Body)) (value : Option Body) :
    Actor Body × List (Effect Body) :=
  let after := resume
    (updateReqCtx actor group fun context =>
      match context.shape with
      | .group size messages _ => { context with shape := .group size messages true }
      | _ => context)
    { frame with stage := .interface }
  match value with
  | none => (after, [])
  | some body =>
      match initiator with
      | none => (halt actor .initiatorAssertion, [])
      | some initiator => (after, [.replied .gatherCallback (replyTo actor initiator body)])

/-- The return of a callback from its fiber: the context of the fiber is deleted here
unless it is the current one. -/
def returnFromFiber (actor : Actor Body) (frame : Frame Body) :
    Actor Body × List (Effect Body) :=
  match frame.fiber with
  | none => (actor, [])
  | some fiber =>
      let dead := updateReqCtx actor fiber fun context => { context with shape := .fiber .dead }
      let (after, effects) :=
        if fiber = frame.ctx.getD 0 then (dead, []) else deleteReqCtx dead fiber
      (resume after { frame with fiber := none }, effects)

/-- The message that a returned value answers: the initiator for a response, otherwise
the message itself. -/
def answeredBy (actor : Actor Body) (frame : Frame Body) (message : Message Body) :
    Except Halt (Source × Message Body) :=
  match message.kind with
  | .response =>
      match frame.ctx with
      | none => .error .contextAssertion
      | some reqid =>
          match (findReqCtx actor reqid).bind Context.initiator with
          | none => .error .nullPointer
          | some initiator => .ok (.callback, initiator)
  | .gather => .ok (.gatherHandler, message)
  | _ => .ok (.callback, message)

/-- The rest of `invoke_message` after the callback, and the end of the turn. The init
callback returns no value. -/
def finish (actor : Actor Body) (frame : Frame Body) (value : Option Body) :
    Option (Actor Body × List (Effect Body)) :=
  let (returned, effects) := returnFromFiber actor frame
  let (ended, more) := endExecute returned frame
  match value with
  | none => some (ended, effects ++ more)
  | some body =>
      match frame.message with
      | none => none
      | some message =>
          match answeredBy returned frame message with
          | .error reason => some (halt returned reason, effects)
          | .ok (source, initiator) =>
              some (ended, effects ++ .replied source (replyTo actor initiator body) :: more)

/-- Start the callback of a message in its frame, on a new fiber or on the suspended one
of the current context when the interface is a synchronous one. Outside a turn of the
loop no fiber in the map is in another state. -/
def callIntf (actor : Actor Body) (message : Message Body) (ctx : Option Nat) :
    Option (Actor Body) :=
  let frame : Frame Body := ⟨some message, ctx, none, .interface⟩
  if actor.sync message.target.intf then
    match ctx.bind (findReqCtx actor) with
    | some ⟨initiator, .fiber (.suspend stage), call⟩ =>
        some (resume (assignReqCtx actor (ctx.getD 0) ⟨initiator, .fiber .running, call⟩)
          { frame with fiber := ctx, stage := stage })
    | some ⟨_, .fiber _, _⟩ => none
    | _ =>
        let (reqid, after) := newReqid actor
        some (insertReqCtx (resume after { frame with fiber := some reqid }) reqid
          ⟨initiatorOf actor frame, .fiber .running, 0⟩)
  else some (resume actor frame)

/-- `invoke_message` up to the callback, with the wrapper of a gather interface. A
response to a group counts as a gather. -/
def invokeMessage (actor : Actor Body) (message : Message Body) (ctx : Option Nat) :
    Option (Actor Body × List (Effect Body)) :=
  match ctx.bind (findReqCtx actor) with
  | some ⟨_, .group _ _ _, _⟩ =>
      match callIntf actor { message with kind := .gather } ctx with
      | none => none
      | some entered =>
          match entered.status with
          | .running frame =>
              some (switchToGatherCtx (insertToGatherCtx entered (ctx.getD 0) message.body) frame
                (ctx.getD 0))
          | _ => some (entered, [])
  | _ =>
      if message.kind = .gather then some (halt actor .gatherAssertion, [])
      else (callIntf actor message ctx).map fun entered => (entered, [])

/-- A turn of the message loop up to the callback: only a response or gather message with
a request id has a context. -/
def execute (actor : Actor Body) (message : Message Body) :
    Option (Actor Body × List (Effect Body)) :=
  if (message.kind = .response ∨ message.kind = .gather) ∧ message.reqid ≠ 0 then
    let found := findReqCtx actor message.reqid
    (invokeMessage actor message (found.map fun _ => message.reqid)).map
      fun (after, effects) => (after, .installed message.call (found.map Context.call) :: effects)
  else invokeMessage actor message none

/-- One action of the actor. The size of a scatter is counted by a signed word. -/
def step (actor : Actor Body) (act : Act Body) : Option (Actor Body × List (Effect Body)) :=
  match actor.status, act with
  | .idle, .receive message => execute actor message
  | .running frame, .send target returnIntf body outcome =>
      some (dispatch actor frame 0 target returnIntf body outcome)
  | .running frame, .scatter gatherIntf postings =>
      if postings.length < 2 ^ 31 then some (scatterToIntf actor frame gatherIntf postings)
      else none
  | .running frame, .lock returnIntf => some (lockOrSubscribe actor frame returnIntf)
  | .running frame, .call target body outcome =>
      match frame.fiber, frame.message with
      | some fiber, some message =>
          some (sendAndRecv actor frame fiber message.target.intf target body outcome)
      | _, _ => none
  | .running frame, .save vtab => some (saveReturnState actor frame vtab)
  | .running _, .reply handle vtab body => replyMsg actor handle vtab body
  | .running frame, .gatherReturn value =>
      match frame.stage with
      | .gather group initiator => some (gatherReturn actor frame group initiator value)
      | .interface => none
  | .running frame, .finish value =>
      match frame.stage with
      | .interface => finish actor frame value
      | .gather _ _ => none
  | _, _ => none

end Mola.Requests
