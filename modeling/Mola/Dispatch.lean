import Mola.Gateway

/-!
# Dispatching a message

`Dispatcher::dispatch` puts a message on its way. A message for this node goes into
the mailbox of an actor. One whose module is not loaded is turned into an error
message and sent back. A message for another node goes to the node's connection,
which is opened first if need be, and a message for a node that nobody knows is put
off until the table of nodes changes. An error message that comes back deletes the
node that sent it.

The result is zero whatever became of a message given to a node or to the pool of
delayed tasks, since both results are ignored. The last part says exactly which
inputs are lost that way: an endpoint that refuses the connection, a connection whose
mailbox is closed, and an unknown node under the single-node manager, which has no
pool.

A world is what one call can see: the table of nodes with the cache of the calling
thread, the registry server, the loaded modules and the mailboxes of their actors.
Which endpoints accept a connection is given by the environment. A failed assertion
or a dangling pointer ends the process. Waking up workers and the delay thread, traces,
and what a connection does with the transactions that it accepted are not modelled.
-/

namespace Mola

namespace ActorID

/-- The node id that every node takes for itself. -/
def localId : UInt32 := 0

/-- Overwrite the node field. -/
def setNodeId (id : ActorID) (nodeId : UInt32) : ActorID := { id with dnodeId := nodeId }

end ActorID

namespace Metadata

/-- The type of a request. -/
def typeRequest : UInt16 := 1

/-- The type of an error message. -/
def typeError : UInt16 := 0x8000

end Metadata

namespace Message

/-- Overwrite the type. -/
def setType (message : Message) (type : UInt16) : Message :=
  { message with metadata := { message.metadata with type := type } }

/-- Overwrite the sender. -/
def setSender (message : Message) (sender : ActorID) : Message :=
  { message with metadata := { message.metadata with sender := sender } }

/-- Overwrite the target. -/
def setTarget (message : Message) (target : ActorID) : Message :=
  { message with metadata := { message.metadata with target := target } }

/-- Overwrite the request id. -/
def setReqid (message : Message) (reqid : UInt32) : Message :=
  { message with metadata := { message.metadata with reqid := reqid } }

/-- The error bit is set. -/
def isError (message : Message) : Bool := message.metadata.type &&& Metadata.typeError != 0

end Message

namespace Dispatch

open ByteOrder

/-- The id of a node that has not joined, or is gone. -/
def invalidId : UInt32 := 0xffffffff

/-- A connection: whether its mailbox is closed, and the transactions that the mailbox
accepted, in order. -/
structure Client where
  closed : Bool
  accepted : List (List UInt8)
deriving DecidableEq

/-- A node object. The endpoint stands for its address and port. -/
structure Node where
  id : UInt32
  endpoint : Nat
  order : Order
  client : Option Client
deriving DecidableEq

/-- What the registry server stores about a node. It numbers nodes from one and skips
the wildcard. -/
structure Record where
  id : UInt32
  endpoint : Nat
  order : Order
  named : id ≠ ActorID.any ∧ id ≠ ActorID.localId

/-- A pointer to a node object: the local node, or a peer by its place. -/
inductive Pointer where
  | own
  | peer (place : Nat)
deriving DecidableEq

/-- The node cache of a thread. A null pointer can be stored as well. -/
structure Cache where
  valid : Bool
  entries : UInt32 → Option (Option Pointer)

/-- The mailbox of an actor. -/
structure Inbox where
  closed : Bool
  messages : List Message

/-- What a call of `dispatch` can see. The single-node manager has no registry and no
pool of delayed tasks. `localNodeId` is the static variable of the function of that
name, set by its first call. -/
structure World where
  host : Order
  singleNode : Bool
  localNode : Node
  localNodeId : Option UInt32
  peers : List Node
  alive : UInt32 → Option Pointer
  needSync : Bool
  registry : List Record
  accepting : Nat → Bool
  cache : Cache
  modules : UInt16 → Option Routing.Module
  inboxes : UInt16 → Nat → Inbox
  delayed : List Message

/-- The calling thread: not one of the runtime's, one that polls or runs delayed
tasks, or a worker with its current actor. -/
inductive Thread where
  | outside
  | helper
  | worker (current : Option ActorID)
deriving DecidableEq

/-- The process ended, or the call returned a code, the handle of the message and the
world that it left. The handle is nil after it was passed on. -/
inductive Outcome where
  | aborted
  | returned (code : Int) (handle : Option Message) (world : World)

/-- The node object behind a pointer. -/
def deref (world : World) : Pointer → Option Node
  | .own => some world.localNode
  | .peer place => world.peers[place]?

/-- The thread cache: an invalid one is cleared and has nothing. -/
def cacheGet (cache : Cache) (key : UInt32) : Option Pointer × Cache :=
  if cache.valid then ((cache.entries key).join, cache)
  else (none, ⟨true, fun _ => none⟩)

/-- Insertion keeps an entry that is already there. -/
def cacheInsert (cache : Cache) (key : UInt32) (value : Option Pointer) : Cache :=
  match cache.entries key with
  | some _ => cache
  | none => { cache with entries := Function.update cache.entries key (some value) }

/-- The node object that is made from a record. -/
def decode (record : Record) : Node := ⟨record.id, record.endpoint, record.order, none⟩

/-- A node and a record with the same id, address and byte order. -/
def equals (node : Node) (record : Record) : Bool :=
  node.id = record.id && node.endpoint = record.endpoint && node.order = record.order

/-- Make a node object from a record and insert it, unless the id has one already. The
flag says whether the id was new or its record has changed. -/
def updateCachedNode (world : World) (record : Record) : Bool × World :=
  match world.alive record.id with
  | some known =>
      (match deref world known with
        | some node => !equals node record
        | none => true,
        world)
  | none =>
      (true, { world with
        peers := world.peers ++ [decode record]
        alive := Function.update world.alive record.id (some (.peer world.peers.length)) })

/-- One record of a synchronisation. -/
def syncOne (state : Bool × World) (record : Record) : Bool × World :=
  let (changed, world) := updateCachedNode state.2 record
  (state.1 || changed, world)

/-- Insert every registered node but the local one and the clients. A change makes the
caches of the threads invalid. The single-node manager has nothing to insert. -/
def syncAllNodes (world : World) : World :=
  if world.singleNode then world
  else
    let listed := world.registry.filter fun record =>
      record.id < 0x10000 && record.id != world.localNode.id
    let (changed, synced) := listed.foldl syncOne (false, world)
    if changed then { synced with cache := { synced.cache with valid := false } } else synced

/-- The synchronisation that `find_node` makes when one is due. -/
def syncDue (world : World) : World :=
  if world.needSync then { syncAllNodes world with needSync := false } else world

/-- Ask the manager for a node: the single-node one has none, the other one asserts that
the id is not reserved and asks the server. -/
def findRecord (world : World) (id : UInt32) : Option (Option Record) :=
  if world.singleNode then some none
  else if id = ActorID.any ∨ id = ActorID.localId then none
  else some (world.registry.find? fun record => record.id = id)

/-- The cache of the thread after it looked up a node. -/
def cacheANode (world : World) (id : UInt32) (found : Option Pointer) : World :=
  { world with cache := cacheInsert world.cache id found }

/-- `find_node`: in the cache of the thread, in the table, or at the server. -/
def findNode (thread : Thread) (world : World) (id : UInt32) :
    Option (Option Pointer × World) :=
  if thread = .outside then none
  else
    let (cached, cache) := cacheGet world.cache id
    match cached with
    | some pointer => some (some pointer, { world with cache := cache })
    | none =>
        let world := syncDue { world with cache := cache }
        match world.alive id with
        | some pointer => some (some pointer, cacheANode world id (some pointer))
        | none =>
            match findRecord world id with
            | none => none
            | some none => some (none, cacheANode world id none)
            | some (some record) =>
                let pointer := Pointer.peer world.peers.length
                some (some pointer,
                  cacheANode (updateCachedNode world record).2 id (some pointer))

/-- `delete_node`, which the single-node manager does not have. -/
def deleteNode (world : World) (id : UInt32) : Option World :=
  if world.singleNode then none
  else
    match world.alive id with
    | none => some world
    | some _ => some { world with
        alive := Function.update world.alive id none
        cache := { world.cache with valid := false } }

/-- `Module::dispatch`: select or create the actor, rewrite the target and put the
message in the actor's mailbox. A closed mailbox is fatal. -/
def moduleDispatch (world : World) (key : UInt16) (module : Routing.Module)
    (message : Message) : Option (Message × World) :=
  let (actor, target, after) := Routing.dispatch module
    message.metadata.target.instanceId message.metadata.target.intfId
  let delivered := message.setTarget target
  let inbox := world.inboxes key actor.address
  if inbox.closed then none
  else
    some (delivered, { world with
      modules := Function.update world.modules key (some after)
      inboxes := Function.update world.inboxes key
        (Function.update (world.inboxes key) actor.address
          { inbox with messages := inbox.messages ++ [delivered] }) })

/-- The static id of `local_node_id`: the local node's id at the first call. -/
def readLocalNodeId (world : World) : UInt32 :=
  world.localNodeId.getD world.localNode.id

/-- `async_write`: a closed mailbox refuses the transaction, and its buffers are
deleted. -/
def asyncWrite (client : Client) (transaction : List UInt8) : Int × Client :=
  if client.closed then (-1, client)
  else (0, { client with accepted := client.accepted ++ [transaction] })

/-- Replace the node object at a place. -/
def setPeer (world : World) (place : Nat) (node : Node) : World :=
  { world with peers := world.peers.set place node }

/-- `get_client`: the connection of a peer, which is opened and given the handshake when
there is none and the endpoint accepts it. -/
def getClient (world : World) (node : Node) : Option Client × World :=
  match node.client with
  | some client => (some client, world)
  | none =>
      if world.accepting node.endpoint then
        let id := readLocalNodeId world
        let (_, client) := asyncWrite ⟨false, []⟩ (Gateway.handshake world.host id)
        (some client, { world with localNodeId := some id })
      else (none, world)

/-- The end of `Node::deliver_message`: the ids of the two nodes are written into the
message, and its buffers into the connection. What `async_write` returns is ignored. -/
def writeMessage (world : World) (place : Nat) (node : Node) (client : Client)
    (message : Message) : World :=
  let id := readLocalNodeId world
  let (_, client) := asyncWrite client
    (Gateway.deliver world.host node.order id node.id message)
  setPeer { world with localNodeId := some id } place { node with client := some client }

/-- `Node::deliver_message`. The local node is served by its modules. For a peer the
handle is passed to the buffers that are written, and is nil afterwards. -/
def deliverMessage (world : World) (pointer : Pointer) (message : Message) :
    Option (Int × Option Message × World) :=
  match pointer with
  | .own =>
      let key := message.metadata.target.dmoduleId
      match world.modules key with
      | none => none
      | some module =>
          (moduleDispatch world key module message).map fun (delivered, after) =>
            (0, some delivered, after)
  | .peer place =>
      match world.peers[place]? with
      | none => none
      | some node =>
          match getClient world node with
          | (none, world) => some (-1, some message, world)
          | (some client, world) => some (0, none, writeMessage world place node client message)

/-- `add_delay_task`: without a pool the task is refused. -/
def addDelayTask (world : World) (message : Message) : Int × World :=
  if world.singleNode then (-1, world)
  else (0, { world with delayed := world.delayed ++ [message] })

/-- The current actor, if there is one, belongs to the module of the sender. -/
def sentByModule (thread : Thread) (message : Message) : Bool :=
  match thread with
  | .worker (some current) => current.dmoduleId = message.metadata.sender.dmoduleId
  | _ => true

/-- The second half of `dispatch`: give the message to the node of its target. -/
def forward (thread : Thread) (world : World) (message : Message) : Outcome :=
  match findNode thread world message.metadata.target.dnodeId with
  | none => .aborted
  | some (none, world) =>
      match thread with
      | .worker _ => .returned 0 (some message) (addDelayTask world message).2
      | _ => .returned (-2) (some message) world
  | some (some pointer, world) =>
      match deref world pointer with
      | none => .aborted
      | some node =>
          if node.id = invalidId then .returned (-1) (some message) world
          else if sentByModule thread message then
            match deliverMessage world pointer message with
            | none => .aborted
            | some (_, handle, world) => .returned 0 handle world
          else .aborted

/-- The error message that goes back to the node of the sender. -/
def bounce (message : Message) : Message :=
  ((message.setType Metadata.typeError).setTarget
    (message.metadata.target.setNodeId message.metadata.sender.dnodeId)).setSender
    (message.metadata.sender.setNodeId ActorID.localId)

/-- `Dispatcher::dispatch` for one message. -/
def dispatch (thread : Thread) (world : World) (message : Message) : Outcome :=
  let target := message.metadata.target
  if Gateway.isLocal world.localNode.id target then
    if message.isError then
      match findNode thread world message.metadata.sender.dnodeId with
      | none => .aborted
      | some (none, _) => .aborted
      | some (some _, world) =>
          match deleteNode world message.metadata.sender.dnodeId with
          | none => .aborted
          | some world => .returned 0 (some message) world
    else
      match world.modules target.dmoduleId with
      | some module =>
          match moduleDispatch world target.dmoduleId module message with
          | none => .aborted
          | some (delivered, world) => .returned 0 (some delivered) world
      | none => forward thread world (bounce message)
  else forward thread world message

/-- The transactions that the connection of a peer has accepted. -/
def accepted (world : World) (place : Nat) : List (List UInt8) :=
  ((world.peers[place]?.bind Node.client).map Client.accepted).getD []

/-- What travels for a message: the message itself, or the error message made of it. -/
def Travels (message sent : Message) : Prop := sent = message ∨ sent = bounce message

/-- A message was handed over between two worlds: it is new at the end of the mailbox of
an actor, of the transactions of the node that its target names, or of the delayed
tasks, or it was an error message for this node. -/
inductive HandedOver (thread : Thread) (before after : World) (message : Message) : Prop where
  | mailbox (sent : Message) (travels : Travels message sent) (key : UInt16) (actor : Nat)
      (target : ActorID)
      (put : (after.inboxes key actor).messages =
        (before.inboxes key actor).messages ++ [sent.setTarget target])
  | written (sent : Message) (travels : Travels message sent) (place : Nat) (node : Node)
      (id : UInt32) (earlier : List (List UInt8)) (looked : World)
      (named : findNode thread before sent.metadata.target.dnodeId =
        some (some (.peer place), looked))
      (found : after.peers[place]? = some node)
      (kept : accepted before place <+: earlier)
      (put : accepted after place =
        earlier ++ [Gateway.deliver after.host node.order id node.id sent])
  | delayed (sent : Message) (travels : Travels message sent)
      (put : after.delayed = before.delayed ++ [sent])
  | consumed (error : message.isError)
      (here : Gateway.isLocal before.localNode.id message.metadata.target)

/-- What a lookup may change: it adds node objects without a connection, and updates the
table and the cache. -/
def Looked (before after : World) : Prop :=
  ∃ (fresh : List Node) (alive : UInt32 → Option Pointer) (cache : Cache) (needSync : Bool),
    (∀ node ∈ fresh, node.client = none) ∧
      after = { before with
        peers := before.peers ++ fresh
        alive := alive
        cache := cache
        needSync := needSync }

variable (thread : Thread) (world : World) (message : Message) (code : Int)

theorem looked_same (alive : UInt32 → Option Pointer) (cache : Cache) (needSync : Bool) :
    Looked world { world with alive := alive, cache := cache, needSync := needSync } :=
  ⟨[], alive, cache, needSync, nofun, by rw [List.append_nil]⟩

/-- Lookups compose. -/
theorem looked_trans {first second third : World} (early : Looked first second)
    (late : Looked second third) : Looked first third := by
  obtain ⟨some_, alive, cache, needSync, bare, rfl⟩ := early
  obtain ⟨more, alive', cache', needSync', bare', rfl⟩ := late
  refine ⟨some_ ++ more, alive', cache', needSync', ?_, ?_⟩
  · intro node member
    rcases List.mem_append.mp member with old | new
    · exact bare node old
    · exact bare' node new
  · rw [← List.append_assoc]

/-- Inserting a record adds at most one node object. -/
theorem updateCachedNode_looked (record : Record) :
    Looked world (updateCachedNode world record).2 := by
  unfold updateCachedNode
  cases world.alive record.id with
  | some => exact looked_same world world.alive world.cache world.needSync
  | none =>
    refine ⟨[decode record], _, world.cache, world.needSync, ?_, rfl⟩
    intro node member
    rw [List.mem_singleton.mp member]
    rfl

theorem foldl_syncOne_looked (records : List Record) (state : Bool × World) :
    Looked state.2 (records.foldl syncOne state).2 := by
  induction records generalizing state with
  | nil => exact looked_same state.2 state.2.alive state.2.cache state.2.needSync
  | cons record _ inductionHypothesis =>
    exact looked_trans (updateCachedNode_looked state.2 record)
      (inductionHypothesis (syncOne state record))

/-- A synchronisation is a lookup. -/
theorem syncAllNodes_looked : Looked world (syncAllNodes world) := by
  unfold syncAllNodes
  split
  · exact looked_same world world.alive world.cache world.needSync
  · have folded := foldl_syncOne_looked
      (world.registry.filter fun record =>
        record.id < 0x10000 && record.id != world.localNode.id) (false, world)
    dsimp only
    split
    · exact looked_trans folded (looked_same _ _ _ _)
    · exact folded

theorem syncDue_looked : Looked world (syncDue world) := by
  unfold syncDue
  split
  · exact looked_trans (syncAllNodes_looked world) (looked_same _ _ _ _)
  · exact looked_same world world.alive world.cache world.needSync

/-- `find_node` changes no more than a lookup may. -/
theorem findNode_looked (after : World) (id : UInt32) (found : Option Pointer)
    (looked : findNode thread world id = some (found, after)) :
    Looked world after := by
  unfold findNode at looked
  split at looked
  · cases looked
  · dsimp only at looked
    generalize cacheGet world.cache id = got at looked
    obtain ⟨cached, cache⟩ := got
    cases cached with
    | some =>
      cases looked
      exact looked_same world world.alive cache world.needSync
    | none =>
      have synced : Looked world (syncDue { world with cache := cache }) :=
        looked_trans (looked_same world world.alive cache world.needSync)
          (syncDue_looked _)
      generalize syncDue { world with cache := cache } = middle at looked synced
      dsimp only at looked
      cases present : middle.alive id with simp only [present] at looked
      | some =>
        cases looked
        exact looked_trans synced (looked_same _ _ _ _)
      | none =>
        cases asked : findRecord middle id with rw [asked] at looked
        | none =>
          cases looked
        | some answer =>
          cases answer with
          | none =>
            cases looked
            exact looked_trans synced (looked_same _ _ _ _)
          | some record =>
            cases looked
            exact looked_trans synced
              (looked_trans (updateCachedNode_looked middle record)
                (looked_same _ _ _ _))

/-- A lookup leaves the transactions of every connection as they are. -/
theorem looked_accepted (before after : World) (looked : Looked before after) (place : Nat) :
    accepted after place = accepted before place := by
  obtain ⟨fresh, alive, cache, needSync, bare, rfl⟩ := looked
  unfold accepted
  dsimp only
  by_cases old : place < before.peers.length
  · rw [List.getElem?_append_left old]
  · rw [List.getElem?_append_right (Nat.le_of_not_lt old),
      List.getElem?_eq_none (Nat.le_of_not_lt old)]
    cases new : fresh[place - before.peers.length]? with
    | none => rfl
    | some node => simp [bare node (List.mem_of_getElem? new)]

/-- A node that loses what it is given: its connection is closed, or there is none and
its endpoint refuses one. -/
def loses (world : World) (node : Node) : Bool :=
  match node.client with
  | some client => client.closed
  | none => !world.accepting node.endpoint

/-- The thread is a worker. -/
def isWorker : Thread → Bool
  | .worker _ => true
  | _ => false

/-- The message of a call of `forward` is lost: its node is unknown and there is no pool
of delayed tasks, or its node loses it. -/
def forwardDrops (thread : Thread) (world : World) (message : Message) : Bool :=
  match findNode thread world message.metadata.target.dnodeId with
  | some (none, looked) => isWorker thread && looked.singleNode
  | some (some (.peer place), looked) =>
      match looked.peers[place]? with
      | some node => node.id != invalidId && sentByModule thread message && loses looked node
      | none => false
  | _ => false

/-- What `dispatch` gives to a node, if it does: a message for another node, or the error
message made of one whose module is not loaded. -/
def forwarded (world : World) (message : Message) : Option Message :=
  if Gateway.isLocal world.localNode.id message.metadata.target then
    if message.isError then none
    else
      match world.modules message.metadata.target.dmoduleId with
      | some _ => none
      | none => some (bounce message)
  else some message

/-- The message of a call of `dispatch` is lost. -/
def drops (thread : Thread) (world : World) (message : Message) : Bool :=
  match forwarded world message with
  | some sent => forwardDrops thread world sent
  | none => false

/-- `Module::dispatch` puts the message at the end of the mailbox of an actor. -/
theorem moduleDispatch_put {world after : World} {key : UInt16} {module : Routing.Module}
    {message delivered : Message}
    (put : moduleDispatch world key module message = some (delivered, after)) :
    ∃ actor target, delivered = message.setTarget target ∧
      (after.inboxes key actor).messages =
        (world.inboxes key actor).messages ++ [message.setTarget target] := by
  unfold moduleDispatch at put
  generalize Routing.dispatch module message.metadata.target.instanceId
    message.metadata.target.intfId = selected at put
  obtain ⟨actor, target, rest⟩ := selected
  dsimp only at put
  split at put <;> cases put
  refine ⟨actor.address, target, rfl, ?_⟩
  simp only [Function.update_self]

theorem writeMessage_put {world : World} {place : Nat} (node : Node) {client : Client}
    (message : Message) (inside : place < world.peers.length) (opened : client.closed = false) :
    ∃ written, (writeMessage world place node client message).peers[place]? = some written ∧
      written.id = node.id ∧ written.order = node.order ∧
      accepted (writeMessage world place node client message) place = client.accepted ++
        [Gateway.deliver world.host node.order (readLocalNodeId world) node.id message] := by
  refine ⟨_, List.getElem?_set_self inside, rfl, rfl, ?_⟩
  simp [accepted, writeMessage, setPeer, List.getElem?_set_self inside, asyncWrite, opened]

/-- A closed connection leaves all transactions as they are. -/
theorem writeMessage_closed {world : World} {place : Nat} (other : Nat) {node : Node} {client : Client}
    (message : Message) (present : world.peers[place]? = some node)
    (connected : node.client = some client) (closed : client.closed = true) :
    accepted (writeMessage world place node client message) other = accepted world other := by
  have inside : place < world.peers.length := (List.getElem?_eq_some_iff.mp present).1
  by_cases here : place = other
  · subst here
    simp [accepted, writeMessage, setPeer, List.getElem?_set_self inside, asyncWrite, closed,
      present, connected]
  · simp [accepted, writeMessage, setPeer, List.getElem?_set_ne here]

/-- A peer that does not lose messages has an open connection, or gets one. What the
connection accepted before is kept. -/
theorem getClient_open {world : World} {place : Nat} {node : Node}
    (present : world.peers[place]? = some node) (keeps : loses world node = false) :
    ∃ client middle, getClient world node = (some client, middle) ∧ client.closed = false ∧
      middle.peers = world.peers ∧ accepted world place <+: client.accepted := by
  cases connected : node.client with
  | some client =>
    have opened : client.closed = false := by simpa only [loses, connected] using keeps
    have old : accepted world place = client.accepted := by simp [accepted, present, connected]
    exact ⟨client, world, by simp only [getClient, connected], opened, rfl,
      old ▸ List.prefix_refl _⟩
  | none =>
    have accepts : world.accepting node.endpoint = true := by
      simpa only [loses, connected, Bool.not_eq_false'] using keeps
    have old : accepted world place = [] := by simp [accepted, present, connected]
    refine ⟨⟨false, [Gateway.handshake world.host (readLocalNodeId world)]⟩,
      { world with localNodeId := some (readLocalNodeId world) }, ?_, rfl, rfl, ?_⟩
    · simp [getClient, connected, accepts, asyncWrite]
    · rw [old]
      exact List.nil_prefix

/-- Such a peer accepts the transaction of the message. -/
theorem deliverMessage_written (after : World) (place : Nat) (node : Node) (message : Message)
    (code : Int) (handle : Option Message) (present : world.peers[place]? = some node)
    (keeps : loses world node = false)
    (result : deliverMessage world (.peer place) message = some (code, handle, after)) :
    handle = none ∧ ∃ written id earlier, after.peers[place]? = some written ∧
      accepted world place <+: earlier ∧
      accepted after place =
        earlier ++ [Gateway.deliver after.host written.order id written.id message] := by
  obtain ⟨client, middle, connected, opened, samePeers, kept⟩ :=
    getClient_open present keeps
  have inside : place < middle.peers.length :=
    samePeers ▸ (List.getElem?_eq_some_iff.mp present).1
  simp only [deliverMessage, present, connected, Option.some.injEq, Prod.mk.injEq] at result
  obtain ⟨-, rfl, rfl⟩ := result
  obtain ⟨written, found, sameId, sameOrder, put⟩ :=
    writeMessage_put node message inside opened
  refine ⟨rfl, written, readLocalNodeId middle, client.accepted, found, kept, ?_⟩
  rw [put, sameId, sameOrder]
  rfl

/-- A peer that loses messages reports nothing, and no connection has changed. -/
theorem deliverMessage_lost {world : World} {place : Nat} {node : Node}
    (present : world.peers[place]? = some node) (lost : loses world node = true) :
    ∃ code handle after,
      deliverMessage world (.peer place) message = some (code, handle, after) ∧
      after.inboxes = world.inboxes ∧ after.delayed = world.delayed ∧
      ∀ other, accepted after other = accepted world other := by
  cases connected : node.client with
  | some client =>
    have closed : client.closed = true := by simpa only [loses, connected] using lost
    refine ⟨0, none, writeMessage world place node client message, ?_, rfl, rfl, ?_⟩
    · simp only [deliverMessage, present, getClient, connected]
    · intro other
      exact writeMessage_closed other message present connected closed
  | none =>
    have refuses : world.accepting node.endpoint = false := by
      simpa only [loses, connected, Bool.not_eq_true'] using lost
    refine ⟨-1, some message, world, ?_, rfl, rfl, fun _ => rfl⟩
    simp only [deliverMessage, present, getClient, connected, refuses, Bool.false_eq_true,
      if_false]

/-- Nothing was handed over if no mailbox, connection or delayed task has changed and
the message was not an error message for this node. -/
theorem unmoved_not_handedOver (before after : World) (message : Message)
    (inboxes : after.inboxes = before.inboxes) (delayed : after.delayed = before.delayed)
    (connections : ∀ place, accepted after place = accepted before place)
    (unread : ¬(message.isError ∧ Gateway.isLocal before.localNode.id message.metadata.target)) :
    ¬HandedOver thread before after message := by
  intro handed
  cases handed with
  | mailbox _ _ _ _ _ put =>
    rw [inboxes] at put
    simpa using congrArg List.length put
  | written _ _ place _ _ _ _ _ _ kept put =>
    rw [connections place] at put
    have longer := kept.length_le
    rw [put, List.length_append, List.length_singleton] at longer
    omega
  | delayed _ _ put =>
    rw [delayed] at put
    simpa using congrArg List.length put
  | consumed error here => exact unread ⟨error, here⟩

/-- The ways in which the second half of `dispatch` returns: the message is put off by a
worker or refused to another thread, the node is invalid, or it was given the message. -/
inductive Forwarded (thread : Thread) (world : World) (message : Message) :
    Int → Option Message → World → Prop where
  | putOff (looked : World)
      (search : findNode thread world message.metadata.target.dnodeId = some (none, looked))
      (worker : isWorker thread) :
      Forwarded thread world message 0 (some message) (addDelayTask looked message).2
  | refused (looked : World)
      (search : findNode thread world message.metadata.target.dnodeId = some (none, looked))
      (helper : isWorker thread = false) :
      Forwarded thread world message (-2) (some message) looked
  | invalid (pointer : Pointer) (node : Node) (looked : World)
      (search : findNode thread world message.metadata.target.dnodeId =
        some (some pointer, looked))
      (present : deref looked pointer = some node) (gone : node.id = invalidId) :
      Forwarded thread world message (-1) (some message) looked
  | given (pointer : Pointer) (node : Node) (looked after : World) (code : Int)
      (handle : Option Message)
      (search : findNode thread world message.metadata.target.dnodeId =
        some (some pointer, looked))
      (present : deref looked pointer = some node) (valid : node.id ≠ invalidId)
      (own : sentByModule thread message)
      (delivery : deliverMessage looked pointer message = some (code, handle, after)) :
      Forwarded thread world message 0 handle after

/-- A call that returns does so in one of these ways. -/
theorem forward_forwarded (after : World) (message : Message) (code : Int)
    (handle : Option Message)
    (result : forward thread world message = .returned code handle after) :
    Forwarded thread world message code handle after := by
  unfold forward at result
  cases search : findNode thread world message.metadata.target.dnodeId with
  | none => simp [search] at result
  | some answer =>
    obtain ⟨found, looked⟩ := answer
    simp only [search] at result
    cases found with
    | none =>
      cases thread with
      | worker =>
        obtain ⟨rfl, rfl, rfl⟩ := Outcome.returned.inj result
        exact .putOff looked search rfl
      | outside | helper =>
        obtain ⟨rfl, rfl, rfl⟩ := Outcome.returned.inj result
        exact .refused _ search rfl
    | some pointer =>
      dsimp only at result
      cases present : deref looked pointer with
      | none => simp [present] at result
      | some node =>
        simp only [present] at result
        split at result
        · rename_i gone
          obtain ⟨rfl, rfl, rfl⟩ := Outcome.returned.inj result
          exact .invalid pointer node _ search present gone
        · rename_i valid
          split at result
          · rename_i own
            cases delivery : deliverMessage looked pointer message with
            | none => simp [delivery] at result
            | some delivered =>
              obtain ⟨inner, passed, final⟩ := delivered
              simp only [delivery] at result
              obtain ⟨rfl, rfl, rfl⟩ := Outcome.returned.inj result
              exact .given pointer node looked final inner passed search present valid own delivery
          · cases result

/-- The local node puts the message in a mailbox and keeps the handle. -/
theorem deliverMessage_own (after : World) (message : Message) (code : Int)
    (handle : Option Message)
    (delivery : deliverMessage world .own message = some (code, handle, after)) :
    ∃ key actor target, handle = some (message.setTarget target) ∧
      (after.inboxes key actor).messages =
        (world.inboxes key actor).messages ++ [message.setTarget target] := by
  simp only [deliverMessage] at delivery
  cases loaded : world.modules message.metadata.target.dmoduleId with
  | none => simp [loaded] at delivery
  | some =>
    simp only [loaded, Option.map_eq_some_iff] at delivery
    obtain ⟨⟨delivered, left⟩, put, same⟩ := delivery
    obtain ⟨-, rfl, rfl⟩ := same
    obtain ⟨actor, target, rfl, entry⟩ :=
      moduleDispatch_put put
    exact ⟨_, actor, target, rfl, entry⟩

/-- The second half hands over what it does not lose. -/
theorem forward_handedOver {thread : Thread} {world after : World} {message sent : Message}
    {handle : Option Message} (travels : Travels message sent)
    (keeps : forwardDrops thread world sent = false)
    (result : forward thread world sent = .returned 0 handle after) :
    HandedOver thread world after message := by
  cases forward_forwarded thread world after sent 0 handle result with
  | putOff looked search worker =>
    obtain ⟨fresh, alive, cache, needSync, -, rfl⟩ :=
      findNode_looked thread world looked _ none search
    have pool : world.singleNode = false := by
      simpa [forwardDrops, search, worker] using keeps
    exact .delayed sent travels (by simp [addDelayTask, pool])
  | given pointer node looked after code handle search present valid own delivery =>
    have frame := findNode_looked thread world looked _ _ search
    cases pointer with
    | own =>
      obtain ⟨key, actor, target, -, entry⟩ :=
        deliverMessage_own looked after sent code handle delivery
      obtain ⟨fresh, alive, cache, needSync, -, rfl⟩ := frame
      exact .mailbox sent travels key actor target entry
    | peer place =>
      have inTable : looked.peers[place]? = some node := present
      have stays : loses looked node = false := by
        simpa [forwardDrops, search, inTable, valid, own] using keeps
      obtain ⟨-, written, id, earlier, entry, kept, put⟩ :=
        deliverMessage_written looked after place node sent code handle inTable stays delivery
      rw [looked_accepted world looked frame place] at kept
      exact .written sent travels place written id earlier looked search entry kept put

/-- What the second half loses, it reports as sent, and nothing has changed that could
hold the message. -/
theorem forward_lost (lost : forwardDrops thread world message = true) :
    ∃ handle after, forward thread world message = .returned 0 handle after ∧
      after.inboxes = world.inboxes ∧ after.delayed = world.delayed ∧
      ∀ place, accepted after place = accepted world place := by
  unfold forwardDrops at lost
  cases search : findNode thread world message.metadata.target.dnodeId with
  | none => simp [search] at lost
  | some answer =>
    obtain ⟨found, looked⟩ := answer
    have frame := findNode_looked thread world looked _ found search
    have connections := looked_accepted world looked frame
    simp only [search] at lost
    cases found with
    | none =>
      have noPool : isWorker thread = true ∧ looked.singleNode = true := by
        simpa only [Bool.and_eq_true] using lost
      cases thread with
      | worker =>
        refine ⟨some message, looked, ?_, ?_, ?_, connections⟩
        · simp only [forward, search, addDelayTask, noPool.2, if_true]
        · obtain ⟨fresh, alive, cache, needSync, -, rfl⟩ := frame
          rfl
        · obtain ⟨fresh, alive, cache, needSync, -, rfl⟩ := frame
          rfl
      | outside | helper => exact absurd noPool.1 Bool.false_ne_true
    | some pointer =>
      cases pointer with
      | own => cases lost
      | peer place =>
        dsimp only at lost
        cases inTable : looked.peers[place]? with
        | none => simp [inTable] at lost
        | some =>
          simp only [inTable, Bool.and_eq_true, bne_iff_ne] at lost
          obtain ⟨⟨valid, own⟩, losing⟩ := lost
          obtain ⟨code, handle, after, delivery, inboxes, delayed, same⟩ :=
            deliverMessage_lost message inTable losing
          refine ⟨handle, after, ?_, ?_, ?_, fun other => (same other).trans (connections other)⟩
          · simp only [forward, search, deref, inTable, if_neg valid, own, if_true, delivery]
          · obtain ⟨fresh, alive, cache, needSync, -, rfl⟩ := frame
            exact inboxes
          · obtain ⟨fresh, alive, cache, needSync, -, rfl⟩ := frame
            exact delayed

/-- The second half hands over exactly what it does not lose. -/
theorem forward_hands_over {world : World} {message sent : Message}
    (travels : Travels message sent)
    (unread : ¬(message.isError ∧ Gateway.isLocal world.localNode.id message.metadata.target)) :
    (∀ handle after, forward thread world sent = .returned 0 handle after →
      HandedOver thread world after message) ↔ forwardDrops thread world sent = false := by
  constructor
  · intro handed
    by_contra lost
    obtain ⟨handle, after, result, inboxes, delayed, connections⟩ :=
      forward_lost thread world sent (Bool.eq_true_of_not_eq_false lost)
    exact unmoved_not_handedOver thread world after message inboxes delayed connections unread
      (handed handle after result)
  · intro keeps handle after result
    exact forward_handedOver travels keeps result

/-- A message that is given to a node takes the second half of `dispatch`. It was not an
error message for this node. -/
theorem dispatch_forwarded (sent : Message) (passed : forwarded world message = some sent) :
    dispatch thread world message = forward thread world sent ∧ Travels message sent ∧
      ¬(message.isError ∧ Gateway.isLocal world.localNode.id message.metadata.target) := by
  unfold forwarded at passed
  by_cases here : Gateway.isLocal world.localNode.id message.metadata.target
  · by_cases error : message.isError
    · simp [here, error] at passed
    · cases loaded : world.modules message.metadata.target.dmoduleId with
      | some => simp [here, error, loaded] at passed
      | none =>
        simp only [here, error, loaded, if_true, Bool.false_eq_true, if_false] at passed
        cases passed
        refine ⟨?_, Or.inr rfl, fun both => error both.1⟩
        simp only [dispatch, here, if_true, error, Bool.false_eq_true, if_false, loaded]
  · simp only [here, Bool.false_eq_true, if_false] at passed
    cases passed
    refine ⟨?_, Or.inl rfl, fun both => here both.2⟩
    simp only [dispatch, here, Bool.false_eq_true, if_false]

/-- A message that stays on this node is handed over, and its handle is kept. -/
theorem dispatch_kept (after : World) (message : Message) (code : Int) (handle : Option Message)
    (stays : forwarded world message = none)
    (result : dispatch thread world message = .returned code handle after) :
    HandedOver thread world after message ∧ code = 0 ∧
      ∃ target, handle = some (message.setTarget target) := by
  unfold forwarded at stays
  by_cases here : Gateway.isLocal world.localNode.id message.metadata.target
  · by_cases error : message.isError
    · refine ⟨.consumed error here, ?_⟩
      simp only [dispatch, here, if_true, error] at result
      split at result
      · cases result
      · cases result
      · split at result
        · cases result
        · obtain ⟨rfl, rfl, -⟩ := Outcome.returned.inj result
          exact ⟨rfl, message.metadata.target, rfl⟩
    · cases loaded : world.modules message.metadata.target.dmoduleId with
      | none => simp [here, error, loaded] at stays
      | some module =>
        simp only [dispatch, here, if_true, error, Bool.false_eq_true, if_false, loaded] at result
        cases put : moduleDispatch world message.metadata.target.dmoduleId module message with
        | none => simp [put] at result
        | some delivery =>
          obtain ⟨delivered, final⟩ := delivery
          simp only [put] at result
          obtain ⟨rfl, rfl, rfl⟩ := Outcome.returned.inj result
          obtain ⟨actor, target, rfl, entry⟩ :=
            moduleDispatch_put put
          exact ⟨.mailbox message (Or.inl rfl) _ actor target entry, rfl, target, rfl⟩
  · simp [here] at stays

/-- A call of `dispatch` that returns zero has handed its message over, for exactly the
inputs that are not dropped. -/
theorem dispatch_hands_over (thread : Thread) (world : World) (message : Message) :
    (∀ handle after, dispatch thread world message = .returned 0 handle after →
      HandedOver thread world after message) ↔ drops thread world message = false := by
  unfold drops
  cases passed : forwarded world message with
  | some sent =>
    obtain ⟨path, travels, unread⟩ := dispatch_forwarded thread world message sent passed
    rw [path]
    exact forward_hands_over thread travels unread
  | none =>
    refine iff_of_true ?_ rfl
    intro handle after result
    exact (dispatch_kept thread world after message 0 handle passed result).1

/-- A message of this node for module 7 on node 2. -/
def errand : Message where
  metadata := ⟨Metadata.typeRequest, Metadata.typeStream, 0, ⟨0, 7, 0, 1⟩, ⟨2, 7, 3, 1⟩, 0⟩
  body := []
  short := empty_short
  sized := fun _ => rfl

/-- Node 1 with at most one peer, whose id is 2. No endpoint accepts a connection. -/
def outpost (singleNode : Bool) (peer : Option Node) : World where
  host := .little
  singleNode := singleNode
  localNode := ⟨1, 0, .little, none⟩
  localNodeId := none
  peers := peer.toList
  alive := fun id => if id = 2 then peer.map fun _ => .peer 0 else none
  needSync := false
  registry := []
  accepting := fun _ => false
  cache := ⟨true, fun _ => none⟩
  modules := fun _ => none
  inboxes := fun _ _ => ⟨false, []⟩
  delayed := []

/-- A worker is told that the message was sent though nothing holds it. -/
def Unreported (world : World) : Prop :=
  ∃ handle after, dispatch (.worker none) world errand = .returned 0 handle after ∧
    ¬HandedOver (.worker none) world after errand

theorem drops_unreported {world : World} (same : forwarded world errand = some errand)
    (drops : forwardDrops (.worker none) world errand = true) : Unreported world := by
  obtain ⟨path, -, unread⟩ := dispatch_forwarded (.worker none) world errand errand same
  obtain ⟨handle, after, result, inboxes, delayed, connections⟩ :=
    forward_lost (.worker none) world errand drops
  exact ⟨handle, after, path.trans result,
    unmoved_not_handedOver _ world after errand inboxes delayed connections unread⟩

/-- The peer refuses the connection, its connection is closed, or it is unknown and there
is no pool: each time the loss is not reported. -/
theorem losses_unreported :
    Unreported (outpost false (some ⟨2, 9, .little, none⟩)) ∧
      Unreported (outpost false (some ⟨2, 9, .little, some ⟨true, []⟩⟩)) ∧
      Unreported (outpost true none) := by
  refine ⟨?_, ?_, ?_⟩
  · exact drops_unreported rfl (by decide)
  · exact drops_unreported rfl (by decide)
  · exact drops_unreported rfl (by decide)

end Dispatch

end Mola
