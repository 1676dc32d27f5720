import Mola.Dispatch

/-!
# Node ids at start-up

The loader creates the local node, connects to the registry server, loads the modules,
joins the cluster and starts the workers. The local node has the invalid id until it
joins. A module copies the id when it is loaded, before the node joins, and stamps its
copy on the id of every actor that it creates.

An actor is therefore local on its own node exactly when the id that the node is given
at last is the invalid one. With any other id a reply to the actor does not take the
local branch of `dispatch`.

After the start-up, messages are dispatched by any thread, nodes come and go, endpoints
accept connections or refuse them, and actors exit. Actors are created by the dispatch
of messages. The instances that a module starts by itself are not modelled.
-/

namespace Mola.StartUp

open ByteOrder Runs Dispatch

/-- `create_local_node`, by the clustered manager. -/
def createLocalNode (host : Order) (endpoint : Nat) : World where
  host := host
  singleNode := false
  localNode := ⟨invalidId, endpoint, host, none⟩
  localNodeId := none
  peers := []
  alive := fun _ => none
  needSync := true
  registry := []
  accepting := fun _ => false
  cache := ⟨true, fun _ => none⟩
  modules := fun _ => none
  inboxes := fun _ _ => ⟨false, []⟩
  delayed := []

/-- `connect`: the registry server can be asked from now on. -/
def connect (world : World) (registry : List Record) : World :=
  { world with registry := registry }

/-- `dynload_module`. The module copies the id of the local node. An index that is taken
keeps its module. -/
def loadModule (world : World) (mId : UInt32) : World :=
  match world.modules mId.toUInt16 with
  | some _ => world
  | none => { world with
      modules := Function.update world.modules mId.toUInt16
        (some ⟨world.localNode.id, mId, fun _ => none, [], 0⟩) }

/-- A registered node that has the address of the local one. -/
def zombie (world : World) (record : Record) : Bool :=
  match (world.alive record.id).bind (deref world) with
  | some node => node.endpoint = world.localNode.endpoint
  | none => false

/-- `join`: remove earlier nodes with the same address, take the id that the server
gives, and enter the local node in the table. -/
def join (world : World) (assigned : UInt32) : World :=
  let synced := syncAllNodes world
  let world := { synced with
    registry := synced.registry.filter fun record => !zombie synced record
    localNode := { synced.localNode with id := assigned } }
  match world.alive assigned with
  | some _ => world
  | none => { world with alive := Function.update world.alive assigned (some .own) }

/-- The steps of the loader up to the start of the workers. -/
def startUp (host : Order) (endpoint : Nat) (registry : List Record) (modules : List UInt32)
    (assigned : UInt32) : World :=
  join (modules.foldl loadModule (connect (createLocalNode host endpoint) registry)) assigned

/-- What happens afterwards: a thread with some cache dispatches a message, the registry
and the endpoints change, a node is deleted, a connection is closed, an actor closes its
mailbox, or it is removed. -/
inductive Event where
  | dispatch (thread : Thread) (cache : Cache) (message : Message)
  | environment (registry : List Record) (accepting : Nat → Bool)
  | delete (id : UInt32)
  | disconnect (place : Nat)
  | close (key : UInt16) (actor : Nat)
  | remove (key : UInt16) (actor : Routing.Actor)

/-- One event. -/
def step (world : World) : Event → Option World
  | .dispatch thread cache message =>
      match dispatch thread { world with cache := cache } message with
      | .aborted => none
      | .returned _ _ after => some after
  | .environment registry accepting =>
      some { world with registry := registry, accepting := accepting }
  | .delete id => deleteNode world id
  | .disconnect place =>
      match world.peers[place]? with
      | some node => some (setPeer world place
          { node with client := node.client.map fun client => { client with closed := true } })
      | none => none
  | .close key actor =>
      some { world with
        inboxes := Function.update world.inboxes key (Function.update (world.inboxes key) actor
          { world.inboxes key actor with closed := true }) }
  | .remove key actor =>
      match world.modules key with
      | some module =>
          if actor ∈ module.live then
            some { world with
              modules := Function.update world.modules key
                (some (Routing.onRemoveInstance module actor)) }
          else none
      | none => none

/-- The message is put in the mailbox of the actor that its module selects, if that
mailbox is open. -/
def Lands (thread : Thread) (world : World) (message : Message) : Prop :=
  let key := message.metadata.target.dmoduleId
  ∃ module, world.modules key = some module ∧
    let address := (Routing.dispatch module message.metadata.target.instanceId
      message.metadata.target.intfId).1.address
    ((world.inboxes key address).closed = true ∧ dispatch thread world message = .aborted) ∨
      ∃ delivered after, dispatch thread world message = .returned 0 (some delivered) after ∧
        (after.inboxes key address).messages = (world.inboxes key address).messages ++ [delivered]

/-- A module with the index under which it was loaded, whose actors all have the invalid
node id. -/
structure Stamped (key : UInt16) (module : Routing.Module) : Prop where
  node : module.nodeId = invalidId
  index : module.mId.toUInt16 = key
  actors : ∀ actor ∈ module.live, actor.id.dnodeId = invalidId ∧ actor.id.dmoduleId = key

/-- What every run after the start-up keeps. -/
structure Booted (assigned : UInt32) (world : World) : Prop where
  joined : world.localNode.id = assigned
  stamped : ∀ key module, world.modules key = some module → Stamped key module

theorem looked_still {before after : World} (looked : Looked before after) :
    after.localNode = before.localNode ∧ after.modules = before.modules := by
  obtain ⟨fresh, alive, cache, needSync, -, rfl⟩ := looked
  exact ⟨rfl, rfl⟩

variable {world : World} {assigned : UInt32} {module : Routing.Module} {message : Message}

theorem booted_still {before after : World}
    (still : after.localNode = before.localNode ∧ after.modules = before.modules)
    (booted : Booted assigned before) : Booted assigned after := by
  constructor
  · rw [still.1]
    exact booted.joined
  · rw [still.2]
    exact booted.stamped

/-- Replacing a module by a stamped one. -/
theorem booted_update {key : UInt16} (inboxes : UInt16 → Nat → Inbox)
    (stamped : Stamped key module) (booted : Booted assigned world) :
    Booted assigned { world with
      modules := Function.update world.modules key (some module), inboxes := inboxes } := by
  refine ⟨booted.joined, ?_⟩
  intro other found loaded
  by_cases here : other = key
  · subst here
    simp only [Function.update_self, Option.some.injEq] at loaded
    exact loaded ▸ stamped
  · simp only [Function.update_of_ne here] at loaded
    exact booted.stamped other found loaded

theorem loadModule_booted (world : World) (mId : UInt32) (booted : Booted invalidId world) :
    Booted invalidId (loadModule world mId) := by
  unfold loadModule
  split
  · exact booted
  · exact booted_update world.inboxes
      ⟨booted.joined, rfl, nofun⟩ booted

theorem loadModules_booted (modules : List UInt32) (world : World)
    (booted : Booted invalidId world) : Booted invalidId (modules.foldl loadModule world) := by
  induction modules generalizing world with
  | nil => exact booted
  | cons mId _ inductionHypothesis =>
    exact inductionHypothesis _ (loadModule_booted world mId booted)

/-- After the start-up the node has its id, and the modules have the invalid one. -/
theorem startUp_booted (host : Order) (endpoint : Nat) (registry : List Record)
    (modules : List UInt32) (assigned : UInt32) :
    Booted assigned (startUp host endpoint registry modules assigned) := by
  have loaded : Booted invalidId
      (modules.foldl loadModule (connect (createLocalNode host endpoint) registry)) :=
    loadModules_booted modules _ ⟨rfl, nofun⟩
  unfold startUp join
  have synced := booted_still (looked_still (syncAllNodes_looked
    (modules.foldl loadModule (connect (createLocalNode host endpoint) registry)))) loaded
  dsimp only
  split <;> exact ⟨rfl, synced.stamped⟩

/-- Routing a message leaves a stamped module stamped. -/
theorem dispatch_stamped {key : UInt16} (instId intfId : UInt32) (stamped : Stamped key module) :
    Stamped key (Routing.dispatch module instId intfId).2.2 := by
  unfold Routing.dispatch Routing.selectOrCreateActorInstance
  cases module.instMap instId with
  | some => exact stamped
  | none =>
    refine ⟨stamped.node, stamped.index, ?_⟩
    intro actor member
    rcases List.mem_cons.mp member with rfl | old
    · exact ⟨stamped.node, stamped.index⟩
    · exact stamped.actors actor old

/-- `Module::dispatch` keeps the invariant. -/
theorem moduleDispatch_booted {after : World} {key : UInt16} {delivered : Message}
    (loaded : world.modules key = some module) (booted : Booted assigned world)
    (put : moduleDispatch world key module message = some (delivered, after)) :
    Booted assigned after := by
  unfold moduleDispatch at put
  dsimp only at put
  split at put
  · cases put
  · obtain ⟨-, rfl⟩ := Prod.mk.inj (Option.some.inj put)
    exact booted_update _
      (dispatch_stamped _ _ (booted.stamped key module loaded)) booted

/-- A message given to a peer leaves the local node and the modules. -/
theorem deliverMessage_still {after : World} {place : Nat} {code : Int} {handle : Option Message}
    (delivery : deliverMessage world (.peer place) message = some (code, handle, after)) :
    after.localNode = world.localNode ∧ after.modules = world.modules := by
  simp only [deliverMessage] at delivery
  cases present : world.peers[place]? with
  | none => simp [present] at delivery
  | some node =>
    simp only [present, getClient] at delivery
    cases linked : node.client with
    | some =>
      simp only [linked] at delivery
      obtain ⟨-, -, rfl⟩ := delivery
      exact ⟨rfl, rfl⟩
    | none =>
      by_cases accepts : world.accepting node.endpoint
      · simp only [linked, accepts, if_true] at delivery
        obtain ⟨-, -, rfl⟩ := delivery
        exact ⟨rfl, rfl⟩
      · simp only [linked, accepts, Bool.false_eq_true, if_false] at delivery
        obtain ⟨-, -, rfl⟩ := delivery
        exact ⟨rfl, rfl⟩

/-- A message given to the local node keeps the invariant. -/
theorem deliverMessage_booted {after : World} {code : Int} {handle : Option Message}
    (booted : Booted assigned world)
    (delivery : deliverMessage world .own message = some (code, handle, after)) :
    Booted assigned after := by
  simp only [deliverMessage] at delivery
  cases loaded : world.modules message.metadata.target.dmoduleId with
  | none => simp [loaded] at delivery
  | some =>
    simp only [loaded, Option.map_eq_some_iff] at delivery
    obtain ⟨⟨delivered, left⟩, put, same⟩ := delivery
    obtain ⟨-, -, rfl⟩ := same
    exact moduleDispatch_booted loaded booted put

/-- The second half of `dispatch` keeps the invariant. -/
theorem forward_booted {thread : Thread} {after : World} {code : Int} {handle : Option Message}
    (booted : Booted assigned world)
    (result : forward thread world message = .returned code handle after) :
    Booted assigned after := by
  cases forward_forwarded thread world after message code handle result with
  | putOff looked search =>
    have kept := booted_still
      (looked_still (findNode_looked thread world looked _ _ search)) booted
    unfold addDelayTask
    split
    · exact kept
    · exact ⟨kept.joined, kept.stamped⟩
  | refused _ search | invalid _ _ _ search =>
    exact booted_still
      (looked_still (findNode_looked thread world after _ _ search)) booted
  | given pointer _ looked _ _ _ search _ _ own delivery =>
    have kept := booted_still
      (looked_still (findNode_looked thread world looked _ _ search)) booted
    cases pointer with
    | own => exact deliverMessage_booted kept delivery
    | peer =>
      exact booted_still
        (deliverMessage_still delivery) kept

theorem deleteNode_still {after : World} {id : UInt32}
    (deleted : deleteNode world id = some after) :
    after.localNode = world.localNode ∧ after.modules = world.modules := by
  unfold deleteNode at deleted
  split at deleted
  · cases deleted
  · split at deleted <;> obtain rfl := Option.some.inj deleted <;> exact ⟨rfl, rfl⟩

/-- `dispatch` keeps the invariant. -/
theorem dispatch_booted (assigned : UInt32) (thread : Thread) (world after : World)
    (message : Message) (code : Int) (handle : Option Message) (booted : Booted assigned world)
    (result : dispatch thread world message = .returned code handle after) :
    Booted assigned after := by
  unfold dispatch at result
  dsimp only at result
  split at result
  · split at result
    · split at result
      · cases result
      · cases result
      · rename_i looked search
        split at result
        · cases result
        · rename_i final deleted
          obtain ⟨-, -, rfl⟩ := Outcome.returned.inj result
          exact booted_still (deleteNode_still deleted)
            (booted_still
              (looked_still (findNode_looked thread world looked _ _ search)) booted)
    · split at result
      · rename_i module loaded
        split at result
        · cases result
        · rename_i delivered final put
          obtain ⟨-, -, rfl⟩ := Outcome.returned.inj result
          exact moduleDispatch_booted loaded
            booted put
      · exact forward_booted booted result
  · exact forward_booted booted result

theorem remove_stamped {key : UInt16} (actor : Routing.Actor) (stamped : Stamped key module) :
    Stamped key (Routing.onRemoveInstance module actor) :=
  ⟨stamped.node, stamped.index, fun other member =>
    stamped.actors other (List.mem_of_mem_filter member)⟩

/-- Every event keeps the invariant. -/
theorem step_booted (assigned : UInt32) (world : World) (event : Event) (after : World)
    (booted : Booted assigned world) (taken : step world event = some after) :
    Booted assigned after := by
  cases event with simp only [step] at taken
  | dispatch thread cache message =>
    split at taken
    · cases taken
    · rename_i code handle final result
      obtain rfl := Option.some.inj taken
      exact dispatch_booted assigned thread { world with cache := cache } final message code handle
        ⟨booted.joined, booted.stamped⟩ result
  | environment | close =>
    obtain rfl := Option.some.inj taken
    exact ⟨booted.joined, booted.stamped⟩
  | delete => exact booted_still (deleteNode_still taken) booted
  | disconnect =>
    split at taken
    · obtain rfl := Option.some.inj taken
      exact ⟨booted.joined, booted.stamped⟩
    · cases taken
  | remove key actor =>
    split at taken
    · rename_i module loaded
      split at taken
      · obtain rfl := Option.some.inj taken
        exact booted_update world.inboxes
          (remove_stamped actor (booted.stamped key module loaded)) booted
      · cases taken
    · cases taken

/-- A message for this node that is no error message, and whose module is loaded, is put
in a mailbox. -/
theorem local_lands (thread : Thread)
    (here : Gateway.isLocal world.localNode.id message.metadata.target = true)
    (plain : message.isError = false)
    (loaded : world.modules message.metadata.target.dmoduleId = some module) :
    Lands thread world message := by
  refine ⟨module, loaded, ?_⟩
  simp only [dispatch, here, if_true, plain, Bool.false_eq_true, if_false, loaded,
    moduleDispatch]
  by_cases closed : (world.inboxes message.metadata.target.dmoduleId
      (Routing.dispatch module message.metadata.target.instanceId
        message.metadata.target.intfId).1.address).closed = true
  · rw [if_pos closed]
    exact Or.inl ⟨closed, rfl⟩
  · rw [if_neg closed]
    refine Or.inr ⟨_, _, rfl, ?_⟩
    simp only [Function.update_self]

/-- After any start-up and any events, an actor is local on its node, and the replies to
it are put in a mailbox of the node, exactly when the node was given the invalid id. -/
theorem actor_local_iff (host : Order) (endpoint : Nat) (registry : List Record)
    (modules : List UInt32) (assigned : UInt32) (schedule : List Event) (world : World)
    (ran : run step (startUp host endpoint registry modules assigned) schedule = some world)
    (key : UInt16) (module : Routing.Module) (loaded : world.modules key = some module)
    (actor : Routing.Actor) (live : actor ∈ module.live) :
    (Gateway.isLocal world.localNode.id actor.id = true ∧
      ∀ thread (reply : Message) intfId, reply.metadata.target = actor.id.setIntfId intfId →
        reply.isError = false → Lands thread world reply) ↔ assigned = invalidId := by
  have booted : Booted assigned world :=
    run_invariant step (Booted assigned) (step_booted assigned) _ world schedule
      (startUp_booted host endpoint registry modules assigned) ran
  obtain ⟨node, index⟩ := (booted.stamped key module loaded).actors actor live
  have branch : Gateway.isLocal world.localNode.id actor.id = true ↔ assigned = invalidId := by
    simp [Gateway.isLocal, booted.joined, node, invalidId, eq_comm]
  constructor
  · exact fun both => branch.mp both.1
  · intro invalid
    refine ⟨branch.mpr invalid, ?_⟩
    intro thread reply intfId addressed plain
    apply local_lands thread
    · rw [addressed]
      exact branch.mpr invalid
    · exact plain
    · rw [addressed, ← loaded, ← index]
      rfl

/-- A message for instance 1 of module 7 on this node. -/
def greeting : Message where
  metadata := ⟨Metadata.typeRequest, Metadata.typeStream, 0, ⟨0, 3, 0, 1⟩, ⟨0, 7, 3, 1⟩, 0⟩
  body := []
  short := empty_short
  sized := fun _ => rfl

/-- A worker dispatches the message, which creates an actor. -/
def greetings : List Event := [.dispatch (.worker none) ⟨true, fun _ => none⟩ greeting]

/-- The node was given id 1. -/
def greeted : Option World := run step (startUp .little 0 [] [7] 1) greetings

/-- The actor that was created. -/
def greeter : Routing.Actor := ⟨0, ActorID.make invalidId 7 ActorID.any 1⟩

/-- A response to the actor. -/
def answer : Message where
  metadata := ⟨2, Metadata.typeStream, 0, ⟨2, 3, 0, 1⟩, greeter.id, 0⟩
  body := []
  short := empty_short
  sized := fun _ => rfl

/-- The theorem applies to that actor. -/
theorem actor_local_iff_greeter :
    ∃ world module, greeted = some world ∧ world.modules 7 = some module ∧
      greeter ∈ module.live ∧
      ((Gateway.isLocal world.localNode.id greeter.id = true ∧
        ∀ thread (reply : Message) intfId, reply.metadata.target = greeter.id.setIntfId intfId →
          reply.isError = false → Lands thread world reply) ↔ (1 : UInt32) = invalidId) := by
  refine ⟨_, _, rfl, rfl, List.mem_cons_self, ?_⟩
  exact actor_local_iff .little 0 [] [7] 1 greetings _ rfl 7 _ rfl greeter List.mem_cons_self

/-- The actor is not local on its own node, and a response to it is put off as one for an
unknown node. -/
theorem answer_put_off :
    ∃ world module, greeted = some world ∧ world.modules 7 = some module ∧
      greeter ∈ module.live ∧ Gateway.isLocal world.localNode.id greeter.id = false ∧
      ∃ after, dispatch (.worker none) world answer = .returned 0 (some answer) after ∧
        after.delayed = [answer] ∧ after.inboxes = world.inboxes :=
  ⟨_, _, rfl, rfl, List.mem_cons_self, rfl, _, rfl, rfl, rfl⟩

end Mola.StartUp
