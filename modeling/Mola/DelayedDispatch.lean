import Mola.NodeTable
import Mola.DelayPool

/-!
# Messages to unknown nodes

A worker that dispatches a message looks up the target node. If the node is unknown, it
registers the message in the pool of delayed tasks, in a step of its own. A
`sync_all_nodes` that has changed the table notifies the pool at its end. The thread of the
pool runs the delayed dispatches, which look the node up again.

The node table is the one of `NodeTable`, step by step; its threads are those that
dispatch, the watcher, and the thread of the pool, which is a registered worker as well.
The pool is that of `DelayPool`, with its mutex: the thread of the pool keeps it unless it
waits, so `add` and `notify` are steps of the others while it waits. The condition variable
may wake the thread at any time. Handlers that are subscribed to events are in the same
pool, and what they return is chosen from outside. Messages to the local node and the
sending itself are not modelled.
-/

namespace Mola.DelayedDispatch

open NodeTable (Node Position)
open DelayPool (Pool)

/-- A delayed message to a node, or the handler of a subscriber. -/
inductive Task where
  | message (number target : Nat)
  | handler (number : Nat)
deriving DecidableEq

/-- A dispatch midway: it looks up the target, or it has missed it. -/
inductive Errand where
  | finding (number target : Nat)
  | adding (number target : Nat)
deriving DecidableEq

/-- Where the loop of the pool stands: in the wait, before the next event, before the next
task of an event, or in a task. -/
inductive Loop where
  | waiting
  | next
  | draining (event : String)
  | running (event : String) (task : Task)
deriving DecidableEq

/-- The node manager, the pool and its thread, and the dispatches of the workers. -/
structure System where
  table : NodeTable.State
  pool : Pool Task
  delay : Nat
  errands : Nat → Option Errand
  loop : Loop

/-- A step of the node manager, a step of a dispatch, the subscription to an event or its
publication, or a step of the loop. -/
inductive Action where
  | table (action : NodeTable.Action)
  | dispatch (thread number target : Nat)
  | resolve (thread : Nat)
  | add (thread : Nat)
  | subscribe (event : String) (number : Nat)
  | publish (event : String)
  | wake
  | advance
  | finish (result : Int)

/-- The event of the delayed messages. -/
def nodeChange : String := "NODE_CHANGE"

/-- A manager that has joined the cluster, with a pool without tasks. -/
def start (workers delay localId : Nat) (info : NodeTable.Info) : System where
  table := NodeTable.start workers localId info
  pool := DelayPool.empty
  delay := delay
  errands := fun _ => none
  loop := .waiting

/-- `Node::invalid`. -/
def invalid (node : Node) : Bool := node.id = 4294967295

/-- A step of the node manager. A thread that is in a dispatch, or that runs the loop,
calls nothing else. The end of `sync_all_nodes` notifies the pool. -/
def tableStep (system : System) (action : NodeTable.Action) : Option System :=
  let stepped := (NodeTable.step system.table action).map fun table => { system with table := table }
  match action with
  | .call thread _ => if system.errands thread = none ∧ thread ≠ system.delay then stepped else none
  | .proceed thread =>
      match system.table.threads thread with
      | .trigger _ =>
          if system.loop = .waiting then
            stepped.map fun next => { next with pool := DelayPool.notify next.pool nodeChange }
          else none
      | _ => stepped
  | _ => stepped

/-- `Dispatcher::dispatch` calls `find_node`. -/
def dispatchStep (system : System) (thread number target : Nat) : Option System :=
  if system.errands thread = none ∧ thread ≠ system.delay then
    (NodeTable.call system.table thread (.look (.findNode target))).map fun table =>
      { system with
        table := table
        errands := Function.update system.errands thread (some (.finding number target)) }
  else none

/-- `find_node` has returned. A known node gets the message, unless it is invalid. -/
def resolve (system : System) (thread : Nat) : Option System :=
  match system.errands thread, system.table.threads thread with
  | some (.finding number target), .done nodes =>
      some { system with
        errands := Function.update system.errands thread
          (if nodes = [] then some (.adding number target) else none) }
  | _, _ => none

/-- `add_delay_task`. -/
def addStep (system : System) (thread : Nat) : Option System :=
  match system.errands thread, system.loop with
  | some (.adding number target), .waiting =>
      some { system with
        pool := DelayPool.add system.pool nodeChange (.message number target)
        errands := Function.update system.errands thread none }
  | _, _ => none

/-- The thread of the pool returns from its wait and checks the queues. -/
def wake (system : System) : Option System :=
  if system.loop = .waiting then
    if system.pool.tasks.entries = [] then
      some { system with pool := { system.pool with events := [] } }
    else if system.pool.events = [] then some system
    else some { system with loop := .next }
  else none

/-- The loop takes the next event, if there is one. -/
def nextEvent (system : System) : System :=
  match system.pool.events with
  | [] => { system with loop := .waiting }
  | event :: later =>
      { system with
        pool := { system.pool with events := later }
        loop := if (system.pool.tasks.lookup event).isSome then .draining event else .next }

/-- The loop takes the next task of an event, and a message looks its target up again. Without
a task the queue is erased. -/
def nextTask (system : System) (event : String) : Option System :=
  match system.pool.queue event with
  | [] =>
      some { system with
        pool := { system.pool with tasks := system.pool.tasks.erase event }
        loop := .next }
  | task :: rest =>
      let taken := { system with
        pool := { system.pool with tasks := system.pool.tasks.insert event rest }
        loop := .running event task }
      match task with
      | .message _ target =>
          (NodeTable.call system.table system.delay (.look (.findNode target))).map fun table =>
            { taken with table := table }
      | .handler _ => some taken

/-- The loop goes on between tasks. -/
def advance (system : System) : Option System :=
  match system.loop with
  | .next => some (nextEvent system)
  | .draining event => nextTask system event
  | _ => none

/-- What is left of a queue after a task has returned. -/
def returned (system : System) (event : String) (task : Task) (result : Int) : System :=
  { system with
    pool := { system.pool with
      tasks := system.pool.tasks.insert event
        (DelayPool.putBack task (system.pool.queue event) result) }
    loop := .draining event }

/-- A task returns. -/
def finish (system : System) (result : Int) : Option System :=
  match system.loop with
  | .running event (.message number target) =>
      match system.table.threads system.delay with
      | .done nodes =>
          some (returned system event (.message number target)
            (DelayPool.delayedDispatch (nodes.head?.map invalid)))
      | _ => none
  | .running event (.handler number) => some (returned system event (.handler number) result)
  | _ => none

/-- One step. `subscribe_event` and `on_event` need the mutex. -/
def step (system : System) : Action → Option System
  | .table action => tableStep system action
  | .dispatch thread number target => dispatchStep system thread number target
  | .resolve thread => resolve system thread
  | .add thread => addStep system thread
  | .subscribe event number =>
      if system.loop = .waiting then
        some { system with pool := DelayPool.add system.pool event (.handler number) }
      else none
  | .publish event =>
      if system.loop = .waiting then
        some { system with pool := DelayPool.notify system.pool event }
      else none
  | .wake => wake system
  | .advance => advance system
  | .finish result => finish system result

/-- The node is in `m_alive_nodes`. -/
def known (alive : List Node) (id : Nat) : Bool := (NodeTable.findCachedNode alive id).isSome

/-- A message to the node is pending. -/
def awaited (pool : Pool Task) (id : Nat) : Bool :=
  (pool.queue nodeChange).any fun task =>
    match task with
    | .message _ target => target = id
    | .handler _ => false

/-- The loop empties the queue of the delayed messages. -/
def emptying : Loop → Bool
  | .draining event | .running event _ => event = nodeChange
  | _ => false

/-- A position in `sync_all_nodes`. -/
def syncing : Position → Bool
  | .children _ | .fetch _ _ _ | .compare _ _ _ _ | .insert _ _ _ | .invalidate (.synced _) _
  | .trigger _ => true
  | _ => false

/-- The loop waits without an event, no dispatch and no `sync_all_nodes` is midway. -/
structure Quiet (system : System) : Prop where
  dispatched : ∀ thread, system.errands thread = none
  synced : ∀ thread, syncing (system.table.threads thread) = false
  waiting : system.loop = .waiting
  handled : system.pool.events = []

/-- No message is registered for a node that is known by then, and no lookup enters a node
into the table while messages to it are pending and not being retried. -/
def timely (system : System) : Action → Bool
  | .add thread =>
      match system.errands thread with
      | some (.adding _ target) => !known system.table.alive target
      | _ => true
  | .table (.proceed thread) =>
      match system.table.threads thread with
      | .insertOne node => emptying system.loop || !awaited system.pool node.id
      | _ => true
  | _ => true

end Mola.DelayedDispatch
