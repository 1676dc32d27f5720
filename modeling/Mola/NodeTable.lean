import Mola.Runs
import Mathlib.Data.List.Sort

/-!
# The node table and its caches

A node manager keeps the nodes of the cluster in `m_alive_nodes`. Every worker has two
caches of its own over that table, for single nodes and for the nodes of a module. A cache
is never emptied by another thread: `delete_node` and `sync_all_nodes` only lower its
valid flag, and the owner clears the map when it next looks something up, and raises the
flag again.

A step is one access to a flag, to a map, to the lock or to ZooKeeper, with the local code
up to the next one. The lookups of workers and the erasure in `delete_node` are under
`m_lock`; `sync_all_nodes` is under it when a lookup calls it, and not when the watcher of
ZooKeeper does. What ZooKeeper answers is chosen from outside. Every `Node::decode` makes a
new object, and objects are told apart by a number.

A pointer to a node is a list of at most one node, the empty list being the null pointer,
so that both caches hold lists of nodes and both treat the empty list as a miss. The
connections of a node, and `join`, which is over before the workers look anything up, are
not modelled.
-/

namespace Mola.NodeTable

/-- What ZooKeeper keeps about a node. -/
structure Info where
  ip : String
  port : Nat
  proto : Nat
  endian : Nat
  modules : List Nat
deriving DecidableEq

/-- A `Node` object. Two objects can describe one node. -/
structure Node where
  object : Nat
  id : Nat
  info : Info
deriving DecidableEq

/-- `Node::equals`, which does not compare the modules. -/
def Node.equals (node other : Node) : Bool :=
  node.id = other.id && node.info.ip = other.info.ip && node.info.port = other.info.port &&
    node.info.proto = other.info.proto && node.info.endian = other.info.endian

/-- `Node::has_module` for an id. -/
def Node.hasModule (node : Node) (mid : Nat) : Bool := node.info.modules.contains mid

/-- The two caches of a worker. -/
inductive Kind where
  | node
  | module
deriving DecidableEq

/-- `AbsolateWorker::Cache`: a map and its valid flag. -/
structure Cache where
  entries : List (Nat × List Node)
  valid : Bool

/-- The value of a key, or the default one. -/
def Cache.find (cache : Cache) (key : Nat) : List Node := (cache.entries.lookup key).getD []

/-- `Cache::insert`. An `emplace` leaves the value of a present key. -/
def Cache.insert (cache : Cache) (key : Nat) (nodes : List Node) : Cache :=
  if (cache.entries.lookup key).isSome then cache
  else { cache with entries := (key, nodes) :: cache.entries }

/-- The objects that a cache refers to. -/
def Cache.objects (cache : Cache) : List Nat :=
  cache.entries.flatMap fun entry => entry.2.map Node.object

/-- A lookup of a worker. -/
inductive Lookup where
  | findNode (id : Nat)
  | queryNodeWithModule (mid : Nat)
deriving DecidableEq

/-- The cache that a lookup uses. -/
def Lookup.kind : Lookup → Kind
  | .findNode _ => .node
  | .queryNodeWithModule _ => .module

/-- The key of a lookup. -/
def Lookup.key : Lookup → Nat
  | .findNode id => id
  | .queryNodeWithModule mid => mid

/-- What a thread does after `invalid_thread_cache`: return from `delete_node`, which
erased these objects, or go on in `sync_all_nodes`. -/
inductive Ending where
  | deleted (objects : List Nat)
  | synced (caller : Option Lookup)
deriving DecidableEq

/-- Where a thread stands. The first group is `Cache::get`; `children` to `insert` and
`trigger` are `sync_all_nodes`, called by a lookup or by the watcher; `checkSync`, `synced`
and `search` to `keep` are the critical section of a lookup; `erase` is `delete_node`. -/
inductive Position where
  | idle
  | load (what : Lookup)
  | find (what : Lookup)
  | clear (what : Lookup)
  | store (what : Lookup)
  | lock (what : Lookup)
  | checkSync (what : Lookup)
  | children (caller : Option Lookup)
  | fetch (caller : Option Lookup) (ids : List Nat) (notify : Bool)
  | compare (caller : Option Lookup) (node : Node) (ids : List Nat) (notify : Bool)
  | insert (caller : Option Lookup) (node : Node) (ids : List Nat)
  | invalidate (ending : Ending) (caches : List (Nat × Kind))
  | trigger (caller : Option Lookup)
  | synced (what : Lookup)
  | search (what : Lookup)
  | fetchOne (id : Nat)
  | compareOne (node : Node)
  | insertOne (node : Node)
  | keep (what : Lookup) (nodes : List Node)
  | erase (id : Nat)
  | done (nodes : List Node)
deriving DecidableEq

/-- A lookup that has returned: the objects that were barred when it started, and the
nodes that it returned. -/
structure Answer where
  barred : List Nat
  nodes : List Node
deriving DecidableEq

/-- The node manager and its threads. Threads below `workers` are registered workers. The
last four fields are history: the objects that were erased, those whose `delete_node` has
returned, which of the latter there were when the lookup of a thread started, and the
lookups that have returned. -/
structure State where
  workers : Nat
  localId : Nat
  alive : List Node
  needSync : Bool
  lock : Option Nat
  caches : Nat → Kind → Cache
  threads : Nat → Position
  created : Nat
  erased : List Nat
  gone : List Nat
  barred : Nat → List Nat
  answers : List Answer

/-- What a thread calls. The last one is what the watcher calls. -/
inductive Request where
  | look (what : Lookup)
  | deleteNode (id : Nat)
  | syncAllNodes

/-- A thread calls a function, goes on, or gets the children of the node directory or the
data of a node from ZooKeeper. -/
inductive Action where
  | call (thread : Nat) (request : Request)
  | proceed (thread : Nat)
  | children (thread : Nat) (ids : List Nat)
  | answer (thread : Nat) (info : Option Info)

/-- A manager that has joined the cluster: it knows its own node and has to ask for the
others. -/
def start (workers localId : Nat) (info : Info) : State where
  workers := workers
  localId := localId
  alive := [⟨0, localId, info⟩]
  needSync := true
  lock := none
  caches := fun _ _ => ⟨[], true⟩
  threads := fun _ => .idle
  created := 1
  erased := []
  gone := []
  barred := fun _ => []
  answers := []

/-- Move a thread. -/
def goto (state : State) (thread : Nat) (position : Position) : State :=
  { state with threads := Function.update state.threads thread position }

/-- Replace a cache. -/
def setCache (state : State) (worker : Nat) (kind : Kind) (cache : Cache) : State :=
  { state with
    caches := Function.update state.caches worker
      (Function.update (state.caches worker) kind cache) }

/-- `NodeManager::find_cached_node`. -/
def findCachedNode (alive : List Node) (id : Nat) : Option Node :=
  alive.find? fun node => node.id = id

/-- Whether `update_cached_node` inserts the node and returns true. -/
def changed (alive : List Node) (node : Node) : Bool :=
  match findCachedNode alive node.id with
  | none => true
  | some original => !original.equals node

/-- The insertion of `update_cached_node`. A map keeps the node of a present id. -/
def insertNode (alive : List Node) (node : Node) : List Node :=
  if (findCachedNode alive node.id).isSome then alive
  else alive.orderedInsert (fun first second => first.id ≤ second.id) node

/-- The flags in the order in which `invalid_thread_cache` lowers them. -/
def allCaches (workers : Nat) : List (Nat × Kind) :=
  (List.range workers).flatMap fun worker => [(worker, Kind.node), (worker, Kind.module)]

/-- Where a thread goes that returns from `sync_all_nodes`. -/
def syncReturned : Option Lookup → Position
  | none => .done []
  | some what => .synced what

/-- A lookup returns. -/
def giveBack (state : State) (thread : Nat) (nodes : List Node) : State :=
  { goto state thread (.done nodes) with
    answers := ⟨state.barred thread, nodes⟩ :: state.answers }

/-- The erasure of `delete_node`, after which the caches are invalidated if there was
something to erase. -/
def eraseStep (state : State) (thread id : Nat) : State :=
  let removed := state.alive.filter fun node => node.id = id
  if removed = [] then goto state thread (.done [])
  else
    { goto state thread (.invalidate (.deleted (removed.map Node.object))
        (allCaches state.workers)) with
      alive := state.alive.filter fun node => node.id ≠ id
      erased := removed.map Node.object ++ state.erased }

/-- The search in `m_alive_nodes` of a lookup. -/
def searchStep (state : State) (thread : Nat) : Lookup → State
  | .findNode id =>
      match findCachedNode state.alive id with
      | some node => goto state thread (.keep (.findNode id) [node])
      | none => goto state thread (.fetchOne id)
  | .queryNodeWithModule mid =>
      goto state thread (.keep (.queryNodeWithModule mid)
        (state.alive.filter fun node => node.hasModule mid))

/-- A thread goes on with its next step that needs nothing from ZooKeeper. -/
def proceed (state : State) (thread : Nat) : Option State :=
  match state.threads thread with
  | .load what =>
      some (goto state thread
        (if (state.caches thread what.kind).valid then .find what else .clear what))
  | .find what =>
      let nodes := (state.caches thread what.kind).find what.key
      if nodes = [] then some (goto state thread (.lock what))
      else some (giveBack state thread nodes)
  | .clear what =>
      some (goto (setCache state thread what.kind
        { state.caches thread what.kind with entries := [] }) thread (.store what))
  | .store what =>
      some (goto (setCache state thread what.kind
        { state.caches thread what.kind with valid := true }) thread (.lock what))
  | .lock what =>
      if state.lock = none then
        some { goto state thread (.checkSync what) with lock := some thread }
      else none
  | .checkSync what =>
      some (goto state thread (if state.needSync then .children (some what) else .search what))
  | .fetch caller [] notify =>
      some (goto state thread
        (if notify then .invalidate (.synced caller) (allCaches state.workers)
         else syncReturned caller))
  | .compare caller node rest notify =>
      some (goto state thread
        (if changed state.alive node then .insert caller node rest
         else .fetch caller rest notify))
  | .insert caller node rest =>
      some { goto state thread (.fetch caller rest true) with
        alive := insertNode state.alive node }
  | .invalidate ending ((worker, kind) :: rest) =>
      some (goto (setCache state worker kind
        { state.caches worker kind with valid := false }) thread (.invalidate ending rest))
  | .invalidate (.deleted objects) [] =>
      some { goto state thread (.done []) with gone := objects ++ state.gone }
  | .invalidate (.synced caller) [] => some (goto state thread (.trigger caller))
  | .trigger caller => some (goto state thread (syncReturned caller))
  | .synced what => some { goto state thread (.search what) with needSync := false }
  | .search what => some (searchStep state thread what)
  | .compareOne node =>
      some (goto state thread
        (if changed state.alive node then .insertOne node
         else .keep (.findNode node.id) [node]))
  | .insertOne node =>
      some { goto state thread (.keep (.findNode node.id) [node]) with
        alive := insertNode state.alive node }
  | .keep what nodes =>
      some { giveBack (setCache state thread what.kind
        ((state.caches thread what.kind).insert what.key nodes)) thread nodes with lock := none }
  | .erase id => if state.lock = none then some (eraseStep state thread id) else none
  | _ => none

/-- The object that `_find_node` makes of what ZooKeeper has. -/
def decode (state : State) (id : Nat) (info : Info) : Node := ⟨state.created, id, info⟩

/-- ZooKeeper answers `_find_node`. -/
def answer (state : State) (thread : Nat) (info : Option Info) : Option State :=
  match state.threads thread, info with
  | .fetch caller (_ :: rest) notify, none => some (goto state thread (.fetch caller rest notify))
  | .fetch caller (id :: rest) notify, some info =>
      some { goto state thread (.compare caller (decode state id info) rest notify) with
        created := state.created + 1 }
  | .fetchOne id, none => some (goto state thread (.keep (.findNode id) []))
  | .fetchOne id, some info =>
      some { goto state thread (.compareOne (decode state id info)) with
        created := state.created + 1 }
  | _, _ => none

/-- ZooKeeper lists the nodes; the local one is left out. -/
def children (state : State) (thread : Nat) (ids : List Nat) : Option State :=
  match state.threads thread with
  | .children caller =>
      some (goto state thread
        (.fetch caller (ids.filter fun id => id ≠ state.localId) false))
  | _ => none

/-- A thread enters a function. Only registered workers look something up. -/
def enter (state : State) (thread : Nat) : Request → Option State
  | .look what =>
      if thread < state.workers then
        some { goto state thread (.load what) with
          barred := Function.update state.barred thread state.gone }
      else none
  | .deleteNode id => some (goto state thread (.erase id))
  | .syncAllNodes => some (goto state thread (.children none))

/-- A thread that is outside of every function calls one. -/
def call (state : State) (thread : Nat) (request : Request) : Option State :=
  match state.threads thread with
  | .idle | .done _ => enter state thread request
  | _ => none

/-- One step. -/
def step (state : State) : Action → Option State
  | .call thread request => call state thread request
  | .proceed thread => proceed state thread
  | .children thread ids => children state thread ids
  | .answer thread info => answer state thread info

end Mola.NodeTable
