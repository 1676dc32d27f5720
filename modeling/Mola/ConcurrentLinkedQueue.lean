import Mola.Runs
import Mola.Chains

/-!
# The lock-free queue

`ConcurrentLinkedQueue` keeps its items in a chain of nodes. The node of `m_head` is a
dummy, whose item was taken before; the items are in the nodes after it. `m_tail` may lag
behind the last node, and whoever finds it so moves it on. An item enters the queue by the
exchange of the last next-pointer, and leaves it by the exchange of `m_head`; the field of a
node is cleared afterwards.

Any number of threads call `enqueue`, `dequeue` and `empty`. A step is one atomic load, store
or exchange with the local code up to the next one. Nodes are never freed, so a new node is
one that was never used. A null pointer is `none`, and a thread that dereferences it ends in
the fault position.

The histories record the exchanges of next-pointers, those of `m_head` by `dequeue`, and what
the calls returned; no thread reads them. `size` is not modelled.
-/

namespace Mola.ConcurrentLinkedQueue

universe u v w

/-- A node with the item that it was made for. -/
structure Entry (Node : Type u) (Item : Type v) where
  node : Node
  item : Item
deriving DecidableEq

/-- Who reads the front of the queue: `dequeue`, or `first` for `empty`. -/
inductive Purpose where
  | dequeue
  | first
deriving DecidableEq

/-- Where a thread stands, with its local variables: before the loads and exchanges of
`enqueue`, before the loads that `dequeue` and `first` share, before the exchange of `m_head`
in `dequeue` and the load and store of the item that follow it, or before the load and the
exchange at the end of `first`. -/
inductive Position (Node : Type u) (Item : Type v) where
  | idle
  | enqueueTail (entry : Entry Node Item)
  | enqueueNext (entry : Entry Node Item) (t : Option Node)
  | enqueueCheck (entry : Entry Node Item) (t : Node) (s : Option Node)
  | link (entry : Entry Node Item) (t : Node)
  | swing (entry : Entry Node Item) (t : Node)
  | enqueueHelp (entry : Entry Node Item) (t : Node) (s : Option Node)
  | loadHead (purpose : Purpose)
  | loadTail (purpose : Purpose) (h : Option Node)
  | loadNext (purpose : Purpose) (h t : Option Node)
  | check (purpose : Purpose) (h : Node) (t first : Option Node)
  | help (purpose : Purpose) (t first : Option Node)
  | advance (h : Node) (first : Option Node)
  | take (first : Option Node)
  | clear (first : Node) (item : Item)
  | peek (h : Node) (first : Option Node)
  | skip (h : Node) (first : Option Node)
  | fault
deriving DecidableEq

/-- What a call returned. For an item that was dequeued, its node is recorded as well. -/
inductive Answer (Node : Type u) (Item : Type v) where
  | put (done : Bool)
  | got (entry : Entry Node Item)
  | null
  | empty (result : Bool)
deriving DecidableEq

/-- The queue, the fields of the nodes, the threads, the nodes that were made, and the
histories. -/
structure State (Id : Type w) (Node : Type u) (Item : Type v) where
  head : Option Node
  tail : Option Node
  next : Node → Option Node
  item : Node → Option Item
  threads : Id → Position Node Item
  allocated : List Node
  linked : List (Entry Node Item)
  taken : List Node
  answers : List (Id × Answer Node Item)

/-- A thread starts a call, with the memory that a new node gets, or takes a step. -/
inductive Action (Id : Type w) (Node : Type u) (Item : Type v) where
  | enqueue (id : Id) (item : Option Item) (node : Node)
  | dequeue (id : Id)
  | empty (id : Id)
  | proceed (id : Id)
deriving DecidableEq

variable {Id : Type w} {Node : Type u} {Item : Type v} [DecidableEq Id] [DecidableEq Node]

/-- The constructor. -/
def start (dummy : Node) : State Id Node Item where
  head := some dummy
  tail := some dummy
  next := fun _ => none
  item := fun _ => none
  threads := fun _ => .idle
  allocated := [dummy]
  linked := []
  taken := []
  answers := []

/-- The thread goes on at another position. -/
def move (state : State Id Node Item) (id : Id) (position : Position Node Item) :
    State Id Node Item :=
  { state with threads := Function.update state.threads id position }

/-- The call of the thread returns. -/
def answer (state : State Id Node Item) (id : Id) (result : Answer Node Item) :
    State Id Node Item :=
  { move state id .idle with answers := state.answers ++ [(id, result)] }

/-- The exchange of `m_tail`. -/
def exchangeTail (state : State Id Node Item) (t desired : Option Node) : State Id Node Item :=
  if state.tail = t then { state with tail := desired } else state

/-- What a reader answers that finds the queue empty. -/
def nothing : Purpose → Answer Node Item
  | .dequeue => .null
  | .first => .empty true

/-- The step of a thread in `enqueue`. -/
def enqueueStep (state : State Id Node Item) (id : Id) :
    Position Node Item → Option (State Id Node Item)
  | .enqueueTail entry => some (move state id (.enqueueNext entry state.tail))
  | .enqueueNext _ none => some (move state id .fault)
  | .enqueueNext entry (some t) => some (move state id (.enqueueCheck entry t (state.next t)))
  | .enqueueCheck entry t s =>
      if state.tail = some t then
        match s with
        | none => some (move state id (.link entry t))
        | some _ => some (move state id (.enqueueHelp entry t s))
      else some (move state id (.enqueueTail entry))
  | .link entry t =>
      if state.next t = none then
        some { move state id (.swing entry t) with
          next := Function.update state.next t (some entry.node)
          linked := state.linked ++ [entry] }
      else some (move state id (.enqueueTail entry))
  | .swing entry t => some (answer (exchangeTail state (some t) (some entry.node)) id (.put true))
  | .enqueueHelp entry t s =>
      some (move (exchangeTail state (some t) s) id (.enqueueTail entry))
  | _ => none

/-- The step of a thread in `dequeue` or `first`. -/
def readStep (state : State Id Node Item) (id : Id) :
    Position Node Item → Option (State Id Node Item)
  | .loadHead purpose => some (move state id (.loadTail purpose state.head))
  | .loadTail purpose h => some (move state id (.loadNext purpose h state.tail))
  | .loadNext _ none _ => some (move state id .fault)
  | .loadNext purpose (some h) t => some (move state id (.check purpose h t (state.next h)))
  | .check purpose h t first =>
      if state.head = some h then
        if some h = t then
          match first with
          | none => some (answer state id (nothing purpose))
          | some _ => some (move state id (.help purpose t first))
        else
          match purpose with
          | .dequeue => some (move state id (.advance h first))
          | .first => some (move state id (.peek h first))
      else some (move state id (.loadHead purpose))
  | .help purpose t first => some (move (exchangeTail state t first) id (.loadHead purpose))
  | .advance h first =>
      if state.head = some h then
        some { move state id (.take first) with
          head := first
          taken := state.taken ++ first.toList }
      else some (move state id (.loadHead .dequeue))
  | .take none => some (move state id .fault)
  | .take (some first) =>
      match state.item first with
      | some item => some (move state id (.clear first item))
      | none => some (move state id (.loadHead .dequeue))
  | .clear first item =>
      some { answer state id (.got ⟨first, item⟩) with
        item := Function.update state.item first none }
  | .peek _ none => some (move state id .fault)
  | .peek h (some first) =>
      match state.item first with
      | some _ => some (answer state id (.empty false))
      | none => some (move state id (.skip h (some first)))
  | .skip h first =>
      some { move state id (.loadHead .first) with
        head := if state.head = some h then first else state.head }
  | _ => none

/-- One step of the system. A thread starts a call only after it has returned from the one
before. -/
def step (state : State Id Node Item) : Action Id Node Item → Option (State Id Node Item)
  | .enqueue id item node =>
      match state.threads id, item with
      | .idle, none => some (answer state id (.put false))
      | .idle, some item =>
          if node ∈ state.allocated then none
          else
            some { move state id (.enqueueTail ⟨node, item⟩) with
              next := Function.update state.next node none
              item := Function.update state.item node (some item)
              allocated := node :: state.allocated }
      | _, _ => none
  | .dequeue id =>
      match state.threads id with
      | .idle => some (move state id (.loadHead .dequeue))
      | _ => none
  | .empty id =>
      match state.threads id with
      | .idle => some (move state id (.loadHead .first))
      | _ => none
  | .proceed id =>
      match enqueueStep state id (state.threads id) with
      | some next => some next
      | none => readStep state id (state.threads id)

/-- The entries that were dequeued and returned, in the order of the returns. -/
def returned (state : State Id Node Item) : List (Entry Node Item) :=
  state.answers.filterMap fun answer =>
    match answer.2 with
    | .got entry => some entry
    | _ => none

/-- The items that the queue holds: those whose exchange of a next-pointer has succeeded and
that no exchange of `m_head` has passed. -/
def held (state : State Id Node Item) : List (Entry Node Item) :=
  state.linked.drop state.taken.length

/-- A first-in first-out queue: the nodes from `m_head` form a chain that contains `m_tail`;
the exchanges of `m_head` follow the order of those of the next-pointers; what was returned was
enqueued and passed by such an exchange, each entry once; and no null pointer was
dereferenced. -/
structure Fifo (state : State Id Node Item) : Prop where
  chain : ∃ nodes, Chains.Chain state.next state.head nodes ∧
    ∃ last ∈ nodes, state.tail = some last
  order : state.taken <+: state.linked.map Entry.node
  distinct : (state.linked.map Entry.node).Nodup
  origin : ∀ entry ∈ returned state, entry ∈ state.linked ∧ entry.node ∈ state.taken
  once : ((returned state).map Entry.node).Nodup
  safe : ∀ id, state.threads id ≠ .fault

end Mola.ConcurrentLinkedQueue
