import Mola.Rings
import Mola.Tallies
import Mathlib.Data.Multiset.AddSub

/-!
# The work-stealing scheduler

Every thread owns a ring of tasks and all share a global queue. A thread enqueues
to its own ring; when the ring is full, it moves half of it with the new task to
the global queue. It dequeues from its own ring, and when that is empty it searches:
it takes from the global queue, or grabs the older half of another ring, keeps one
task and puts the rest in its own ring. Owner, thieves and the overflow path race
on the head of a ring by compare-exchange.

A step is one atomic load, store or compare-exchange, one access to a slot, or one
critical section of the global queue, with the local code that follows it. Outside
its lock the queue shows only its number, which a section changes once. The search
loop is a free choice between its attempts, so its job counters, its random victims
and its sleeping are not modelled. A position records how many items had left the
ring when its head was loaded; no step depends on that.

A failed assertion and an index beyond a temporary array end in the fault position.
-/

namespace Mola.WorkSteal

open Rings Tallies

universe u v

/-- Where a thread stands. The names follow the functions: `enqueue` and its
overflow `move`, `dequeue`, the search with `global_dequeue`, `grab`, and `steal`. -/
inductive Position (Item : Type u) (Id : Type v) where
  | idle
  | enqueueHead (task : Item)
  | enqueueTail (task : Item) (head since : Nat)
  | enqueueWrite (task : Item) (tail : Nat)
  | enqueueStore (task : Item) (tail : Nat)
  | moveCopy (task : Item) (head since count : Nat) (temp : List Item)
  | moveExchange (task : Item) (head since count : Nat) (temp : List Item)
  | moveGlobal (temp : List Item)
  | dequeueHead
  | dequeueTail (head since : Nat)
  | dequeueRead (head since : Nat)
  | dequeueExchange (head since : Nat) (task : Item)
  | search
  | globalLoad
  | globalLock
  | grabHead (victim : Id)
  | grabTail (victim : Id) (head since : Nat)
  | grabCopy (victim : Id) (head since count : Nat) (temp : List Item)
  | grabExchange (victim : Id) (head since count : Nat) (temp : List Item)
  | stealHead (temp : List Item) (task : Item)
  | stealTail (temp : List Item) (task : Item) (head : Nat)
  | stealWrite (temp : List Item) (task : Item) (tail written : Nat)
  | stealStore (temp : List Item) (task : Item) (tail : Nat)
  | fault
deriving DecidableEq

/-- The rings, the global queue with its number, the calls of `global_enqueue` that
have not counted their task yet, and the positions of the threads. The histories
record the tasks that entered the scheduler and those that `dequeue` returned. -/
structure State (Item : Type u) (Id : Type v) where
  rings : Id → Buffer Item
  global : List Item
  globalNum : Nat
  uncounted : Nat
  threads : Id → Position Item Id
  enqueued : List Item
  returned : List Item

/-- A call by a thread, an attempt of a searching thread, a call of `global_enqueue`
from outside with its later count, or the next step of a thread. -/
inductive Action (Item : Type u) (Id : Type v) where
  | enqueue (id : Id) (task : Item)
  | dequeue (id : Id)
  | globalDequeue (id : Id)
  | steal (id victim : Id)
  | globalEnqueue (task : Item)
  | count
  | proceed (id : Id)

variable {Item : Type u} {Id : Type v} [DecidableEq Id]

/-- Empty rings over whatever their slots hold. -/
def start (content : Id → Nat → Item) : State Item Id where
  rings := fun id => ⟨0, 0, content id, 0, 0⟩
  global := []
  globalNum := 0
  uncounted := 0
  threads := fun _ => .idle
  enqueued := []
  returned := []

/-- Move a thread. -/
def place (state : State Item Id) (id : Id) (position : Position Item Id) : State Item Id :=
  { state with threads := Function.update state.threads id position }

/-- Move a thread that changed a ring. -/
def touch (state : State Item Id) (id owner : Id) (ring : Buffer Item)
    (position : Position Item Id) : State Item Id :=
  { state with
    rings := Function.update state.rings owner ring
    threads := Function.update state.threads id position }

/-- The overflow path copies until it has its number of tasks. -/
def moving (task : Item) (head since count : Nat) (temp : List Item) : Position Item Id :=
  if temp.length < count then .moveCopy task head since count temp
  else .moveExchange task head since count temp

/-- A thief copies until it has its number of tasks. -/
def grabbing (victim : Id) (head since count : Nat) (temp : List Item) : Position Item Id :=
  if temp.length < count then .grabCopy victim head since count temp
  else .grabExchange victim head since count temp

/-- A step of `__enqueue` on the own ring. The second array holds half the ring and
the new task. -/
def enqueueStep (capacity : Nat) (state : State Item Id) (id : Id) :
    Position Item Id → Option (State Item Id)
  | .enqueueHead task =>
      some (place state id (.enqueueTail task (state.rings id).head (state.rings id).passed))
  | .enqueueTail task head since =>
      let tail := (state.rings id).tail
      if distance head tail < capacity then some (place state id (.enqueueWrite task tail))
      else some (place state id (moving task head since (distance head tail / 2) []))
  | .enqueueWrite task tail =>
      some (touch state id id (write capacity (state.rings id) tail task)
        (.enqueueStore task tail))
  | .enqueueStore task tail =>
      some { touch state id id (extend (state.rings id) (word (tail + 1)) 1) .idle with
        enqueued := state.enqueued ++ [task] }
  | .moveCopy task head since count temp =>
      if temp.length < capacity / 2 + 1 then
        some (place state id (moving task head since count
          (temp ++ [(state.rings id).content (word (head + temp.length) % capacity)])))
      else some (place state id .fault)
  | .moveExchange task head _ count temp =>
      if (state.rings id).head = head then
        some { touch state id id (advance (state.rings id) count)
          (if count < capacity / 2 + 1 then .moveGlobal (temp ++ [task]) else .fault) with
          enqueued := state.enqueued ++ [task] }
      else some (place state id (.enqueueHead task))
  | .moveGlobal temp =>
      some { place state id .idle with
        global := state.global ++ temp
        globalNum := (state.globalNum + temp.length) % 2 ^ 64 }
  | _ => none

/-- A step of `__dequeue` on the own ring, or of `global_dequeue`. -/
def dequeueStep (capacity : Nat) (state : State Item Id) (id : Id) :
    Position Item Id → Option (State Item Id)
  | .dequeueHead =>
      some (place state id (.dequeueTail (state.rings id).head (state.rings id).passed))
  | .dequeueTail head since =>
      if head = (state.rings id).tail then some (place state id .search)
      else some (place state id (.dequeueRead head since))
  | .dequeueRead head since =>
      some (place state id
        (.dequeueExchange head since ((state.rings id).content (head % capacity))))
  | .dequeueExchange head _ task =>
      if (state.rings id).head = head then
        some { touch state id id (advance (state.rings id) 1) .idle with
          returned := state.returned ++ [task] }
      else some (place state id .dequeueHead)
  | .globalLoad =>
      if state.globalNum = 0 then some (place state id .search)
      else some (place state id .globalLock)
  | .globalLock =>
      match state.global with
      | [] => some (place state id .search)
      | task :: rest =>
          some { place state id .idle with
            global := rest
            globalNum := (state.globalNum + 2 ^ 64 - 1) % 2 ^ 64
            returned := state.returned ++ [task] }
  | _ => none

/-- The exchange of a thief and the local code up to its next access: it keeps the last
task that it copied, and returns it when there is no other. -/
def detach (state : State Item Id) (id victim : Id) (count : Nat) (temp : List Item) :
    State Item Id :=
  let ring := advance (state.rings victim) count
  match temp[count - 1]? with
  | none => touch state id victim ring .fault
  | some task =>
      if count - 1 = 0 then
        { touch state id victim ring .idle with returned := state.returned ++ [task] }
      else touch state id victim ring (.stealHead (temp.take (count - 1)) task)

/-- A step of `__grab` on the ring of a victim. The array holds half a ring. -/
def grabStep (capacity : Nat) (state : State Item Id) (id : Id) :
    Position Item Id → Option (State Item Id)
  | .grabHead victim =>
      some (place state id
        (.grabTail victim (state.rings victim).head (state.rings victim).passed))
  | .grabTail victim head since =>
      let size := distance head (state.rings victim).tail
      let count := size - size / 2
      if count = 0 then some (place state id .search)
      else if capacity / 2 < count then some (place state id (.grabHead victim))
      else some (place state id (grabbing victim head since count []))
  | .grabCopy victim head since count temp =>
      if temp.length < capacity / 2 then
        some (place state id (grabbing victim head since count
          (temp ++ [(state.rings victim).content (word (head + temp.length) % capacity)])))
      else some (place state id .fault)
  | .grabExchange victim head _ count temp =>
      if (state.rings victim).head = head then some (detach state id victim count temp)
      else some (place state id (.grabHead victim))
  | _ => none

/-- A step of `__steal` after a successful grab: the tasks but the last go to the own
ring. -/
def stealStep (capacity : Nat) (state : State Item Id) (id : Id) :
    Position Item Id → Option (State Item Id)
  | .stealHead temp task => some (place state id (.stealTail temp task (state.rings id).head))
  | .stealTail temp task head =>
      let tail := (state.rings id).tail
      if word (distance head tail + temp.length) < capacity then
        some (place state id (.stealWrite temp task tail 0))
      else some (place state id .fault)
  | .stealWrite temp task tail written =>
      match temp[written]? with
      | none => some (place state id .fault)
      | some item =>
          some (touch state id id (write capacity (state.rings id) tail item)
            (if written + 1 < temp.length then
              .stealWrite temp task (word (tail + 1)) (written + 1)
            else .stealStore temp task (word (tail + 1))))
  | .stealStore temp task tail =>
      some { touch state id id (extend (state.rings id) tail temp.length) .idle with
        returned := state.returned ++ [task] }
  | _ => none

/-- The next step of a thread, by its position. -/
def threadStep (capacity : Nat) (state : State Item Id) (id : Id) : Option (State Item Id) :=
  enqueueStep capacity state id (state.threads id) <|>
    dequeueStep capacity state id (state.threads id) <|>
    grabStep capacity state id (state.threads id) <|>
    stealStep capacity state id (state.threads id)

/-- One step of the scheduler. A thread calls when it is idle; it takes from the
global queue or from another ring only in the search that follows an empty dequeue. -/
def step (capacity : Nat) (state : State Item Id) : Action Item Id → Option (State Item Id)
  | .enqueue id task =>
      match state.threads id with
      | .idle => some (place state id (.enqueueHead task))
      | _ => none
  | .dequeue id =>
      match state.threads id with
      | .idle => some (place state id .dequeueHead)
      | _ => none
  | .globalDequeue id =>
      match state.threads id with
      | .search => some (place state id .globalLoad)
      | _ => none
  | .steal id victim =>
      match state.threads id with
      | .search => if victim = id then none else some (place state id (.grabHead victim))
      | _ => none
  | .globalEnqueue task =>
      some { state with
        global := state.global ++ [task]
        uncounted := state.uncounted + 1
        enqueued := state.enqueued ++ [task] }
  | .count =>
      if state.uncounted = 0 then none
      else some { state with
        globalNum := (state.globalNum + 1) % 2 ^ 64
        uncounted := state.uncounted - 1 }
  | .proceed id => threadStep capacity state id

/-- Before a thief exchanges a head, fewer than 2^32 items have left the ring since it
loaded that head. -/
def fewPassed (state : State Item Id) : Action Item Id → Bool
  | .proceed id =>
      match state.threads id with
      | .grabExchange victim _ since _ _ => (state.rings victim).passed - since < 2 ^ 32
      | _ => true
  | _ => true

/-- The tasks that a thread has detached from a ring by a successful exchange and not
handed on yet. -/
def detached : Position Item Id → List Item
  | .moveGlobal temp => temp
  | .stealHead temp task => task :: temp
  | .stealTail temp task _ => task :: temp
  | .stealWrite temp task _ _ => task :: temp
  | .stealStore temp task _ => task :: temp
  | _ => []

end Mola.WorkSteal
