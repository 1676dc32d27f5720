import Mathlib.Logic.Function.Basic
import Mola.Runs

/-!
# A client connection

A thread that sends a request with a callback draws an id with `rand` until it is not 0,
registers the callback under that id, and sends the message with the id. The reply carries the
id of the request. `deliver_message` hands a message whose id has a callback to that callback,
which is registered once; any other message goes into a cache under the name of its module,
and if a receiver may be waiting for it, one waiting thread is notified. `recv_message` takes
a message of a module, or with "*" of any, and waits on the one condition variable of the
connection as long as there is none.

A step is a section under the lock of the connection, from its acquisition to its release or
to the wait, or a call of `rand`. The lock is not modelled beside that. `notify_one` wakes any
one of the threads that wait, and a thread may also wake up by itself. A message is known by
its number in the order of arrival, a request by its number in the order of the calls. The
sending itself is not modelled: a reply may arrive at any time after the registration. The
history records for each message which request it answers and whose callback it was given to.
-/

namespace Mola.ClientConn

/-- How far a request is. -/
inductive Stage where
  | drawing
  | drawn (reqid : UInt32)
  | sent (reqid : UInt32)
  | answered
deriving DecidableEq

/-- Where a call of `recv_message` is: about to look for a message, in the wait, woken up and
about to look again, or returned with a message. -/
inductive Phase where
  | running
  | waiting
  | notified
  | taken (message : Nat)
deriving DecidableEq

/-- A call of `recv_message` with the name that it was given. -/
structure Receiver where
  name : String
  phase : Phase
deriving DecidableEq

/-- A message that has arrived: the request that it answers, and the request whose callback
was invoked with it. -/
structure Outcome where
  reply : Option Nat
  callback : Option Nat
deriving DecidableEq

/-- The members of the connection, the calls that were made, and the history. -/
structure State where
  reqStates : UInt32 → Option Nat
  cache : List (String × Nat)
  pending : String → Int
  requests : List Stage
  receivers : List Receiver
  outcomes : List Outcome

/-- A new connection. -/
def start : State := ⟨fun _ => none, [], fun _ => 0, [], [], []⟩

/-- `emplace` into the multimap of messages: behind those with the same key. -/
def insertMessage (cache : List (String × Nat)) (mod : String) (message : Nat) :
    List (String × Nat) :=
  cache.takeWhile (fun entry => entry.1 ≤ mod) ++
    (mod, message) :: cache.dropWhile (fun entry => entry.1 ≤ mod)

/-- A message that a receiver can take. -/
def wanted (name : String) (entry : String × Nat) : Bool := name = "*" || entry.1 = name

/-- `notify_one`, with the thread that it wakes. -/
def notifyOne (receivers : List Receiver) : Option Nat → Option (List Receiver)
  | none => if receivers.any fun receiver => receiver.phase = .waiting then none else some receivers
  | some woken =>
      match receivers[woken]? with
      | none => none
      | some receiver =>
          if receiver.phase = .waiting then
            some (receivers.set woken { receiver with phase := .notified })
          else none

/-- `deliver_message` calls `notify_one`. -/
def notifies (state : State) (mod : String) : Bool :=
  0 < state.pending mod || 0 < state.pending "*"

/-- `deliver_message`, with the thread that is woken, if any, and the request that the message
answers. -/
def deliverMessage (state : State) (reply : Option Nat) (reqid : UInt32) (mod : String)
    (woken : Option Nat) : Option State :=
  match state.reqStates reqid with
  | some callback =>
      if woken = none then
        some { state with
          reqStates := Function.update state.reqStates reqid none
          outcomes := state.outcomes ++ [⟨reply, some callback⟩] }
      else none
  | none =>
      let cached := { state with
        cache := insertMessage state.cache mod state.outcomes.length
        outcomes := state.outcomes ++ [⟨reply, none⟩] }
      if notifies state mod then
        (notifyOne state.receivers woken).map fun receivers =>
          { cached with receivers := receivers }
      else if woken = none then some cached
      else none

/-- `m_pending` when a receiver is not in a wait any more. -/
def waited (state : State) (receiver : Receiver) : String → Int :=
  if receiver.phase = .notified then
    Function.update state.pending receiver.name (state.pending receiver.name - 1)
  else state.pending

/-- A section of `recv_message` under the lock: the end of a wait, the search, and the message
or the beginning of a wait. -/
def look (state : State) (index : Nat) (receiver : Receiver) : State :=
  match state.cache.find? (wanted receiver.name) with
  | none =>
      { state with
        pending := Function.update (waited state receiver) receiver.name
          (waited state receiver receiver.name + 1)
        receivers := state.receivers.set index { receiver with phase := .waiting } }
  | some entry =>
      { state with
        cache := state.cache.erase entry
        pending := waited state receiver
        receivers := state.receivers.set index { receiver with phase := .taken entry.2 } }

/-- A request is made; `rand` returns a value; a callback is registered; a reply to a request
or another message arrives; a receiver is called, or gets the lock, or wakes up. -/
inductive Action where
  | send
  | rand (index : Nat) (value : UInt32)
  | register (index : Nat)
  | reply (index : Nat) (mod : String) (woken : Option Nat)
  | deliver (reqid : UInt32) (mod : String) (woken : Option Nat)
  | recv (name : String)
  | proceed (index : Nat)
  | wakeUp (index : Nat)

/-- One step. Each request is answered at most once. -/
def step (state : State) : Action → Option State
  | .send => some { state with requests := state.requests ++ [.drawing] }
  | .rand index value =>
      match state.requests[index]? with
      | some .drawing =>
          if value = 0 then some state
          else some { state with requests := state.requests.set index (.drawn value) }
      | _ => none
  | .register index =>
      match state.requests[index]? with
      | some (.drawn reqid) =>
          some { state with
            reqStates :=
              if (state.reqStates reqid).isSome then state.reqStates
              else Function.update state.reqStates reqid (some index)
            requests := state.requests.set index (.sent reqid) }
      | _ => none
  | .reply index mod woken =>
      match state.requests[index]? with
      | some (.sent reqid) =>
          deliverMessage { state with requests := state.requests.set index .answered } (some index)
            reqid mod woken
      | _ => none
  | .deliver reqid mod woken => deliverMessage state none reqid mod woken
  | .recv name => some { state with receivers := state.receivers ++ [⟨name, .running⟩] }
  | .proceed index =>
      match state.receivers[index]? with
      | some receiver =>
          match receiver.phase with
          | .running | .notified => some (look state index receiver)
          | _ => none
      | none => none
  | .wakeUp index => (notifyOne state.receivers (some index)).map fun receivers =>
      { state with receivers := receivers }

end Mola.ClientConn
