import Mola.Mailbox

/-!
# The write path of a stream

Threads hand chains of buffers to one stream with `async_write`, and the
multiplexer reports that its socket can be written. Both lead to the write branch
of `handle_event`, which at most one thread executes at a time: it takes chains
from the mailbox, writes them buffer by buffer, and leaves when the mailbox could
be blocked or when the socket took less than it was given. What is left of the
current chain stays in the handler for the next call.

A step is one atomic operation or one call of `write`, with the local code that
follows it. The result of `write` is chosen with the step, within what the system
call promises. The memory of a chain may be allocated again as soon as the chain
has left the mailbox, which is earlier than the source frees it.

A write that fails with another error than EAGAIN closes the mailbox; such writes,
the read branch and the registration with the multiplexer are not modelled.
-/

namespace Mola.StreamHandler

open Mailbox

universe u v

/-- A buffer with the data of the buffers linked behind it. -/
structure StreamBuffer where
  data : List UInt8
  link : List (List UInt8)
deriving DecidableEq

namespace StreamBuffer

/-- The buffer behind a buffer. -/
def getLink (buffer : StreamBuffer) : Option StreamBuffer :=
  match buffer.link with
  | [] => none
  | data :: link => some ⟨data, link⟩

/-- The bytes of a chain, buffer by buffer. -/
def bytes (buffer : StreamBuffer) : List UInt8 := buffer.data ++ buffer.link.flatten

/-- No buffer of the chain is empty. -/
def solid (buffer : StreamBuffer) : Bool :=
  buffer.data ≠ [] && buffer.link.all (fun data => data ≠ [])

end StreamBuffer

/-- Who calls `handle_event`: the multiplexer, or `async_write` in its loop. -/
inductive Caller where
  | event
  | asyncWrite
deriving DecidableEq

/-- What a call of `write` returned: a count, or EAGAIN. -/
inductive WriteResult where
  | wrote (count : Nat)
  | again
deriving DecidableEq

/-- Where a call that has obtained the lock stands. -/
inductive Inside (Item : Type u) where
  | loop
  | dequeueLoad
  | dequeueExchange (seen : Top Item)
  | isBlocked
  | blockLoad
  | blockExchange
  | write
  | unlock
  | fault
deriving DecidableEq

/-- Where a thread stands. A call with the lock remembers whether every `write` so
far took all it was given. -/
inductive Position (Item : Type u) where
  | outside
  | load (item : Item)
  | exchange (item : Item) (seen : Top Item)
  | lock (caller : Caller)
  | inside (place : Inside Item) (full : Bool)
deriving DecidableEq

/-- What a call with the lock left behind at the operation that made it return: the
current buffer, the shared pointer, and whether every published byte is on the
socket. -/
structure Return (Item : Type u) where
  full : Bool
  wrBuf : Option StreamBuffer
  stack : Top Item
  sent : Bool

/-- The handler, the chain that each mailbox item starts, and the threads. The
socket collects what `write` took. The last three fields are histories that no
thread reads: the published chains, the height of the shared stack, and the calls
that returned. -/
structure State (Item : Type u) (Thread : Type v) where
  mailbox : Mailbox Item
  buffers : Item → StreamBuffer
  allocated : List Item
  lock : Bool
  written : Nat
  wrBuf : Option StreamBuffer
  socket : List UInt8
  threads : Thread → Position Item
  published : List StreamBuffer
  onStack : Nat
  returns : List (Return Item)

/-- A thread calls `async_write` with a chain, the multiplexer calls `handle_event`
on a thread, or a thread goes on. The copy loop is given fuel, and a call of `write`
its result. -/
inductive Action (Item : Type u) (Thread : Type v) where
  | asyncWrite (thread : Thread) (item : Item) (buffer : StreamBuffer)
  | event (thread : Thread)
  | proceed (thread : Thread) (fuel : Nat) (result : WriteResult)

variable {Item : Type u} [DecidableEq Item] {Thread : Type v} [DecidableEq Thread]

/-- The call of `enqueue` of a thread. -/
def Position.call : Position Item → Enqueue Item
  | .load item => .load item
  | .exchange item seen => .exchange item seen
  | _ => .idle

/-- The bytes of all chains, in their order. -/
def stream (buffers : List StreamBuffer) : List UInt8 := buffers.flatMap StreamBuffer.bytes

/-- A new handler. Memory that is not allocated holds anything. -/
def create (lastp : Nat) (next : Item → Option Item) (buffers : Item → StreamBuffer) :
    State Item Thread where
  mailbox := Mailbox.create lastp next
  buffers := buffers
  allocated := []
  lock := false
  written := 0
  wrBuf := none
  socket := []
  threads := fun _ => .outside
  published := []
  onStack := 0
  returns := []

/-- Move one thread. -/
def move (state : State Item Thread) (thread : Thread) (position : Position Item) :
    State Item Thread :=
  { state with threads := Function.update state.threads thread position }

/-- The call returns false; the destructor of its guard releases the lock next. -/
def leave (state : State Item Thread) (thread : Thread) (full : Bool) : State Item Thread :=
  { move state thread (.inside .unlock full) with
    returns := state.returns ++ [{
      full := full
      wrBuf := state.wrBuf
      stack := state.mailbox.stack
      sent := decide (state.socket = stream state.published) }] }

/-- Record where a step left the call of `dequeue`. -/
def settle (state : State Item Thread) (thread : Thread) (full : Bool) (mailbox : Mailbox Item) :
    Fetch Item → State Item Thread
  | .returned none => { move state thread (.inside .isBlocked full) with mailbox := mailbox }
  | .returned (some item) =>
      { move state thread (.inside .write full) with
        mailbox := mailbox
        allocated := state.allocated.filter (fun other => other ≠ item)
        wrBuf := some (state.buffers item) }
  | .load => { move state thread (.inside .dequeueLoad full) with mailbox := mailbox }
  | .exchange seen =>
      { move state thread (.inside (.dequeueExchange seen) full) with mailbox := mailbox }
  | .fault => { move state thread (.inside .fault full) with mailbox := mailbox }

/-- What `write` may return for a request: nothing for an empty one, between one byte
and all of it for another, or EAGAIN. -/
def WriteResult.allowed (requested : Nat) : WriteResult → Bool
  | .wrote count => if requested = 0 then count = 0 else 0 < count && count ≤ requested
  | .again => true

/-- The end of a buffer: go on with the one linked behind it. -/
def writeLoop (state : State Item Thread) : State Item Thread :=
  { state with written := 0, wrBuf := state.wrBuf.bind StreamBuffer.getLink }

/-- What `handle_event` does with the result of `write`. A positive count is added
to the position in the buffer, and a finished buffer leads back to the loop. Every
other result ends the call. -/
def wrote (state : State Item Thread) (thread : Thread) (full : Bool) (buffer : StreamBuffer) :
    WriteResult → State Item Thread
  | .again => leave state thread false
  | .wrote count =>
      if 0 < count then
        let state := { state with
          socket := state.socket ++ (buffer.data.drop state.written).take count
          written := state.written + count }
        if state.written = buffer.data.length then
          move (writeLoop state) thread (.inside .loop full)
        else leave state thread false
      else leave state thread full

/-- A step of a call that holds the lock. -/
def insideStep (fuel : Nat) (result : WriteResult) (state : State Item Thread) (thread : Thread)
    (full : Bool) : Inside Item → Option (State Item Thread)
  | .loop =>
      match state.wrBuf with
      | some _ => some (move state thread (.inside .write full))
      | none => some (settle state thread full (dequeueEnter 1 state.mailbox).2
          (dequeueEnter 1 state.mailbox).1)
  | .dequeueLoad => some (settle state thread full state.mailbox (dequeueLoad state.mailbox))
  | .dequeueExchange seen =>
      match dequeueExchange 1 (fun _ => 0) fuel state.mailbox seen with
      | none => none
      | some (moved, fetch, mailbox) =>
          some { settle state thread full mailbox fetch with
            onStack := if moved = [] then state.onStack else 0 }
  | .isBlocked =>
      if isBlocked state.mailbox then some (leave state thread full)
      else some (move state thread (.inside
        (if tryBlockEnter state.mailbox then .loop else .blockLoad) full))
  | .blockLoad =>
      some (move state thread (.inside
        (if tryBlockLoad state.mailbox then .blockExchange else .loop) full))
  | .blockExchange =>
      match tryBlockExchange state.mailbox with
      | none => some (move state thread (.inside .blockLoad full))
      | some mailbox => some (leave { state with mailbox := mailbox } thread full)
  | .write =>
      match state.wrBuf with
      | none => none
      | some buffer =>
          if result.allowed (buffer.data.length - state.written) then
            some (wrote state thread full buffer result)
          else none
  | .unlock => some { move state thread .outside with lock := false }
  | .fault => none

/-- A step of a thread. A call that does not obtain the lock returns true, which
`async_write` answers with another call. -/
def threadStep (fuel : Nat) (result : WriteResult) (state : State Item Thread)
    (thread : Thread) : Position Item → Option (State Item Thread)
  | .outside => none
  | .load item =>
      match enqueueLoad state.mailbox item with
      | none => some { move state thread .outside with
          allocated := state.allocated.filter (fun other => other ≠ item) }
      | some (seen, mailbox) =>
          some { move state thread (.exchange item seen) with mailbox := mailbox }
  | .exchange item seen =>
      match enqueueExchange state.mailbox item seen with
      | none => some (move state thread (.load item))
      | some (status, mailbox) =>
          some { move state thread
              (if status = .unblocked then .lock .asyncWrite else .outside) with
            mailbox := mailbox
            published := state.published ++ [state.buffers item]
            onStack := state.onStack + 1 }
  | .lock caller =>
      if state.lock then
        some (move state thread (if caller = .asyncWrite then .lock .asyncWrite else .outside))
      else some { move state thread (.inside .loop true) with lock := true }
  | .inside place full => insideStep fuel result state thread full place

/-- One step of the system. -/
def step (state : State Item Thread) : Action Item Thread → Option (State Item Thread)
  | .asyncWrite thread item buffer =>
      if state.threads thread = .outside ∧ item ∉ state.allocated then
        some { move state thread (.load item) with
          buffers := Function.update state.buffers item buffer
          allocated := item :: state.allocated }
      else none
  | .event thread =>
      if state.threads thread = .outside then some (move state thread (.lock .event)) else none
  | .proceed thread fuel result => threadStep fuel result state thread (state.threads thread)

/-- The write path at a state: the socket holds a beginning of the published chains,
in the order of their publication, and a call that returned with the lock after
full writes only left nothing behind. -/
structure Drains (state : State Item Thread) : Prop where
  ordered : state.socket <+: stream state.published
  drained : ∀ left ∈ state.returns, left.full = true →
    left.wrBuf = none ∧ left.stack = .blocked ∧ left.sent = true

/-- The condition on a step: no buffer of a new chain is empty, and an exchange of
`dequeue` finds fewer than 2^32 chains on the shared stack. -/
def proper (state : State Item Thread) : Action Item Thread → Bool
  | .asyncWrite _ _ buffer => buffer.solid
  | .event _ => true
  | .proceed thread _ _ =>
      match state.threads thread with
      | .inside (.dequeueExchange _) _ => decide (state.onStack < 2 ^ 32)
      | _ => true

end Mola.StreamHandler
