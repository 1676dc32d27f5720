import Mathlib.Data.List.Induction

/-!
# Buffered readers of a stream

A reader fills one buffer after the other from a stream that arrives in chunks. Each read takes at
most the room that the buffer has left. A full buffer is handed over, and the next one is asked
for. What the buffers mean, and how large the next one is, is up to the state behind the reader.

As long as every buffer has room, the way in which the stream is cut into chunks does not matter: it
can be read byte by byte. Nothing here mentions a particular state, and a byte can be of any type.
-/

namespace Mola.Streams

universe u v
variable {State : Type u} {Byte : Type v}

/-- A state with a read buffer: the size of the buffer and the bytes in it, how bytes are put there,
what a full buffer leads to, and what a read of nothing leads to. -/
structure Reader (State : Type u) (Byte : Type v) where
  size : State → Nat
  collected : State → List Byte
  keep : State → List Byte → State
  full : State → State
  fail : State → State

/-- The laws of a reader for the states that can read. The bytes in the buffer are those that were
put there last, the buffer of a state that can read has room, and reading leads to such states. -/
structure Reader.Lawful (reader : Reader State Byte) (Ready : State → Prop) : Prop where
  collected_keep : ∀ state bytes, reader.collected (reader.keep state bytes) = bytes
  size_keep : ∀ state bytes, reader.size (reader.keep state bytes) = reader.size state
  keep_keep : ∀ state first second,
    reader.keep (reader.keep state first) second = reader.keep state second
  room : ∀ state, Ready state → (reader.collected state).length < reader.size state
  keep_ready : ∀ state bytes, Ready state → bytes.length < reader.size state →
    Ready (reader.keep state bytes)
  full_ready : ∀ state bytes, Ready state → bytes.length = reader.size state →
    Ready (reader.full (reader.keep state bytes))

section

variable (reader : Reader State Byte)

/-- One read that returned these bytes. -/
def handleRead (state : State) (bytes : List Byte) : State :=
  if bytes = [] then reader.fail state
  else if (reader.collected state ++ bytes).length = reader.size state then
    reader.full (reader.keep state (reader.collected state ++ bytes))
  else reader.keep state (reader.collected state ++ bytes)

/-- Reads until a chunk that arrived is used up. The fuel is the number of bytes. -/
def drain : Nat → State → List Byte → State
  | 0, state, _ => state
  | fuel + 1, state, available =>
      if available = [] then state
      else
        let room := reader.size state - (reader.collected state).length
        drain fuel (handleRead reader state (available.take room)) (available.drop room)

/-- The chunks of a stream, one after the other. An empty one is a read of nothing. -/
def receive (state : State) (chunks : List (List Byte)) : State :=
  chunks.foldl (fun state chunk =>
    if chunk = [] then handleRead reader state [] else drain reader chunk.length state chunk) state

/-- Reads of one byte each. -/
def feed (state : State) (bytes : List Byte) : State :=
  bytes.foldl (fun state byte => handleRead reader state [byte]) state

theorem feed_append (state : State) (first second : List Byte) :
    feed reader state (first ++ second) = feed reader (feed reader state first) second :=
  List.foldl_append

variable {reader}

theorem handleRead_keep {state : State} {bytes : List Byte} (some_ : bytes ≠ [])
    (unfilled : (reader.collected state).length + bytes.length < reader.size state) :
    handleRead reader state bytes = reader.keep state (reader.collected state ++ bytes) := by
  unfold handleRead
  rw [if_neg some_, if_neg]
  rw [List.length_append]
  omega

theorem handleRead_full {state : State} {bytes : List Byte} (some_ : bytes ≠ [])
    (filled : (reader.collected state).length + bytes.length = reader.size state) :
    handleRead reader state bytes =
      reader.full (reader.keep state (reader.collected state ++ bytes)) := by
  unfold handleRead
  rw [if_neg some_, if_pos]
  rw [List.length_append, filled]

variable {Ready : State → Prop} (lawful : reader.Lawful Ready)
include lawful

/-- A read that does not overrun its buffer leaves a state that can read. -/
theorem handleRead_ready (state : State) (bytes : List Byte) (some_ : bytes ≠ [])
    (ready : Ready state)
    (fits : (reader.collected state).length + bytes.length ≤ reader.size state) :
    Ready (handleRead reader state bytes) := by
  rcases Nat.lt_or_eq_of_le fits with unfilled | filled
  · rw [handleRead_keep some_ unfilled]
    exact lawful.keep_ready state _ ready (by rwa [List.length_append])
  · rw [handleRead_full some_ filled]
    exact lawful.full_ready state _ ready (by rwa [List.length_append])

/-- Two reads that share a buffer are one. The first does not fill it. -/
theorem handleRead_append (state : State) (first second : List Byte) (some_ : first ≠ [])
    (more : second ≠ [])
    (fits : (reader.collected state).length + (first ++ second).length ≤ reader.size state) :
    handleRead reader (handleRead reader state first) second =
      handleRead reader state (first ++ second) := by
  have secondPositive : 0 < second.length := List.length_pos_iff.mpr more
  have joined : first ++ second ≠ [] := by simp [some_]
  have unfilled : (reader.collected state).length + first.length < reader.size state := by
    rw [List.length_append] at fits
    omega
  rw [handleRead_keep some_ unfilled]
  unfold handleRead
  rw [lawful.collected_keep, lawful.size_keep, lawful.keep_keep, if_neg more, if_neg joined,
    List.append_assoc]

/-- Bytes that fit the buffer may be read one by one. The induction is on the bytes from their
end, since it is the last one that can fill the buffer. -/
theorem feed_handleRead (state : State) (bytes : List Byte) (some_ : bytes ≠ [])
    (fits : (reader.collected state).length + bytes.length ≤ reader.size state) :
    feed reader state bytes = handleRead reader state bytes := by
  induction bytes using List.reverseRecOn with
  | nil => exact absurd rfl some_
  | append_singleton front last inductionHypothesis =>
    have split_ : feed reader state (front ++ [last]) =
        handleRead reader (feed reader state front) [last] := feed_append reader state front [last]
    rw [split_]
    by_cases vacant : front = []
    · rw [vacant]
      rfl
    · have shorter : (reader.collected state).length + front.length ≤ reader.size state := by
        rw [List.length_append] at fits
        omega
      rw [inductionHypothesis vacant shorter]
      exact handleRead_append lawful state front [last] vacant (List.cons_ne_nil _ _) fits

theorem feed_ready (state : State) (bytes : List Byte) (ready : Ready state) :
    Ready (feed reader state bytes) := by
  induction bytes generalizing state with
  | nil => exact ready
  | cons byte _ inductionHypothesis =>
    refine inductionHypothesis _ (handleRead_ready lawful state [byte] ?_ ready ?_)
    · exact List.cons_ne_nil byte []
    · exact lawful.room state ready

/-- The reads of one chunk are the reads of its bytes. The induction is on the fuel; each read
takes at least one byte, since the buffer has room. -/
theorem drain_feed (fuel : Nat) (state : State) (available : List Byte) (ready : Ready state)
    (enough : available.length ≤ fuel) :
    drain reader fuel state available = feed reader state available := by
  induction fuel generalizing state available with
  | zero =>
    have vacant : available = [] := List.length_eq_zero_iff.mp (Nat.le_zero.mp enough)
    rw [vacant]
    rfl
  | succ fuel inductionHypothesis =>
    rw [drain]
    by_cases vacant : available = []
    · rw [if_pos vacant, vacant]
      rfl
    · rw [if_neg vacant]
      have room := lawful.room state ready
      dsimp only
      generalize size : reader.size state - (reader.collected state).length = left
      have positive : 0 < left := by omega
      have taken : available.take left ≠ [] := by
        rw [Ne, List.take_eq_nil_iff]
        exact not_or.mpr ⟨Nat.ne_of_gt positive, vacant⟩
      have fits : (reader.collected state).length + (available.take left).length ≤
          reader.size state := by
        rw [List.length_take]
        omega
      have shorter : (available.drop left).length ≤ fuel := by
        rw [List.length_drop]
        omega
      rw [inductionHypothesis _ _ (handleRead_ready lawful state _ taken ready fits) shorter,
        ← feed_handleRead lawful state _ taken fits, ← feed_append, List.take_append_drop]

/-- The way a stream is cut into chunks does not matter. -/
theorem receive_feed (state : State) (chunks : List (List Byte)) (ready : Ready state)
    (nonempty : ∀ chunk ∈ chunks, chunk ≠ []) :
    receive reader state chunks = feed reader state chunks.flatten := by
  induction chunks generalizing state with
  | nil => rfl
  | cons chunk rest inductionHypothesis =>
    have one : receive reader state (chunk :: rest) =
        receive reader (feed reader state chunk) rest := by
      simp only [receive, List.foldl_cons, if_neg (nonempty chunk List.mem_cons_self)]
      rw [drain_feed lawful chunk.length state chunk ready (Nat.le_refl _)]
    rw [one, List.flatten_cons, feed_append]
    exact inductionHypothesis _ (feed_ready lawful state chunk ready)
      fun other member => nonempty other (List.mem_cons_of_mem _ member)

/-- An empty buffer that is filled exactly is handed over, however its bytes came. -/
theorem feed_buffer (state : State) (bytes : List Byte) (vacant : reader.collected state = [])
    (some_ : bytes ≠ []) (exact_ : bytes.length = reader.size state) :
    feed reader state bytes = reader.full (reader.keep state bytes) := by
  have filled : (reader.collected state).length + bytes.length = reader.size state := by
    rw [vacant, List.length_nil, Nat.zero_add, exact_]
  rw [feed_handleRead lawful state bytes some_ (Nat.le_of_eq filled),
    handleRead_full some_ filled, vacant, List.nil_append]

theorem feed_part (state : State) (bytes : List Byte) (vacant : reader.collected state = [])
    (some_ : bytes ≠ []) (short : bytes.length < reader.size state) :
    feed reader state bytes = reader.keep state bytes := by
  have unfilled : (reader.collected state).length + bytes.length < reader.size state := by
    rwa [vacant, List.length_nil, Nat.zero_add]
  rw [feed_handleRead lawful state bytes some_ (Nat.le_of_lt unfilled),
    handleRead_keep some_ unfilled, vacant, List.nil_append]

end

end Mola.Streams
