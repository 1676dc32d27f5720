import Mola.ByteOrder
import Mola.Streams

/-!
# Packages of a header and a body

A client socket of the framework speaks a protocol of two functions: how long a header is, and how
long the body is that a header announces. The receiver alternates between the two. One length field
serves as the size that the full buffer is checked against and as the size of the next one. A
header that announces nothing is followed by the next header. A full body is handed to the
scheduler as a task, which wraps it into a raw package later.

The read side of the stream handler is an instance of the buffered readers. Sizes are words of 64
bits; the size of an allocation is recorded with its wrapping addition of one. Allocations are taken
to succeed. The header that a protocol is shown is the bytes of its buffer, and what the protocol
returns depends on nothing else.
-/

namespace Mola.HeadBody

open ByteOrder Streams

/-- The reading half of a `mola_proto`. -/
structure Proto where
  headerSize : UInt64
  bodySize : List UInt8 → UInt64

/-- The states of the receiver. -/
inductive State where
  | getLen
  | getBuf
  deriving DecidableEq, Repr

/-- A task for the scheduler: `deliver_message` with a size and a buffer. -/
structure Task where
  size : UInt64
  buffer : List UInt8
  deriving DecidableEq, Repr

/-- The receiver with the read buffer of its stream handler: `m_state`, `m_len`, the size of the
buffer, the size of the memory behind it, and the bytes in it. The tasks were handed to the
scheduler. A failed assertion or a failed read is recorded. -/
structure Receiver where
  state : State
  len : UInt64
  rdSize : UInt64
  allocated : UInt64
  collected : List UInt8
  disabled : Bool
  tasks : List Task
  failed : Bool
  deriving DecidableEq, Repr

/-- `BuiltinReceiver::consume` of the full read buffer. -/
def consume (proto : Proto) (receiver : Receiver) : Receiver :=
  if receiver.len ≠ receiver.rdSize then { receiver with failed := true }
  else
    match receiver.state with
    | .getLen =>
        let len := proto.bodySize receiver.collected
        { receiver with len := len, state := if 0 < len then .getBuf else .getLen }
    | .getBuf =>
        let task : Task := ⟨receiver.rdSize, receiver.collected⟩
        { receiver with
          tasks := if receiver.disabled then receiver.tasks else receiver.tasks ++ [task]
          state := .getLen }

/-- The buffer of a size. The size has to be positive, and one byte more is allocated. -/
def newBuffer (receiver : Receiver) (len : UInt64) : Receiver :=
  if len = 0 then { receiver with failed := true }
  else { receiver with len := len, rdSize := len, allocated := len + 1, collected := [] }

/-- `BuiltinReceiver::get_buffer`. -/
def getBuffer (proto : Proto) (receiver : Receiver) : Receiver :=
  match receiver.state with
  | .getLen => newBuffer receiver proto.headerSize
  | .getBuf => newBuffer receiver receiver.len

/-- The READ branch of `StreamHandler::handle_event` with this receiver. -/
def reader (proto : Proto) : Reader Receiver UInt8 where
  size receiver := receiver.rdSize.toNat
  collected receiver := receiver.collected
  keep receiver bytes := { receiver with collected := bytes }
  full receiver := getBuffer proto (consume proto receiver)
  fail receiver := { receiver with failed := true }

/-- A new receiver with its first buffer. The length field is not initialised. -/
def start (proto : Proto) (len : UInt64) : Receiver :=
  getBuffer proto
    { state := .getLen
      len := len
      rdSize := 0
      allocated := 0
      collected := []
      disabled := false
      tasks := []
      failed := false }

/-- A package of a protocol: a header, and the body that it announces. -/
structure Package (proto : Proto) where
  header : List UInt8
  body : List UInt8
  sized : header.length = proto.headerSize.toNat
  announced : (proto.bodySize header).toNat = body.length

/-- `_mola_default_proto`: the header is a `size_t` in the byte order of the host. -/
def defaultProto (order : Order) : Proto where
  headerSize := 8
  bodySize header := UInt64.ofNat (load order header)

/-- `_simple_make_buffer`: the size and the bytes. A size that wraps when the header is added has no
defined outcome. -/
def simpleMakeBuffer (order : Order) (body : List UInt8) : Option (List UInt8) :=
  if 8 + body.length < 2 ^ 64 then some (store order 8 body.length ++ body) else none

/-- `SendToSocket` with the default protocol: the bytes that are written for a size, which is an
`int`, and a buffer. A size beyond the buffer has no defined outcome. -/
def sendToSocket (order : Order) (size : Int) (buffer : List UInt8) : Option (List UInt8) :=
  let psize := (size % 2 ^ 64).toNat
  if psize ≤ buffer.length then simpleMakeBuffer order (buffer.take psize) else none

variable {proto : Proto}

/-- The bytes of a package. -/
def Package.bytes (package : Package proto) : List UInt8 := package.header ++ package.body

/-- The bytes of packages one after the other. -/
def stream (packages : List (Package proto)) : List UInt8 :=
  (packages.map Package.bytes).flatten

/-- The task for a body. -/
def Task.of (body : List UInt8) : Task := ⟨UInt64.ofNat body.length, body⟩

/-- The tasks that packages should lead to: one for each body that is not empty. -/
def handed (packages : List (Package proto)) : List Task :=
  ((packages.map Package.body).filter (· ≠ [])).map Task.of

/-- The packages that are complete in so many bytes. -/
def complete : List (Package proto) → Nat → List (Package proto)
  | [], _ => []
  | package :: rest, count =>
      if package.bytes.length ≤ count then package :: complete rest (count - package.bytes.length)
      else []

/-- The receiver is at the start of a header. -/
def AtHeader (receiver : Receiver) : Prop := receiver.state = .getLen ∧ receiver.collected = []

/-- A receiver that can read: nothing has failed, the length field is the size of the buffer, and
the buffer has room. -/
structure Ready (receiver : Receiver) : Prop where
  intact : receiver.failed = false
  synchronised : receiver.len = receiver.rdSize
  room : receiver.collected.length < receiver.rdSize.toNat

/-- The receiver at the start of a header. -/
def waiting (proto : Proto) (tasks : List Task) : Receiver where
  state := .getLen
  len := proto.headerSize
  rdSize := proto.headerSize
  allocated := proto.headerSize + 1
  collected := []
  disabled := false
  tasks := tasks
  failed := false

/-- The receiver at the start of a body. -/
def reading (tasks : List Task) (len : UInt64) : Receiver where
  state := .getBuf
  len := len
  rdSize := len
  allocated := len + 1
  collected := []
  disabled := false
  tasks := tasks
  failed := false

theorem ne_zero_of_pos {len : UInt64} (positive : 0 < len) : len ≠ 0 := by
  rintro rfl
  exact absurd positive (by decide)

theorem newBuffer_ready {receiver : Receiver} {len : UInt64} (positive : 0 < len)
    (intact : receiver.failed = false) : Ready (newBuffer receiver len) := by
  unfold newBuffer
  rw [if_neg (ne_zero_of_pos positive)]
  exact ⟨intact, rfl, UInt64.lt_iff_toNat_lt.mp positive⟩

section

variable (positive : 0 < proto.headerSize)
include positive

/-- The receiver is a lawful reader where headers are not empty: a body is waited for only if it is
not empty. -/
theorem reader_lawful : (reader proto).Lawful Ready where
  collected_keep _ _ := rfl
  size_keep _ _ := rfl
  keep_keep _ _ _ := rfl
  room _ ready := ready.room
  keep_ready _ _ ready short := ⟨ready.intact, ready.synchronised, short⟩
  full_ready := by
    intro receiver bytes ready _
    have synchronised : ¬receiver.len ≠ receiver.rdSize := fun apart => apart ready.synchronised
    simp only [reader, consume, synchronised, if_false, getBuffer]
    cases state : receiver.state with
    | getLen =>
      by_cases announces : 0 < proto.bodySize bytes
      · simp only [if_pos announces]
        exact newBuffer_ready announces ready.intact
      · simp only [if_neg announces]
        exact newBuffer_ready positive ready.intact
    | getBuf => exact newBuffer_ready positive ready.intact

/-- A new receiver waits for its first header, whatever the length field was. -/
theorem start_eq (len : UInt64) : start proto len = waiting proto [] := by
  simp only [start, getBuffer, newBuffer, if_neg (ne_zero_of_pos positive)]
  rfl

variable (tasks : List Task) (package : Package proto)

theorem waiting_ready : Ready (waiting proto tasks) :=
  ⟨rfl, rfl, UInt64.lt_iff_toNat_lt.mp positive⟩

theorem header_ne_nil (header : List UInt8) (sized : header.length = proto.headerSize.toNat) :
    header ≠ [] := by
  rintro rfl
  exact absurd (UInt64.lt_iff_toNat_lt.mp positive) (by rw [← sized]; exact Nat.lt_irrefl 0)

/-- A header leads to the start of the body that it announces, or to the next header. -/
theorem feed_header (header : List UInt8) (sized : header.length = proto.headerSize.toNat) :
    feed (reader proto) (waiting proto tasks) header =
      if 0 < proto.bodySize header then reading tasks (proto.bodySize header)
      else waiting proto tasks := by
  rw [feed_buffer (reader_lawful positive) (waiting proto tasks) header rfl
    (header_ne_nil positive header sized) sized]
  simp only [reader, waiting, consume, ne_eq, not_true_eq_false, if_false, getBuffer]
  by_cases announces : 0 < proto.bodySize header
  · simp only [if_pos announces, newBuffer, if_neg (ne_zero_of_pos announces)]
    rfl
  · simp only [if_neg announces, newBuffer, if_neg (ne_zero_of_pos positive)]

/-- A full body is handed over with its size, and the next header is waited for. -/
theorem feed_body (len : UInt64) (body : List UInt8) (some_ : body ≠ [])
    (sized : body.length = len.toNat) :
    feed (reader proto) (reading tasks len) body = waiting proto (tasks ++ [⟨len, body⟩]) := by
  rw [feed_buffer (reader_lawful positive) (reading tasks len) body rfl some_ sized]
  simp only [reader, reading, consume, ne_eq, not_true_eq_false, if_false, getBuffer, newBuffer,
    if_neg (ne_zero_of_pos positive)]
  rfl

/-- The bytes of one package are turned into its task. -/
theorem feed_package :
    feed (reader proto) (waiting proto tasks) package.bytes =
      waiting proto (tasks ++ handed [package]) := by
  have announced := package.announced
  rw [Package.bytes, feed_append, feed_header positive tasks package.header package.sized]
  cases body : package.body with
  | nil =>
    rw [body, List.length_nil] at announced
    have nothing : ¬0 < proto.bodySize package.header := by
      rw [UInt64.lt_iff_toNat_lt, announced]
      exact Nat.lt_irrefl 0
    rw [if_neg nothing]
    simp [feed, handed, body]
  | cons first others =>
    rw [body] at announced
    have something : 0 < proto.bodySize package.header := by
      rw [UInt64.lt_iff_toNat_lt, announced]
      exact Nat.succ_pos _
    have size : proto.bodySize package.header = UInt64.ofNat (first :: others).length := by
      rw [← announced, UInt64.ofNat_toNat]
    rw [if_pos something, feed_body positive tasks _ _ (List.cons_ne_nil _ _) announced.symm, size]
    simp [handed, body, Task.of]

/-- A part of a package hands over nothing and leaves the receiver inside the package: in its
header, or in its body. -/
theorem feed_inside (part : List UInt8) (some_ : part ≠ []) (begins : part <+: package.bytes)
    (short : part.length < package.bytes.length) :
    (feed (reader proto) (waiting proto tasks) part).tasks = tasks ∧
      ¬AtHeader (feed (reader proto) (waiting proto tasks) part) := by
  have lawful := reader_lawful positive
  rcases Nat.lt_or_ge part.length package.header.length with inHeader | beyond
  · have unfilled : part.length < proto.headerSize.toNat := package.sized ▸ inHeader
    rw [feed_part lawful (waiting proto tasks) part rfl some_ unfilled]
    exact ⟨rfl, fun atHeader => some_ atHeader.2⟩
  · -- The header is complete and announces a body, of which a part may be there.
    obtain ⟨rest, rfl⟩ := List.prefix_of_prefix_length_le (List.prefix_append _ _) begins beyond
    have bodyPart : rest.length < package.body.length := by
      rw [Package.bytes, List.length_append, List.length_append] at short
      omega
    have announces : 0 < proto.bodySize package.header := by
      rw [UInt64.lt_iff_toNat_lt, package.announced]
      exact Nat.lt_of_le_of_lt (Nat.zero_le _) bodyPart
    rw [feed_append, feed_header positive tasks package.header package.sized, if_pos announces]
    by_cases vacant : rest = []
    · rw [vacant]
      exact ⟨rfl, fun atHeader => absurd atHeader.1 (by simp [feed, reading])⟩
    · have unfilled : rest.length < (proto.bodySize package.header).toNat :=
        package.announced ▸ bodyPart
      rw [feed_part lawful (reading tasks _) rest rfl vacant unfilled]
      exact ⟨rfl, fun atHeader => vacant atHeader.2⟩

theorem Package.bytes_pos : 0 < package.bytes.length := by
  have some_ := UInt64.lt_iff_toNat_lt.mp positive
  rw [Package.bytes, List.length_append, package.sized]
  exact Nat.add_pos_left some_ _

end

theorem handed_cons (package : Package proto) (rest : List (Package proto)) :
    handed (package :: rest) = handed [package] ++ handed rest := by
  simp only [handed, List.map_cons, List.map_nil, List.filter_cons, List.filter_nil]
  split <;> simp

theorem stream_cons (package : Package proto) (rest : List (Package proto)) :
    stream (package :: rest) = package.bytes ++ stream rest := by
  simp [stream]

theorem complete_stream (packages : List (Package proto)) :
    complete packages (stream packages).length = packages := by
  induction packages with
  | nil => rfl
  | cons _ _ inductionHypothesis =>
    rw [stream_cons, List.length_append, complete, if_pos (Nat.le_add_right _ _),
      Nat.add_sub_cancel_left, inductionHypothesis]

section

variable (positive : 0 < proto.headerSize)
include positive

/-- What is read of a package list is a whole number of packages exactly if what is read after the
first one is. -/
theorem whole_cons (package : Package proto) (packages : List (Package proto)) (rest : List UInt8) :
    (∃ count, package.bytes ++ rest = stream ((package :: packages).take count)) ↔
      ∃ count, rest = stream (packages.take count) := by
  constructor
  · rintro ⟨count, same⟩
    cases count with
    | zero =>
      have lengths := congrArg List.length same
      have some_ := package.bytes_pos positive
      rw [List.length_append] at lengths
      simp only [List.take_zero, stream, List.map_nil, List.flatten_nil, List.length_nil] at lengths
      omega
    | succ count =>
      rw [List.take_succ_cons, stream_cons] at same
      exact ⟨count, List.append_cancel_left same⟩
  · rintro ⟨count, rfl⟩
    exact ⟨count + 1, by rw [List.take_succ_cons, stream_cons]⟩

/-- After any part of the stream, the packages that are complete have been handed over, and the
receiver is at the start of a header exactly if nothing else was read. The induction is on the
packages; the part ends inside the first one or goes on behind it. -/
theorem feed_prefix (packages : List (Package proto)) (tasks : List Task) (seen : List UInt8)
    (begins : seen <+: stream packages) :
    (feed (reader proto) (waiting proto tasks) seen).tasks =
        tasks ++ handed (complete packages seen.length) ∧
      (AtHeader (feed (reader proto) (waiting proto tasks) seen) ↔
        ∃ count, seen = stream (packages.take count)) := by
  induction packages generalizing tasks seen with
  | nil =>
    have vacant : seen = [] := List.prefix_nil.mp begins
    subst vacant
    exact ⟨by simp [feed, waiting, complete, handed], fun _ => ⟨0, rfl⟩, fun _ => ⟨rfl, rfl⟩⟩
  | cons package packages inductionHypothesis =>
    rw [stream_cons] at begins
    rcases Nat.lt_or_ge seen.length package.bytes.length with short | beyond
    · have inPackage : seen <+: package.bytes :=
        List.prefix_of_prefix_length_le begins (List.prefix_append _ _) (Nat.le_of_lt short)
      have none_ : complete (package :: packages) seen.length = [] :=
        if_neg (Nat.not_le.mpr short)
      rw [none_]
      by_cases vacant : seen = []
      · subst vacant
        exact ⟨by simp [feed, waiting, handed], fun _ => ⟨0, rfl⟩, fun _ => ⟨rfl, rfl⟩⟩
      · obtain ⟨unchanged, inside⟩ := feed_inside positive tasks package seen vacant inPackage short
        refine ⟨by rw [unchanged]; simp [handed], fun atHeader => absurd atHeader inside, ?_⟩
        rintro ⟨count, same⟩
        cases count with
        | zero => exact absurd same vacant
        | succ =>
          rw [List.take_succ_cons, stream_cons] at same
          rw [same, List.length_append] at short
          omega
    · obtain ⟨rest, rfl⟩ := List.prefix_of_prefix_length_le (List.prefix_append _ _) begins beyond
      have later : rest <+: stream packages := (List.prefix_append_right_inj _).mp begins
      obtain ⟨restTasks, restHeader⟩ :=
        inductionHypothesis (tasks ++ handed [package]) rest later
      have more : complete (package :: packages) (package.bytes ++ rest).length =
          package :: complete packages rest.length := by
        rw [complete, if_pos beyond, List.length_append, Nat.add_sub_cancel_left]
      rw [feed_append, feed_package positive tasks package, more, whole_cons positive,
        handed_cons package (complete packages rest.length), ← List.append_assoc]
      exact ⟨restTasks, restHeader⟩

/-- The way in which a part of the stream is cut into chunks does not matter. -/
theorem receive_prefix (len : UInt64) (packages : List (Package proto))
    (chunks : List (List UInt8)) (nonempty : ∀ chunk ∈ chunks, chunk ≠ [])
    (begins : chunks.flatten <+: stream packages) :
    (receive (reader proto) (start proto len) chunks).failed = false ∧
      (receive (reader proto) (start proto len) chunks).tasks =
        handed (complete packages chunks.flatten.length) ∧
      (AtHeader (receive (reader proto) (start proto len) chunks) ↔
        ∃ count, chunks.flatten = stream (packages.take count)) := by
  have lawful := reader_lawful positive
  have ready := waiting_ready positive []
  rw [start_eq positive, receive_feed lawful _ chunks ready nonempty]
  obtain ⟨tasks, header⟩ := feed_prefix positive packages [] chunks.flatten begins
  exact ⟨(feed_ready lawful _ chunks.flatten ready).intact, tasks, header⟩

end

/-- A payload that the default protocol can send, as a package. -/
def Package.ofPayload (order : Order) (payload : List UInt8) (fits : 8 + payload.length < 2 ^ 64) :
    Package (defaultProto order) where
  header := store order 8 payload.length
  body := payload
  sized := store_length order 8 payload.length
  announced := by
    have small : payload.length < 2 ^ 64 := Nat.lt_of_le_of_lt (Nat.le_add_left _ 8) fits
    change (UInt64.ofNat (load order (store order 8 payload.length))).toNat = payload.length
    rw [load_store order small, UInt64.toNat_ofNat_of_lt' small]

/-- What the default protocol produces for payloads is a stream of packages with these bodies. -/
theorem makeBuffers_packages (order : Order) (payloads buffers : List (List UInt8))
    (produced : payloads.mapM (simpleMakeBuffer order) = some buffers) :
    ∃ packages : List (Package (defaultProto order)),
      packages.map Package.body = payloads ∧ stream packages = buffers.flatten := by
  induction payloads generalizing buffers with
  | nil =>
    cases produced
    exact ⟨[], rfl, rfl⟩
  | cons payload _ inductionHypothesis =>
    rw [List.mapM_cons] at produced
    obtain ⟨buffer, made, produced⟩ := Option.bind_eq_some_iff.mp produced
    obtain ⟨others, madeOthers, joined⟩ := Option.bind_eq_some_iff.mp produced
    cases joined
    obtain ⟨packages, bodies, bytes⟩ := inductionHypothesis others madeOthers
    unfold simpleMakeBuffer at made
    split at made
    case isTrue fits =>
      cases made
      refine ⟨Package.ofPayload order payload fits :: packages, ?_, ?_⟩
      · rw [List.map_cons, bodies]
        rfl
      · rw [stream_cons, bytes, List.flatten_cons]
        rfl
    case isFalse => cases made

/-- A payload that an `int` can measure is sent as the default protocol makes it. -/
theorem sendToSocket_eq (order : Order) (payload : List UInt8) (short : payload.length < 2 ^ 31) :
    sendToSocket order payload.length payload = simpleMakeBuffer order payload := by
  have size : ((payload.length : Int) % 2 ^ 64).toNat = payload.length := by omega
  simp only [sendToSocket, size, Nat.le_refl, if_true, List.take_length]

end Mola.HeadBody
