import Mola.Messages
import Mathlib.Data.List.Induction

/-!
# Messages between nodes

A node that opens a connection sends its id, then every message as its metadata
block followed by its body. The stream handler of the peer reads whatever bytes
are there into the buffer that the receiver asked for, and hands the buffer over
when it is full. The receiver is a machine of four states: each full buffer is an
id, a block or a body, and decides the size of the next one. A block without a
body is delivered at once.

Reading is modelled by the results of `read`: every chunk that arrives is taken in
pieces of at most the room left in the buffer. The round trip holds for every way
of cutting the stream into chunks. The writing side below `async_write`, the node
registry and what the dispatcher does with a received message are not modelled.
-/

namespace Mola.Gateway

open ByteOrder Metadata

/-- The states of the receiver. -/
inductive State where
  | handshake
  | waitHandshake
  | getHead
  | getBody
deriving DecidableEq

/-- A message as it was received. -/
structure Received where
  metadata : Metadata
  body : List UInt8
deriving DecidableEq

/-- The receiver, the read buffer of its stream handler, and the messages that were
delivered. A failed assertion or a failed read is recorded. -/
structure Receiver where
  order : Order
  localId : UInt32
  state : State
  nid : UInt32
  raw : Metadata
  rdSize : Nat
  collected : List UInt8
  delivered : List Received
  failed : Bool

/-- The metadata of a newly allocated message. -/
def blank : Metadata := ⟨0, typeStream, 0, ⟨0, 0, 0, 0⟩, ⟨0, 0, 0, 0⟩, 0⟩

/-- Words of the network are big endian. -/
def htonl : Order → UInt32 → UInt32
  | .little, word => swap32 word
  | .big, word => word

/-- The node of an id is this one or the local wildcard. -/
def isLocal (localId : UInt32) (id : ActorID) : Bool := id.dnodeId = 0 || id.dnodeId = localId

/-- Hand the pending message to the dispatcher. A message for another node is
fatal. -/
def deliverMessage (receiver : Receiver) (body : List UInt8) : Receiver :=
  if isLocal receiver.localId receiver.raw.target then
    { receiver with delivered := receiver.delivered ++ [⟨receiver.raw, body⟩] }
  else { receiver with failed := true }

/-- A full block: remember it and wait for its body, or deliver it at once. -/
def consumeHead (receiver : Receiver) (buffer : List UInt8) : Receiver :=
  if buffer.length = Metadata.bytes then
    let block := { ofImage receiver.order buffer with dataType := typeStream }
    if 0 < block.size then { receiver with raw := block, state := .getBody }
    else deliverMessage { receiver with raw := block, state := .getHead } []
  else { receiver with failed := true }

/-- A full buffer, by state. -/
def consume (receiver : Receiver) (buffer : List UInt8) : Receiver :=
  match receiver.state with
  | .waitHandshake =>
      { receiver with
        nid := htonl receiver.order (load32 receiver.order buffer).1
        state := .getHead }
  | .handshake => consumeHead { receiver with state := .getHead } buffer
  | .getHead => consumeHead receiver buffer
  | .getBody =>
      if receiver.raw.size.toNat = buffer.length then
        deliverMessage { receiver with state := .getHead } buffer
      else { receiver with failed := true }

/-- The buffer that the receiver asks for next. -/
def getBuffer (receiver : Receiver) : Receiver :=
  match receiver.state with
  | .waitHandshake => { receiver with rdSize := 4, collected := [] }
  | .getBody => { receiver with rdSize := receiver.raw.size.toNat, collected := [] }
  | _ => { receiver with state := .getHead, raw := blank, rdSize := Metadata.bytes, collected := [] }

/-- A READ event: `read` returned these bytes. None at all is the end of the
stream. -/
def handleRead (receiver : Receiver) (bytes : List UInt8) : Receiver :=
  if bytes = [] then { receiver with failed := true }
  else
    let filled := { receiver with collected := receiver.collected ++ bytes }
    if filled.collected.length = receiver.rdSize then getBuffer (consume filled filled.collected)
    else filled

/-- READ events until a chunk that arrived is used up. Each one takes at most the
room left in the buffer. The fuel is the number of bytes. -/
def drain : Nat → Receiver → List UInt8 → Receiver
  | 0, receiver, _ => receiver
  | fuel + 1, receiver, available =>
      if available = [] then receiver
      else
        let room := receiver.rdSize - receiver.collected.length
        drain fuel (handleRead receiver (available.take room)) (available.drop room)

/-- The chunks of a stream, one after the other. An empty one is a read of nothing. -/
def receive (receiver : Receiver) (chunks : List (List UInt8)) : Receiver :=
  chunks.foldl (fun receiver chunk =>
    if chunk = [] then handleRead receiver [] else drain chunk.length receiver chunk) receiver

/-- A receiver on a new connection with its first buffer. Only the accepting side
waits for a handshake. -/
def start (order : Order) (localId nid : UInt32) (passive : Bool) : Receiver :=
  getBuffer
    { order := order
      localId := localId
      state := if passive then .waitHandshake else .handshake
      nid := nid
      raw := blank
      rdSize := 0
      collected := []
      delivered := []
      failed := false }

/-- The handshake that `get_client` writes on a new connection. -/
def handshake (host : Order) (localId : UInt32) : List UInt8 := store32 host (htonl host localId)

/-- The ids that `deliver_message` writes into the metadata: the local node as the
sender's, the peer as the target's. -/
def rewritten (localId peerId : UInt32) (message : Message) : Metadata :=
  { message.metadata with
    sender := { message.metadata.sender with dnodeId := localId }
    target := { message.metadata.target with dnodeId := peerId } }

/-- The two linked buffers of one message, as one run of bytes: the metadata in the
memory of the host after conversion, and the body. -/
def deliver (host peer : Order) (localId peerId : UInt32) (message : Message) : List UInt8 :=
  let (buffer, block) := message.serialize host (rewritten localId peerId message) (isBig peer)
  image host block ++ buffer

/-- The message that the peer should receive. -/
def received (localId peerId : UInt32) (message : Message) : Received where
  metadata :=
    { rewritten localId peerId message with
      dataType := typeStream
      size := UInt32.ofNat message.body.length }
  body := message.body

/-- A receiver that can read: its buffer has room, and a body that it waits for is
not empty. -/
structure Ready (receiver : Receiver) : Prop where
  room : receiver.collected.length < receiver.rdSize
  pending : receiver.state = .getBody → 0 < receiver.raw.size.toNat

/-- READ events with one byte each. -/
def feed (receiver : Receiver) (bytes : List UInt8) : Receiver :=
  bytes.foldl (fun receiver byte => handleRead receiver [byte]) receiver

variable (host : Order) (receiver : Receiver) (peer : Order) (peerId nid : UInt32)

theorem deliverMessage_state (body : List UInt8) :
    (deliverMessage receiver body).state = receiver.state ∧
      (deliverMessage receiver body).raw = receiver.raw := by
  unfold deliverMessage
  split <;> exact ⟨rfl, rfl⟩

/-- A full block leaves a receiver that waits for a body only when there is one. -/
theorem consumeHead_pending {receiver : Receiver} (buffer : List UInt8)
    (heading : receiver.state = .getHead) :
    (consumeHead receiver buffer).state = .getBody →
      0 < (consumeHead receiver buffer).raw.size.toNat := by
  unfold consumeHead
  split
  · dsimp only
    split
    · rename_i nonempty
      intro _
      exact nonempty
    · intro impossible
      rw [(deliverMessage_state _ _).1] at impossible
      exact absurd impossible (by simp)
  · intro impossible
    exact absurd (heading.symm.trans impossible) (by simp)

/-- The next buffer has room. -/
theorem getBuffer_ready {receiver : Receiver}
    (pending : receiver.state = .getBody → 0 < receiver.raw.size.toNat) :
    Ready (getBuffer receiver) := by
  unfold getBuffer
  cases state : receiver.state with
  | waitHandshake => exact ⟨by simp, by simp⟩
  | getBody => exact ⟨by simpa using pending state, fun _ => pending state⟩
  | handshake | getHead => exact ⟨by simp [Metadata.bytes], by simp⟩

/-- A READ event that does not overrun its buffer leaves a receiver that can read. -/
theorem handleRead_ready (bytes : List UInt8) (ready : Ready receiver)
    (fits : receiver.collected.length + bytes.length ≤ receiver.rdSize) :
    Ready (handleRead receiver bytes) := by
  unfold handleRead
  split
  · exact ⟨ready.room, ready.pending⟩
  · dsimp only
    split
    · apply getBuffer_ready
      unfold consume
      cases state : receiver.state with
      | waitHandshake => simp
      | handshake | getHead => exact consumeHead_pending _ rfl
      | getBody =>
        dsimp only
        split
        · rw [(deliverMessage_state _ _).1]
          simp
        · exact fun _ => ready.pending state
    · rename_i unfilled
      refine ⟨?_, ready.pending⟩
      dsimp only at unfilled ⊢
      rw [List.length_append] at unfilled ⊢
      omega

/-- Two READ events that share a buffer are one. The first does not fill it. -/
theorem handleRead_append (first second : List UInt8) (some_ : first ≠ []) (more : second ≠ [])
    (fits : receiver.collected.length + (first ++ second).length ≤ receiver.rdSize) :
    handleRead (handleRead receiver first) second = handleRead receiver (first ++ second) := by
  have secondPositive : 0 < second.length := List.length_pos_of_ne_nil more
  rw [List.length_append] at fits
  have unfilled : (receiver.collected ++ first).length ≠ receiver.rdSize := by
    rw [List.length_append]
    omega
  have joined : first ++ second ≠ [] := by simp [some_]
  have firstRead : handleRead receiver first =
      { receiver with collected := receiver.collected ++ first } := by
    simp only [handleRead, if_neg some_, if_neg unfilled]
  rw [firstRead]
  simp only [handleRead, if_neg more, if_neg joined, List.append_assoc]

/-- Bytes that fit the buffer may be read one by one. -/
theorem feed_handleRead (bytes : List UInt8) (nonempty : bytes ≠ [])
    (fits : receiver.collected.length + bytes.length ≤ receiver.rdSize) :
    feed receiver bytes = handleRead receiver bytes := by
  induction bytes using List.reverseRecOn with
  | nil => exact absurd rfl nonempty
  | append_singleton front last inductionHypothesis =>
    have split_ : feed receiver (front ++ [last]) = handleRead (feed receiver front) [last] := by
      simp [feed]
    rw [split_]
    by_cases vacant : front = []
    · subst vacant
      rfl
    · rw [inductionHypothesis vacant (by simp only [List.length_append] at fits; omega)]
      exact handleRead_append receiver front [last] vacant (by simp) fits

theorem feed_append (first second : List UInt8) :
    feed receiver (first ++ second) = feed (feed receiver first) second := by
  simp [feed]

theorem feed_ready (bytes : List UInt8) (ready : Ready receiver) :
    Ready (feed receiver bytes) := by
  induction bytes generalizing receiver with
  | nil => exact ready
  | cons byte _ inductionHypothesis =>
    apply inductionHypothesis
    exact handleRead_ready receiver [byte] ready ready.room

/-- The events of one chunk are the events of its bytes. The induction is on the
fuel; each event takes at least one byte, since the buffer has room. -/
theorem drain_feed (fuel : Nat) (receiver : Receiver) (available : List UInt8)
    (ready : Ready receiver) (enough : available.length ≤ fuel) :
    drain fuel receiver available = feed receiver available := by
  induction fuel generalizing receiver available with
  | zero =>
    have vacant : available = [] := List.length_eq_zero_iff.mp (by omega)
    subst vacant
    rfl
  | succ fuel inductionHypothesis =>
    unfold drain
    split
    · rename_i vacant
      subst vacant
      rfl
    · rename_i nonempty
      have room := ready.room
      dsimp only
      generalize size : receiver.rdSize - receiver.collected.length = left
      have positive : 0 < left := by omega
      have taken : available.take left ≠ [] := by
        simp [nonempty]
        omega
      have fits : receiver.collected.length + (available.take left).length ≤ receiver.rdSize := by
        rw [List.length_take]
        omega
      have shorter : (available.drop left).length ≤ fuel := by
        rw [List.length_drop]
        omega
      rw [inductionHypothesis _ _ (handleRead_ready receiver _ ready fits) shorter,
        ← feed_handleRead receiver _ taken fits, ← feed_append, List.take_append_drop]

/-- The way a stream is cut into chunks does not matter. -/
theorem receive_feed (chunks : List (List UInt8)) (ready : Ready receiver)
    (nonempty : ∀ chunk ∈ chunks, chunk ≠ []) :
    receive receiver chunks = feed receiver chunks.flatten := by
  induction chunks generalizing receiver with
  | nil => rfl
  | cons chunk rest inductionHypothesis =>
    have some_ := nonempty chunk List.mem_cons_self
    have one : receive receiver (chunk :: rest) = receive (feed receiver chunk) rest := by
      simp only [receive, List.foldl_cons, if_neg some_]
      rw [drain_feed chunk.length receiver chunk ready le_rfl]
    rw [one, List.flatten_cons, feed_append]
    exact inductionHypothesis _ (feed_ready receiver chunk ready)
      (fun other member => nonempty other (List.mem_cons_of_mem _ member))

theorem feed_buffer (bytes : List UInt8) (vacant : receiver.collected = [])
    (nonempty : bytes ≠ []) (exact_ : bytes.length = receiver.rdSize) :
    feed receiver bytes = getBuffer (consume { receiver with collected := bytes } bytes) := by
  rw [feed_handleRead receiver bytes nonempty (by simp [vacant, exact_])]
  simp only [handleRead, if_neg nonempty, vacant, List.nil_append, exact_, if_true]

/-- A receiver between two messages. -/
def between (order : Order) (localId nid : UInt32) (delivered : List Received) : Receiver where
  order := order
  localId := localId
  state := .getHead
  nid := nid
  raw := blank
  rdSize := Metadata.bytes
  collected := []
  delivered := delivered
  failed := false

/-- A block in the order of the receiver, for a local target, and its body are
delivered as one message. A block of size zero has no body and needs none. -/
theorem feed_message (order : Order) {localId : UInt32} (nid : UInt32) (delivered : List Received)
    {block : Metadata} {body : List UInt8} (toHere : block.target.dnodeId = localId)
    (sized : block.size.toNat = body.length) :
    feed (between order localId nid delivered) (image order block ++ body) =
      between order localId nid
        (delivered ++ [⟨{ block with dataType := typeStream }, body⟩]) := by
  have lengthy := image_length order block
  have nonempty : image order block ≠ [] := by
    intro vacant
    rw [vacant] at lengthy
    exact absurd lengthy (by decide)
  rw [feed_append, feed_buffer _ _ rfl nonempty lengthy]
  cases body with
  | nil =>
    have zero : ¬ 0 < block.size := by
      rw [UInt32.lt_iff_toNat_lt, sized]
      simp
    simp [between, consume, consumeHead, lengthy, ofImage_image, zero, deliverMessage, isLocal,
      toHere, getBuffer, feed]
  | cons =>
    have positive : 0 < block.size := by
      rw [UInt32.lt_iff_toNat_lt, sized]
      simp
    simp only [between, consume, consumeHead, lengthy, if_true, ofImage_image, positive, getBuffer]
    rw [feed_buffer _ _ rfl (by simp) sized.symm]
    simp [consume, sized, deliverMessage, isLocal, toHere, getBuffer]

/-- The bytes of one message, as the sender emits them for this receiver. -/
theorem feed_deliver (localId peerId nid : UInt32) (delivered : List Received) (message : Message) :
    feed (between peer peerId nid delivered) (deliver host peer localId peerId message) =
      between peer peerId nid (delivered ++ [received localId peerId message]) := by
  have size := Message.sizedMetadata_size message (rewritten localId peerId message) rfl rfl
  have sized : (message.sizedMetadata (rewritten localId peerId message)).size.toNat =
      message.body.length := by
    rw [size]
    exact UInt32.toNat_ofNat_of_lt' message.short
  have target : (message.sizedMetadata (rewritten localId peerId message)).target.dnodeId =
      peerId := by
    unfold Message.sizedMetadata
    split <;> rfl
  have same : ({ message.sizedMetadata (rewritten localId peerId message) with
      dataType := typeStream } : Metadata) = (received localId peerId message).metadata := by
    unfold received
    rw [← size]
    unfold Message.sizedMetadata
    split <;> rfl
  have emitted : deliver host peer localId peerId message =
      image peer (message.sizedMetadata (rewritten localId peerId message)) ++ message.body := by
    simp only [deliver, Message.serialize, image_converted]
  rw [emitted, feed_message peer nid delivered target sized]
  exact congrArg (fun block => between peer peerId nid (delivered ++ [⟨block, message.body⟩])) same

/-- The bytes of a list of messages, by induction on the list. -/
theorem feed_messages (localId peerId nid : UInt32) (delivered : List Received)
    (messages : List Message) :
    feed (between peer peerId nid delivered)
        ((messages.map (deliver host peer localId peerId)).flatten) =
      between peer peerId nid (delivered ++ messages.map (received localId peerId)) := by
  induction messages generalizing delivered with
  | nil => simp [feed]
  | cons _ _ inductionHypothesis =>
    rw [List.map_cons, List.flatten_cons, feed_append, feed_deliver, inductionHypothesis]
    simp

theorem handshake_length (localId : UInt32) : (handshake host localId).length = 4 :=
  store_length host 4 _

/-- A handshake that is read back is the id that was sent. -/
theorem htonl_handshake (localId : UInt32) :
    htonl peer (load32 peer (handshake host localId)).1 = localId := by
  have network : ∀ (order : Order) (word : UInt32),
      store32 order (htonl order word) = store32 .big word := by
    intro order word
    cases order with
    | little => exact store32_swap32 .little word
    | big => rfl
  have image : handshake host localId = store32 peer (htonl peer localId) ++ [] := by
    rw [handshake, network host, network peer, List.append_nil]
  rw [image, load32_store32]
  cases peer with
  | little => exact swap32_swap32 localId
  | big => rfl

/-- The handshake tells the accepting side the id of its peer. -/
theorem feed_handshake (localId peerId nid : UInt32) :
    feed (start peer peerId nid true) (handshake host localId) =
      between peer peerId localId [] := by
  have lengthy := handshake_length host localId
  have nonempty : handshake host localId ≠ [] := by
    intro vacant
    simp [vacant] at lengthy
  rw [feed_buffer _ _ rfl nonempty lengthy]
  simp [start, getBuffer, consume, htonl_handshake, between]

/-- The stream round trip. For every pair of byte orders, every pair of node ids and
every list of messages, and for every way of cutting the bytes of the sender into
nonempty chunks: an accepting receiver learns the id of the sender and delivers
exactly the messages, in order, and a connecting receiver, which waits for no
handshake, delivers the same messages. -/
theorem round_trip (host peer : Order) (localId peerId nid : UInt32) (messages : List Message) :
    (∀ chunks : List (List UInt8), (∀ chunk ∈ chunks, chunk ≠ []) →
      chunks.flatten = handshake host localId ++
        (messages.map (deliver host peer localId peerId)).flatten →
      receive (start peer peerId nid true) chunks =
        between peer peerId localId (messages.map (received localId peerId))) ∧
    (∀ chunks : List (List UInt8), (∀ chunk ∈ chunks, chunk ≠ []) →
      chunks.flatten = (messages.map (deliver host peer localId peerId)).flatten →
      receive (start peer peerId nid false) chunks =
        between peer peerId nid (messages.map (received localId peerId))) := by
  constructor
  · intro chunks nonempty cut
    have ready : Ready (start peer peerId nid true) := getBuffer_ready (by simp)
    rw [receive_feed _ chunks ready nonempty, cut, feed_append, feed_handshake, feed_messages]
    rfl
  · intro chunks nonempty cut
    have ready : Ready (start peer peerId nid false) := getBuffer_ready (by simp)
    have waiting : start peer peerId nid false = between peer peerId nid [] := rfl
    rw [receive_feed _ chunks ready nonempty, cut, waiting, feed_messages]
    rfl

/-- A request with two bytes of packed data. -/
def ping : Message where
  metadata := ⟨1, typeUserNormal, 0, ⟨0, 3, 0, 4⟩, ⟨0, 5, 6, 8⟩, 9⟩
  body := [0xca, 0xfe]
  short := by decide
  sized := fun unpacked => absurd rfl unpacked

/-- The stream from a little-endian node 1 to a big-endian node 2: the handshake, a
message, and the same message again. -/
def pings : List UInt8 :=
  handshake .little 1 ++ ([ping, ping].map (deliver .little .big 1 2)).flatten

/-- The stream is received when it is cut inside the handshake and inside a block. -/
theorem round_trip_pings :
    receive (start .big 2 0 true) [pings.take 3, (pings.drop 3).take 10, pings.drop 13] =
      between .big 2 1 ([ping, ping].map (received 1 2)) :=
  (round_trip .little .big 1 2 0 [ping, ping]).1
    [pings.take 3, (pings.drop 3).take 10, pings.drop 13] (by decide) (by decide)

end Mola.Gateway
