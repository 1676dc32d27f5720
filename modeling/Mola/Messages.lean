import Mola.ByteOrder
import Mola.Routing

/-!
# Message metadata in memory and on the wire

A message travels with a fixed block of metadata: two half words, the size of its
body, the packed ids of its sender and target, and a request id. The block is sent
as the sender's memory holds it. Before that, `serialize` reverses the bytes of
every field when the byte order of the target differs from the order of the host.
The image in memory is then the one that the target itself would have written.

A message to be sent carries its serialized body. The two conditions on it say
what the serializer relies on: a body shorter than a 32-bit size, and a size field
that already is the length of a body that needs no packing.
-/

namespace Mola

open ByteOrder

/-- The metadata block, in the order of its fields. -/
structure Metadata where
  type : UInt16
  dataType : UInt16
  size : UInt32
  sender : ActorID
  target : ActorID
  reqid : UInt32
deriving DecidableEq

namespace Metadata

/-- The data type of bytes as they came from a stream. -/
def typeStream : UInt16 := 1

/-- The data type of user data that is packed before it is sent. -/
def typeUserNormal : UInt16 := 3

/-- The number of bytes of the block. -/
def bytes : Nat := 36

/-- A half word in the memory of a host. -/
def store16 (order : Order) (word : UInt16) : List UInt8 := store order 2 word.toNat

/-- A word in the memory of a host. -/
def store32 (order : Order) (word : UInt32) : List UInt8 := store order 4 word.toNat

/-- Read a half word and go on behind it. -/
def load16 (order : Order) (memory : List UInt8) : UInt16 × List UInt8 :=
  (UInt16.ofNat (load order (memory.take 2)), memory.drop 2)

/-- Read a word and go on behind it. -/
def load32 (order : Order) (memory : List UInt8) : UInt32 × List UInt8 :=
  (UInt32.ofNat (load order (memory.take 4)), memory.drop 4)

/-- Reverse the bytes of a half word. -/
def swap16 (word : UInt16) : UInt16 := UInt16.ofNat (swap 2 word.toNat)

/-- Reverse the bytes of a word. -/
def swap32 (word : UInt32) : UInt32 := UInt32.ofNat (swap 4 word.toNat)

variable (order : Order) (block : Metadata) (rest : List UInt8)

/-- A half word read back is the one stored, and nothing behind it is touched. -/
theorem load16_store16 (word : UInt16) (rest : List UInt8) :
    load16 order (store16 order word ++ rest) = (word, rest) := by
  have fits : word.toNat < 256 ^ 2 := word.toNat_lt
  have front : (store16 order word).length = 2 := store_length order 2 word.toNat
  rw [load16, List.take_left' front, List.drop_left' front, store16, load_store order fits,
    UInt16.ofNat_toNat]

theorem load32_store32 (word : UInt32) (rest : List UInt8) :
    load32 order (store32 order word ++ rest) = (word, rest) := by
  have fits : word.toNat < 256 ^ 4 := word.toNat_lt
  have front : (store32 order word).length = 4 := store_length order 4 word.toNat
  rw [load32, List.take_left' front, List.drop_left' front, store32, load_store order fits,
    UInt32.ofNat_toNat]

theorem store16_swap16 (word : UInt16) :
    store16 order (swap16 word) = store16 order.other word := by
  have fits : swap 2 word.toNat < 2 ^ 16 := swap_lt 2 word.toNat
  rw [store16, swap16, UInt16.toNat_ofNat_of_lt' fits, store_swap]
  rfl

theorem store32_swap32 (word : UInt32) :
    store32 order (swap32 word) = store32 order.other word := by
  have fits : swap 4 word.toNat < 2 ^ 32 := swap_lt 4 word.toNat
  rw [store32, swap32, UInt32.toNat_ofNat_of_lt' fits, store_swap]
  rfl

theorem swap32_swap32 (word : UInt32) : swap32 (swap32 word) = word := by
  have twice : store32 .little (swap32 (swap32 word)) = store32 .little word := by
    rw [store32_swap32, store32_swap32]
    rfl
  have read := congrArg (fun memory => (load32 .little (memory ++ [])).1) twice
  simpa only [load32_store32] using read

/-- The id of an actor in memory. Its bit fields are two half words. -/
def idImage (order : Order) (id : ActorID) : List UInt8 :=
  store32 order id.dnodeId ++ (store16 order id.dmoduleId ++
    (store16 order id.dintfId ++ store32 order id.dinstId))

/-- The block in the memory of a host. -/
def image (order : Order) (block : Metadata) : List UInt8 :=
  store16 order block.type ++ (store16 order block.dataType ++ (store32 order block.size ++
    (idImage order block.sender ++ (idImage order block.target ++ store32 order block.reqid))))

/-- Read the id of an actor and go on behind it. -/
def loadId (order : Order) (memory : List UInt8) : ActorID × List UInt8 :=
  let (dnodeId, memory) := load32 order memory
  let (dmoduleId, memory) := load16 order memory
  let (dintfId, memory) := load16 order memory
  let (dinstId, memory) := load32 order memory
  (⟨dnodeId, dmoduleId, dintfId, dinstId⟩, memory)

/-- The block that a host sees in memory. -/
def ofImage (order : Order) (memory : List UInt8) : Metadata :=
  let (type, memory) := load16 order memory
  let (dataType, memory) := load16 order memory
  let (size, memory) := load32 order memory
  let (sender, memory) := loadId order memory
  let (target, memory) := loadId order memory
  let (reqid, _) := load32 order memory
  ⟨type, dataType, size, sender, target, reqid⟩

theorem image_length : (image order block).length = bytes := by
  simp [image, idImage, store16, store32, bytes]

theorem loadId_idImage (id : ActorID) (rest : List UInt8) :
    loadId order (idImage order id ++ rest) = (id, rest) := by
  simp only [loadId, idImage, List.append_assoc, load16_store16, load32_store32]

theorem ofImage_image :
    ofImage order (image order block) = block := by
  have last : load32 order (store32 order block.reqid) = (block.reqid, []) := by
    simpa using load32_store32 order block.reqid []
  simp only [ofImage, image, load16_store16, load32_store32, loadId_idImage, last]

/-- Convert every field of a block, the ids field by field. -/
def convert (half : UInt16 → UInt16) (word : UInt32 → UInt32) (block : Metadata) : Metadata where
  type := half block.type
  dataType := half block.dataType
  size := word block.size
  sender :=
    { dnodeId := word block.sender.dnodeId
      dmoduleId := half block.sender.dmoduleId
      dintfId := half block.sender.dintfId
      dinstId := word block.sender.dinstId }
  target :=
    { dnodeId := word block.target.dnodeId
      dmoduleId := half block.target.dmoduleId
      dintfId := half block.target.dintfId
      dinstId := word block.target.dinstId }
  reqid := word block.reqid

/-- Conversion to little endian: nothing on a little-endian host. -/
def metatole : Order → Metadata → Metadata
  | .little, block => block
  | .big, block => convert swap16 swap32 block

/-- Conversion to big endian: nothing on a big-endian host. -/
def metatobe : Order → Metadata → Metadata
  | .little, block => convert swap16 swap32 block
  | .big, block => block

theorem image_convert :
    image order (convert swap16 swap32 block) = image order.other block := by
  simp only [image, idImage, convert, store16_swap16, store32_swap32]

/-- The byte order of a node, as the flag of `serialize`. -/
def isBig : Order → Bool
  | .little => false
  | .big => true

/-- The conversion that `serialize` selects stores the block in the order of the
target, whatever the host. -/
theorem image_converted (host target : Order) (block : Metadata) :
    image host (if isBig target then metatobe host block else metatole host block) =
      image target block := by
  cases host <;> cases target <;> simp [isBig, metatobe, metatole, image_convert, Order.other]

end Metadata

/-- A message that is ready to be sent. The body is the packed user data, or the
content itself when the data type needs no packing. -/
structure Message where
  metadata : Metadata
  body : List UInt8
  short : body.length < 2 ^ 32
  sized : metadata.dataType ≠ Metadata.typeUserNormal → metadata.size.toNat = body.length

theorem empty_short : ([] : List UInt8).length < 2 ^ 32 := Nat.two_pow_pos 32

namespace Message

open Metadata

/-- The metadata with the size that is sent: a packed body sets it. -/
def sizedMetadata (message : Message) (block : Metadata) : Metadata :=
  if block.dataType = typeUserNormal then { block with size := UInt32.ofNat message.body.length }
  else block

/-- The buffer and the converted metadata that `serialize` leaves. -/
def serialize (host : Order) (message : Message) (block : Metadata) (be : Bool) :
    List UInt8 × Metadata :=
  let block := sizedMetadata message block
  (message.body, if be then metatobe host block else metatole host block)

/-- The size that is sent is the length of the body. -/
theorem sizedMetadata_size (message : Message) (block : Metadata)
    (sameType : block.dataType = message.metadata.dataType)
    (sameSize : block.size = message.metadata.size) :
    (sizedMetadata message block).size = UInt32.ofNat message.body.length := by
  unfold sizedMetadata
  split
  · rfl
  · rename_i kept
    have exact_ := message.sized (by rwa [← sameType])
    rw [sameSize, ← exact_, UInt32.ofNat_toNat]

end Message

end Mola
