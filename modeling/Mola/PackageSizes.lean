import Mathlib.Data.Nat.Digits.Lemmas
import Mola.Decimals
import Mola.HeadBody

/-!
# The size of a package on its way

The size that a header announces is a word of 64 bits. One byte more is allocated for the body, with
an addition that wraps. The raw package stores the size in an `int`, and the driver of the
key-value store writes a terminator at that index. The driver's own protocol reads the size from six
bytes of text, so it can be negative, and a negative number is a size close to 2^64.

All of this agrees exactly for sizes below 2^31. Conversions that the language leaves to the
implementation are those of two's complement.
-/

namespace Mola.PackageSizes

open ByteOrder Decimals HeadBody Streams

/-- `raw_package_t` without its client. -/
structure RawPackage where
  size : Int
  buffer : List UInt8
  deriving DecidableEq, Repr

/-- A `size_t` that is stored in an `int`. -/
def toInt (size : UInt64) : Int := Int.bmod size.toNat (2 ^ 32)

/-- `BuiltinReceiver::deliver_message`: the size is stored in an `int`. -/
def deliverMessage (task : Task) : RawPackage where
  size := toInt task.size
  buffer := task.buffer

/-- What `OnNewPackage` does with a package: nothing, a request with a terminated copy, or an access
outside the buffer. -/
inductive Effect where
  | ignored
  | request (copy : List UInt8)
  | outside
  deriving DecidableEq, Repr

/-- `OnNewPackage` of the driver, for a buffer with so many bytes allocated. -/
def onNewPackage (allocated : UInt64) (package : RawPackage) : Effect :=
  if package.size = 0 then .ignored
  else if 0 ≤ package.size ∧ package.size < allocated.toNat then
    .request (package.buffer.take package.size.toNat ++ [0])
  else .outside

/-- `atoi` of a text that is short enough for its number to fit an `int`. -/
def atoi (text : List UInt8) : Int :=
  match scanSigned (skipSpace text) with
  | none => 0
  | some (negative, number, _) => if negative then -number else number

/-- The protocol of the driver: a header of six bytes is a number in text. The header is followed by
the zero byte of its buffer, and the number is converted to a `size_t`. -/
def driverProto : Proto where
  headerSize := 6
  bodySize header := UInt64.ofNat (atoi (header ++ [0]) % 2 ^ 64).toNat

/-- What is meant of a header, wherever in a connection it comes. If a body is read after it, then
its buffer has one byte more than what may be read into it. And when a body of that length was read,
it is handed over as a package with its length as the size, and the terminator of the driver is
inside the buffer. -/
def Safe (proto : Proto) (header : List UInt8) : Prop :=
  ∀ tasks : List Task,
    let receiver := feed (reader proto) (waiting proto tasks) header
    receiver.state = .getBuf →
      receiver.rdSize.toNat + 1 ≤ receiver.allocated.toNat ∧
        ∀ body : List UInt8, body.length = receiver.rdSize.toNat →
          ∃ task, (feed (reader proto) receiver body).tasks = tasks ++ [task] ∧
            (deliverMessage task).size = body.length ∧
            onNewPackage receiver.allocated (deliverMessage task) = .request (body ++ [0])

theorem toInt_eq_iff (size : UInt64) : toInt size = size.toNat ↔ size.toNat < 2 ^ 31 := by
  unfold toInt
  constructor
  · intro same
    have below : Int.bmod size.toNat (2 ^ 32) < (2 ^ 32 + 1) / 2 := Int.bmod_lt (by decide)
    omega
  · intro small
    exact Int.bmod_eq_of_le_mul_two (by omega) (by omega)

/-- A body of a size below 2^31 fits everything that its size is put into. -/
theorem body_fits (size : UInt64) (body : List UInt8) (sized : body.length = size.toNat)
    (some_ : 0 < size) (small : size.toNat < 2 ^ 31) :
    (size + 1).toNat = size.toNat + 1 ∧ (deliverMessage ⟨size, body⟩).size = body.length ∧
      onNewPackage (size + 1) (deliverMessage ⟨size, body⟩) = .request (body ++ [0]) := by
  have positive := UInt64.lt_iff_toNat_lt.mp some_
  have one : (size + 1).toNat = size.toNat + 1 := by
    have unwrapped : size.toNat + 1 < 2 ^ 64 := by omega
    rw [UInt64.toNat_add, UInt64.toNat_one, Nat.mod_eq_of_lt unwrapped]
  have stored : toInt size = size.toNat := (toInt_eq_iff size).mpr small
  refine ⟨one, by rw [deliverMessage, stored, sized], ?_⟩
  have nonzero : (size.toNat : Int) ≠ 0 := by
    change 0 < size.toNat at positive
    omega
  have inside : (0 : Int) ≤ size.toNat ∧ (size.toNat : Int) < (size + 1).toNat := by
    rw [one]
    omega
  simp only [onNewPackage, deliverMessage, stored, if_neg nonzero, if_pos inside,
    Int.toNat_natCast]
  rw [← sized, List.take_length]

variable {header : List UInt8}

/-- A header is safe exactly if the size that it announces is below 2^31. -/
theorem safe_iff {proto : Proto} (positive : 0 < proto.headerSize)
    (sized : header.length = proto.headerSize.toNat) :
    Safe proto header ↔ (proto.bodySize header).toNat < 2 ^ 31 := by
  unfold Safe
  simp only [feed_header positive _ header sized]
  by_cases announces : 0 < proto.bodySize header
  · simp only [if_pos announces]
    have something : ∀ body : List UInt8, body.length = (proto.bodySize header).toNat →
        body ≠ [] := by
      rintro body length rfl
      exact absurd (UInt64.lt_iff_toNat_lt.mp announces) (by rw [← length]; exact Nat.lt_irrefl 0)
    constructor
    · intro safe
      -- Any body of the announced length shows what becomes of the size.
      obtain ⟨body, length⟩ : ∃ body : List UInt8, body.length = (proto.bodySize header).toNat :=
        ⟨List.replicate _ 0, List.length_replicate⟩
      obtain ⟨task, handed, size, _⟩ := (safe [] rfl).2 body length
      rw [feed_body positive [] _ body (something body length) length] at handed
      obtain rfl := List.singleton_inj.mp handed
      simp only [deliverMessage, length] at size
      exact (toInt_eq_iff _).mp size
    · intro small tasks _
      have fits := fun body length => body_fits (proto.bodySize header) body length announces small
      constructor
      · change (proto.bodySize header).toNat + 1 ≤ (proto.bodySize header + 1).toNat
        rw [(fits (List.replicate _ 0) List.length_replicate).1]
      · intro body (length : body.length = (proto.bodySize header).toNat)
        refine ⟨⟨proto.bodySize header, body⟩, ?_, (fits body length).2⟩
        rw [feed_body positive tasks _ body (something body length) length]
        rfl
  · simp only [if_neg announces]
    have zero : (proto.bodySize header).toNat = 0 :=
      Nat.le_zero.mp (Nat.not_lt.mp fun some_ => announces (UInt64.lt_iff_toNat_lt.mpr some_))
    constructor
    · intro _
      rw [zero]
      decide
    · intro _ tasks body
      cases body

/-- `atoi` of a text stays below a power of ten, whatever its sign. -/
theorem atoi_natAbs_lt (text : List UInt8) : (atoi text).natAbs < 10 ^ text.length := by
  unfold atoi
  cases read : scanSigned (skipSpace text) with
  | none => exact Nat.pow_pos (by decide)
  | some result =>
    obtain ⟨negative, number, rest⟩ := result
    have shorter : (skipSpace text).length ≤ text.length :=
      (List.dropWhile_suffix isSpace).length_le
    have small : number < 10 ^ text.length :=
      Nat.lt_of_lt_of_le (scanSigned_lt read)
        (Nat.pow_le_pow_right (by decide) shorter)
    cases negative with
    | false => exact small
    | true => simpa using small

/-- The size that a header of the default protocol announces is the word in it. -/
theorem default_bodySize (order : Order) (eight : header.length = 8) :
    ((defaultProto order).bodySize header).toNat = load order header := by
  have small : load order header < 2 ^ 64 := by
    cases order with
    | little =>
      have bound := ByteOrder.value_lt header
      rwa [eight] at bound
    | big =>
      have bound := ByteOrder.value_lt header.reverse
      rwa [List.length_reverse, eight] at bound
  exact UInt64.toNat_ofNat_of_lt' small

/-- The size that a header of the driver announces is below 2^31 exactly if its number is not
negative. -/
theorem driver_bodySize_lt_iff (six : header.length = 6) :
    (driverProto.bodySize header).toNat < 2 ^ 31 ↔ 0 ≤ atoi (header ++ [0]) := by
  have bound := atoi_natAbs_lt (header ++ [0])
  have seven : (10 : Nat) ^ (header ++ [0]).length = 10000000 := by
    rw [List.length_append, six]
    rfl
  rw [seven] at bound
  have small : (atoi (header ++ [0]) % 2 ^ 64).toNat < 2 ^ 64 := by omega
  have size : (driverProto.bodySize header).toNat = (atoi (header ++ [0]) % 2 ^ 64).toNat :=
    UInt64.toNat_ofNat_of_lt' small
  rw [size]
  omega

/-- For every header of eight bytes of the default protocol, and every header of six bytes of the
driver's: the buffer, the size and the terminator are as they are meant to be exactly if the number
in the header is below 2^31, and not negative. -/
theorem header_safe_iff (order : Order) (header text : List UInt8) (eight : header.length = 8)
    (six : text.length = 6) :
    (Safe (defaultProto order) header ↔ load order header < 2 ^ 31) ∧
      (Safe driverProto text ↔ 0 ≤ atoi (text ++ [0])) := by
  constructor
  · rw [safe_iff (by change (0 : UInt64) < 8; decide) eight,
      default_bodySize order eight]
  · rw [safe_iff (by decide) six, driver_bodySize_lt_iff six]

/-- A header that announces five bytes, in either protocol. -/
theorem header_safe_five : ([5, 0, 0, 0, 0, 0, 0, 0] : List UInt8).length = 8 ∧
    (ascii "00005 ").length = 6 ∧ Safe (defaultProto .little) [5, 0, 0, 0, 0, 0, 0, 0] ∧
      Safe driverProto (ascii "00005 ") := by
  have both := header_safe_iff .little [5, 0, 0, 0, 0, 0, 0, 0] (ascii "00005 ") rfl rfl
  exact ⟨rfl, rfl, both.1.mpr (by decide), both.2.mpr (by decide)⟩

/-- The largest word makes the addition wrap: nothing is allocated for a body of 2^64 - 1 bytes. A
negative number in the driver's header does the same. At 2^31 the stored size is negative, and the
terminator is written in front of the buffer. -/
theorem header_unsafe :
    (feed (reader (defaultProto .little)) (waiting (defaultProto .little) [])
        (List.replicate 8 255)).rdSize = 18446744073709551615 ∧
      (feed (reader (defaultProto .little)) (waiting (defaultProto .little) [])
        (List.replicate 8 255)).allocated = 0 ∧
      (feed (reader driverProto) (waiting driverProto []) (ascii "-00001")).rdSize =
        18446744073709551615 ∧
      (feed (reader driverProto) (waiting driverProto []) (ascii "-00001")).allocated = 0 ∧
      (feed (reader (defaultProto .little)) (waiting (defaultProto .little) [])
        [0, 0, 0, 128, 0, 0, 0, 0]).rdSize = 2147483648 ∧
      (∀ body, (deliverMessage ⟨2147483648, body⟩).size = -2147483648 ∧
        onNewPackage 2147483649 (deliverMessage ⟨2147483648, body⟩) = .outside) := by
  have stored : toInt 2147483648 = -2147483648 := by decide
  refine ⟨by decide, by decide, by decide, by decide, by decide, fun body => ?_⟩
  simp [onNewPackage, deliverMessage, stored]

end Mola.PackageSizes
