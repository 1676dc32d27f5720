import Mathlib.Data.List.TakeWhile
import Mathlib.Data.Nat.Digits.Lemmas

/-!
# Decimal numbers and words in bytes

Text is a list of bytes. A scanner takes the longest run of bytes of a class from the front of a
text: white space that is skipped, the digits of a number, or the bytes of a word. A run is read
as a whole if the text after it does not go on with a byte of the class.

Numbers are printed in base ten, with leading zeros up to a width if one is given, and what is
printed is scanned as the same number.
-/

namespace Mola.Decimals

/-- The white space of the C locale. -/
def isSpace (byte : UInt8) : Bool := (9 ≤ byte && byte ≤ 13) || byte = 32

/-- The bytes of a text in ASCII. -/
def ascii (text : String) : List UInt8 := text.toList.map fun char => UInt8.ofNat char.toNat

/-- A decimal digit. -/
def isDigit (byte : UInt8) : Bool := 48 ≤ byte && byte ≤ 57

/-- The byte of a digit. -/
def digit (value : Nat) : UInt8 := UInt8.ofNat (48 + value)

/-- The digit of a byte. -/
def digitValue (byte : UInt8) : Nat := byte.toNat - 48

/-- A number in base ten, without leading zeros. -/
def decimal (number : Nat) : List UInt8 :=
  if number = 0 then [48] else (Nat.digits 10 number).reverse.map digit

/-- A number in base ten, with leading zeros up to a width. -/
def padded (width number : Nat) : List UInt8 :=
  List.replicate (width - (decimal number).length) 48 ++ decimal number

/-- A number with a sign if it is negative, and leading zeros up to a width. -/
def paddedInt (width : Nat) (number : Int) : List UInt8 :=
  if number < 0 then 45 :: padded (width - 1) number.natAbs else padded width number.natAbs

/-- The number that digits denote. -/
def value (digits : List UInt8) : Nat := Nat.ofDigits 10 (digits.reverse.map digitValue)

/-- White space at the front is skipped. -/
def skipSpace (text : List UInt8) : List UInt8 := text.dropWhile isSpace

/-- The digits at the front are read as a number. There has to be one. -/
def scanDigits (text : List UInt8) : Option (Nat × List UInt8) :=
  let digits := text.takeWhile isDigit
  if digits = [] then none else some (value digits, text.dropWhile isDigit)

/-- A number with an optional sign. The flag tells a minus. -/
def scanSigned (text : List UInt8) : Option (Bool × Nat × List UInt8) :=
  match text with
  | 45 :: rest => (scanDigits rest).map fun (number, left) => (true, number, left)
  | 43 :: rest => (scanDigits rest).map fun (number, left) => (false, number, left)
  | _ => (scanDigits text).map fun (number, left) => (false, number, left)

/-- The bytes up to white space or the end. -/
def word (text : List UInt8) : List UInt8 := text.takeWhile fun byte => !isSpace byte

/-- What follows the first word. -/
def afterWord (text : List UInt8) : List UInt8 := text.dropWhile fun byte => !isSpace byte

/-- A text does not go on with a byte of the class. -/
def Stops (belongs : UInt8 → Bool) (text : List UInt8) : Prop :=
  ∀ byte ∈ text.head?, belongs byte = false

section Runs

variable (belongs : UInt8 → Bool) (run text : List UInt8)

theorem takeWhile_run (all : ∀ byte ∈ run, belongs byte = true) (stops : Stops belongs text) :
    (run ++ text).takeWhile belongs = run := by
  rw [List.takeWhile_append_of_pos all]
  cases text with
  | nil => simp
  | cons byte => simp [stops byte rfl]

theorem dropWhile_run (all : ∀ byte ∈ run, belongs byte = true) (stops : Stops belongs text) :
    (run ++ text).dropWhile belongs = text := by
  rw [List.dropWhile_append_of_pos all]
  cases text with
  | nil => rfl
  | cons byte => simp [stops byte rfl]

end Runs

section Cuts

variable (separator : UInt8) (run rest : List UInt8) (absent : separator ∉ run)
include absent

theorem all_ne : ∀ byte ∈ run, decide (byte ≠ separator) = true := by
  intro byte member
  refine decide_eq_true fun same => ?_
  rw [same] at member
  exact absent member

/-- A text is cut at the first separator. -/
theorem cut_run :
    (run ++ separator :: rest).takeWhile (fun byte => byte ≠ separator) = run ∧
      (run ++ separator :: rest).dropWhile (fun byte => byte ≠ separator) =
        separator :: rest := by
  have all := all_ne separator run absent
  have stops : Stops (fun byte => decide (byte ≠ separator)) (separator :: rest) := by
    rintro byte ⟨⟩
    simp
  exact ⟨takeWhile_run _ run _ all stops, dropWhile_run _ run _ all stops⟩

/-- A text without the separator is not cut. -/
theorem cut_none :
    run.takeWhile (fun byte => byte ≠ separator) = run ∧
      run.dropWhile (fun byte => byte ≠ separator) = [] := by
  have all := all_ne separator run absent
  have stops : Stops (fun byte => decide (byte ≠ separator)) [] := by
    rintro byte ⟨⟩
  have taken := takeWhile_run _ run [] all stops
  have dropped := dropWhile_run _ run [] all stops
  rw [List.append_nil] at taken dropped
  exact ⟨taken, dropped⟩

end Cuts

/-- Nothing is skipped in front of a text that does not start with white space. -/
theorem skipSpace_of_stops (text : List UInt8) (stops : Stops isSpace text) :
    skipSpace text = text :=
  dropWhile_run isSpace [] text (fun _ member => by cases member) stops

theorem digit_spec {number : Nat} (small : number < 10) :
    isDigit (digit number) = true ∧ digitValue (digit number) = number := by
  interval_cases number <;> decide

/-- A digit is not white space. -/
theorem isSpace_of_isDigit {byte : UInt8} (digit : isDigit byte = true) : isSpace byte = false := by
  unfold isDigit at digit
  unfold isSpace
  simp only [Bool.and_eq_true, decide_eq_true_eq, UInt8.le_iff_toNat_le] at digit
  simp only [Bool.or_eq_false_iff, Bool.and_eq_false_iff, decide_eq_false_iff_not,
    UInt8.le_iff_toNat_le, ← UInt8.toNat_inj]
  change 48 ≤ _ ∧ _ ≤ 57 at digit
  change (¬9 ≤ _ ∨ ¬_ ≤ 13) ∧ ¬_ = 32
  omega

variable (width number : Nat)

theorem decimal_digits : ∀ byte ∈ decimal number, isDigit byte = true := by
  intro byte member
  unfold decimal at member
  split at member
  · rw [List.mem_singleton.mp member]
    decide
  · obtain ⟨small, inDigits, rfl⟩ := List.mem_map.mp member
    exact (digit_spec (Nat.digits_lt_base (by decide) (List.mem_reverse.mp inDigits))).1

theorem decimal_ne_nil : decimal number ≠ [] := by
  unfold decimal
  split
  case isTrue => simp
  case isFalse positive => simpa using Nat.digits_ne_nil_iff_ne_zero.mpr positive

/-- A printed number denotes the number. -/
theorem value_decimal : value (decimal number) = number := by
  unfold decimal
  split
  case isTrue zero =>
    rw [zero]
    decide
  case isFalse =>
    have same : (Nat.digits 10 number).map (digitValue ∘ digit) = Nat.digits 10 number := by
      conv_rhs => rw [← List.map_id (Nat.digits 10 number)]
      exact List.map_congr_left fun small member =>
        (digit_spec (Nat.digits_lt_base (by decide) member)).2
    unfold value
    rw [← List.map_reverse, List.reverse_reverse, List.map_map, same, Nat.ofDigits_digits]

theorem padded_digits :
    ∀ byte ∈ padded width number, isDigit byte = true := by
  intro byte member
  rcases List.mem_append.mp member with zero | digit
  · rw [List.eq_of_mem_replicate zero]
    decide
  · exact decimal_digits number byte digit

theorem padded_ne_nil : padded width number ≠ [] := by
  simp [padded, decimal_ne_nil]

theorem value_padded : value (padded width number) = number := by
  have zeros : digitValue 48 = 0 := rfl
  unfold value padded
  rw [List.reverse_append, List.map_append, List.reverse_replicate, List.map_replicate, zeros,
    Nat.ofDigits_append_replicate_zero]
  exact value_decimal number

theorem digitValue_lt {byte : UInt8} (digit : isDigit byte = true) : digitValue byte < 10 := by
  unfold isDigit at digit
  simp only [Bool.and_eq_true, decide_eq_true_eq, UInt8.le_iff_toNat_le] at digit
  change 48 ≤ _ ∧ _ ≤ 57 at digit
  unfold digitValue
  omega

theorem value_lt (digits : List UInt8) (all : ∀ byte ∈ digits, isDigit byte = true) :
    value digits < 10 ^ digits.length := by
  have bound := Nat.ofDigits_lt_base_pow_length (l := digits.reverse.map digitValue)
    (show 1 < 10 by decide) fun value member => by
      obtain ⟨byte, inDigits, rfl⟩ := List.mem_map.mp member
      exact digitValue_lt (all byte (List.mem_reverse.mp inDigits))
  rwa [List.length_map, List.length_reverse] at bound

theorem length_decimal_le (digits : Nat) (some_ : 0 < digits) (small : number < 10 ^ digits) :
    (decimal number).length ≤ digits := by
  unfold decimal
  split
  · exact some_
  · simpa using (Nat.digits_length_le_iff (by decide) number).mpr small

/-- A number of at most as many digits as the width is printed in that width. -/
theorem length_padded (wide : 0 < width) (small : number < 10 ^ width) :
    (padded width number).length = width := by
  unfold padded
  rw [List.length_append, List.length_replicate,
    Nat.sub_add_cancel (length_decimal_le number width wide small)]

theorem length_padded_le :
    (padded width number).length ≤ width + (decimal number).length := by
  unfold padded
  rw [List.length_append, List.length_replicate]
  omega

theorem scanDigits_run {digits text : List UInt8} (some_ : digits ≠ [])
    (all : ∀ byte ∈ digits, isDigit byte = true) (stops : Stops isDigit text) :
    scanDigits (digits ++ text) = some (value digits, text) := by
  unfold scanDigits
  rw [takeWhile_run isDigit digits text all stops, dropWhile_run isDigit digits text all stops]
  exact if_neg some_

/-- A scanned number is below the power of ten of the length of the text. -/
theorem scanDigits_lt {text rest : List UInt8} {number : Nat}
    (read : scanDigits text = some (number, rest)) : number < 10 ^ text.length := by
  simp only [scanDigits] at read
  split at read
  case isTrue => cases read
  case isFalse =>
    cases read
    have shorter : (text.takeWhile isDigit).length ≤ text.length :=
      (List.takeWhile_prefix isDigit).length_le
    exact Nat.lt_of_lt_of_le (value_lt _ fun byte member => List.mem_takeWhile_imp member)
      (Nat.pow_le_pow_right (by decide) shorter)

/-- So is a scanned number with a sign. -/
theorem scanSigned_lt {text rest : List UInt8} {negative : Bool} {number : Nat}
    (read : scanSigned text = some (negative, number, rest)) : number < 10 ^ text.length := by
  -- The sign is a byte of the text, so the digits are in a shorter one.
  have unsigned : ∃ digits, digits.length ≤ text.length ∧
      scanDigits digits = some (number, rest) := by
    unfold scanSigned at read
    split at read
    case h_1 digits =>
      obtain ⟨found, foundRead, result⟩ := Option.map_eq_some_iff.mp read
      cases result
      exact ⟨digits, Nat.le_succ _, foundRead⟩
    case h_2 digits =>
      obtain ⟨found, foundRead, result⟩ := Option.map_eq_some_iff.mp read
      cases result
      exact ⟨digits, Nat.le_succ _, foundRead⟩
    case h_3 =>
      obtain ⟨found, foundRead, result⟩ := Option.map_eq_some_iff.mp read
      cases result
      exact ⟨text, Nat.le_refl _, foundRead⟩
  obtain ⟨digits, shorter, digitsRead⟩ := unsigned
  exact Nat.lt_of_lt_of_le (scanDigits_lt digitsRead)
    (Nat.pow_le_pow_right (by decide) shorter)

/-- Digits have no sign. -/
theorem scanSigned_run (digits text : List UInt8) (some_ : digits ≠ [])
    (all : ∀ byte ∈ digits, isDigit byte = true) (stops : Stops isDigit text) :
    scanSigned (digits ++ text) = some (false, value digits, text) := by
  have read := scanDigits_run some_ all stops
  cases digits with
  | nil => exact absurd rfl some_
  | cons first =>
    have digit := all first List.mem_cons_self
    rw [List.cons_append] at read ⊢
    unfold scanSigned
    split
    case h_1 minus =>
      cases minus
      cases digit
    case h_2 plus =>
      cases plus
      cases digit
    case h_3 => rw [read, Option.map_some]

theorem scanSigned_decimal {text : List UInt8} (stops : Stops isDigit text) :
    scanSigned (decimal number ++ text) = some (false, number, text) := by
  rw [scanSigned_run (decimal number) text (decimal_ne_nil number) (decimal_digits number) stops,
    value_decimal]

/-- Digits are not skipped. -/
theorem skipSpace_run (digits text : List UInt8) (some_ : digits ≠ [])
    (all : ∀ byte ∈ digits, isDigit byte = true) :
    skipSpace (digits ++ text) = digits ++ text := by
  refine skipSpace_of_stops _ fun byte front => ?_
  cases digits with
  | nil => exact absurd rfl some_
  | cons =>
    cases front
    exact isSpace_of_isDigit (all byte List.mem_cons_self)

theorem word_run (bytes text : List UInt8) (solid : ∀ byte ∈ bytes, isSpace byte = false)
    (stops : Stops (fun byte => !isSpace byte) text) :
    word (bytes ++ text) = bytes ∧ afterWord (bytes ++ text) = text := by
  have all : ∀ byte ∈ bytes, (!isSpace byte) = true := fun byte member => by
    rw [solid byte member]
    rfl
  exact ⟨takeWhile_run _ bytes text all stops, dropWhile_run _ bytes text all stops⟩

theorem length_paddedInt_le (number : Int) :
    (paddedInt width number).length ≤ width + (decimal number.natAbs).length + 1 := by
  unfold paddedInt
  split
  · have rest := length_padded_le (width - 1) number.natAbs
    rw [List.length_cons]
    omega
  · exact Nat.le_succ_of_le (length_padded_le width number.natAbs)

/-- A printed integer is a word: it has a byte, and none is white space. -/
theorem paddedInt_word (number : Int) :
    paddedInt width number ≠ [] ∧ ∀ byte ∈ paddedInt width number, isSpace byte = false := by
  unfold paddedInt
  split
  · refine ⟨List.cons_ne_nil _ _, fun byte member => ?_⟩
    rcases List.mem_cons.mp member with rfl | digit
    · rfl
    · exact isSpace_of_isDigit (padded_digits _ _ byte digit)
  · exact ⟨padded_ne_nil _ _, fun byte member =>
      isSpace_of_isDigit (padded_digits _ _ byte member)⟩

end Mola.Decimals
