import Mola.OptionTokens

/-!
# Reading options from a file

`process_options_from_file` reads a file line by line into a buffer of `OPTBUFSIZE` bytes, and
takes the options of each line from the buffer. The pointer into the buffer is the one that the
tokenizer moves on, and it is not set back for the next line: each line is stored behind what was
read of the lines before it, with the size of the whole buffer as its limit. The loop ends at the
end of the file, which a line that is too long never reaches: it makes the stream fail, and a
stream that has failed stores empty lines for ever.

The function leaves its buffer unless every line ends within it. If they all do, it hands on the
options of every line and returns. A write or read outside of the buffer ends the model.
-/

namespace Mola.OptionTokens

open Decimals

/-- An input file stream: what is left, and the bits for the end and for a failure. -/
structure Stream where
  rest : List UInt8
  eof : Bool
  fail : Bool

/-- `getline` with a limit of `OPTBUFSIZE`: the bytes that are stored in front of a zero, and the
stream. The end is noticed before a line end, and a line end before the limit. A call that takes
nothing fails, and one on a stream that is not good stores nothing. -/
def getline (stream : Stream) : List UInt8 × Stream :=
  if stream.eof || stream.fail then ([], { stream with fail := true })
  else
    let line := stream.rest.takeWhile fun byte => byte ≠ 10
    if line.length < optBufSize then
      match stream.rest.dropWhile fun byte => byte ≠ 10 with
      | [] => (line, ⟨[], true, line = []⟩)
      | _ :: rest => (line, ⟨rest, false, false⟩)
    else (stream.rest.take (optBufSize - 1), ⟨stream.rest.drop (optBufSize - 1), false, true⟩)

/-- The local variables of `process_options_from_file`, and the options handed on so far. The
position is where the pointer stands in the buffer. -/
structure Reader where
  buffer : List UInt8
  position : Nat
  stream : Stream
  given : List (List UInt8)

/-- The function returns, or it accesses a byte outside of its buffers, or it goes on. -/
inductive Outcome where
  | returned (options : List (List UInt8))
  | outside
  | running
deriving DecidableEq

/-- Store bytes in the buffer. -/
def store (buffer : List UInt8) (position : Nat) (bytes : List UInt8) : List UInt8 :=
  buffer.take position ++ bytes ++ buffer.drop (position + bytes.length)

/-- The memory behind the pointer after the last call. -/
def leftBy (calls : List Call) : List UInt8 := (calls.getLast?.map Call.rest).getD []

/-- The loop of `process_options_from_file`. -/
def fileLoop : Nat → Reader → Outcome
  | 0, _ => .running
  | fuel + 1, reader =>
      if reader.stream.eof then .returned reader.given
      else
        let (line, stream) := getline reader.stream
        if reader.position + line.length < optBufSize then
          let buffer := store reader.buffer reader.position (line ++ [0])
          match processLine (optBufSize + 1) (buffer.drop reader.position) with
          | none => .outside
          | some calls =>
              fileLoop fuel ⟨buffer, optBufSize - (leftBy calls).length, stream,
                reader.given ++ handed calls⟩
        else .outside

/-- `process_options_from_file` for the content of a file, with what is in the new buffer. It
stores at least one byte in every turn. -/
def processOptionsFromFile (buffer file : List UInt8) : Outcome :=
  fileLoop (optBufSize + 1) ⟨buffer, 0, ⟨file, false, false⟩, []⟩

/-- The calls for a line on its own. -/
def callsFor (line : List UInt8) : List Call :=
  (processLine (line.length + 2) (line ++ [0])).getD []

/-- The options of a line. -/
def optionsOf (line : List UInt8) : List (List UInt8) := handed (callsFor line)

/-- How many bytes of a line and its zero the calls take. -/
def taken (line : List UInt8) : Nat := line.length + 1 - (leftBy (callsFor line)).length

/-- The lines end within the buffer, when each is stored behind what is taken of those before. -/
def Fits : Nat → List (List UInt8) → Prop
  | _, [] => True
  | position, line :: rest =>
      position + line.length < optBufSize ∧ Fits (position + taken line) rest

instance decidableFits : (position : Nat) → (lines : List (List UInt8)) →
    Decidable (Fits position lines)
  | _, [] => isTrue trivial
  | position, line :: rest =>
      have := decidableFits (position + taken line) rest
      inferInstanceAs (Decidable (_ ∧ _))

/-- Add memory behind what a call leaves. -/
def Call.extend (after : List UInt8) (call : Call) : Call :=
  { call with rest := call.rest ++ after }

/-- More memory does not change what a call does. -/
theorem readOption_append (mode : Mode) (memory after : List UInt8) (call : Call)
    (read : readOption mode memory = some call) :
    readOption mode (memory ++ after) = some (call.extend after) := by
  induction memory generalizing mode call with
  | nil => cases read
  | cons byte rest inductionHypothesis =>
    rw [readOption] at read
    rw [List.cons_append, readOption]
    cases reaction : react mode byte with simp only [reaction] at read
    | finish =>
      cases read
      rfl
    | skip next =>
      exact inductionHypothesis next call read
    | copy next =>
      obtain ⟨inner, found, rfl⟩ := Option.map_eq_some_iff.mp read
      simp only [inductionHypothesis next inner found, Option.map_some]
      rfl
    | lookAhead =>
      cases rest with
      | nil => cases read
      | cons =>
        cases read
        rfl

theorem react_zero (mode : Mode) : react mode 0 = .finish := rfl

/-- Memory with a zero in it gives every call a result. The call takes a byte more than it copies,
and if the line goes on, the zero is still ahead. -/
theorem readOption_total (mode : Mode) {memory : List UInt8} (zero : 0 ∈ memory) :
    ∃ call, readOption mode memory = some call ∧
      call.token.length + call.rest.length < memory.length ∧
      (call.stringDone = false → 0 ∈ call.rest) := by
  induction memory generalizing mode with
  | nil => cases zero
  | cons byte rest inductionHypothesis =>
    have later (goesOn : react mode byte ≠ .finish) : 0 ∈ rest := by
      refine (List.mem_cons.mp zero).resolve_left fun here => ?_
      exact goesOn (here ▸ react_zero mode)
    rw [readOption]
    cases reaction : react mode byte with
    | finish =>
      refine ⟨⟨[], mode = .quoting, true, rest⟩, rfl, ?_, fun goesOn => by cases goesOn⟩
      simp
    | skip next =>
      obtain ⟨call, read, shorter, ahead⟩ :=
        inductionHypothesis next (later (by rw [reaction]; exact Reaction.noConfusion))
      refine ⟨call, read, ?_, ahead⟩
      rw [List.length_cons]
      omega
    | copy next =>
      obtain ⟨call, read, shorter, ahead⟩ :=
        inductionHypothesis next (later (by rw [reaction]; exact Reaction.noConfusion))
      refine ⟨call.push byte, by simp only [read, Option.map_some], ?_, ahead⟩
      simp only [Call.push, List.length_cons]
      omega
    | lookAhead =>
      have ahead := later (by rw [reaction]; exact Reaction.noConfusion)
      cases rest with
      | nil => cases ahead
      | cons next rest =>
        refine ⟨⟨[], false, next = 0, next :: rest⟩, rfl, ?_, fun _ => ahead⟩
        simp

/-- White space in front of a zero is skipped within the memory that has the zero. -/
theorem skipSpace_zero {memory : List UInt8} (after : List UInt8) (zero : 0 ∈ memory) :
    0 ∈ skipSpace memory ∧ (skipSpace memory).length ≤ memory.length ∧
      skipSpace (memory ++ after) = skipSpace memory ++ after := by
  induction memory with
  | nil => cases zero
  | cons byte rest inductionHypothesis =>
    unfold skipSpace
    cases space : isSpace byte with
    | true =>
      have later : 0 ∈ rest := by
        refine (List.mem_cons.mp zero).resolve_left fun here => ?_
        cases here
        cases space
      obtain ⟨ahead, shorter, same⟩ := inductionHypothesis later
      rw [List.cons_append, List.dropWhile_cons_of_pos space, List.dropWhile_cons_of_pos space]
      exact ⟨ahead, Nat.le_succ_of_le shorter, same⟩
    | false =>
      rw [List.cons_append, List.dropWhile_cons_of_neg (by simp [space]),
        List.dropWhile_cons_of_neg (by simp [space])]
      exact ⟨zero, Nat.le_refl _, rfl⟩

/-- A call on memory with a zero that is not longer than the buffer. More memory behind does not
change it. -/
theorem processFirstOption_total (memory after : List UInt8) (zero : 0 ∈ memory)
    (short : memory.length ≤ optBufSize) :
    ∃ call, processFirstOption memory = some call ∧
      processFirstOption (memory ++ after) = some (call.extend after) ∧
      call.rest.length < memory.length ∧ (call.stringDone = false → 0 ∈ call.rest) := by
  obtain ⟨zeroAhead, shorter, same⟩ := skipSpace_zero after zero
  obtain ⟨call, read, takes, ahead⟩ := readOption_total .plain zeroAhead
  have fits : call.token.length < optBufSize := by omega
  refine ⟨call, processFirstOption_of_read rfl read fits,
    processFirstOption_of_read same (readOption_append .plain _ after call read) fits, ?_,
    ahead⟩
  omega

/-- The calls for a line on memory with a zero, with any fuel that is at least its length. -/
theorem processLine_total (memory after : List UInt8) (fuel more : Nat) (zero : 0 ∈ memory)
    (short : memory.length ≤ optBufSize) (enough : memory.length ≤ fuel)
    (enoughMore : memory.length ≤ more) :
    ∃ calls last, processLine fuel memory = some (calls ++ [last]) ∧
      processLine more (memory ++ after) =
        some ((calls ++ [last]).map (Call.extend after)) ∧
      last.rest.length < memory.length := by
  induction fuel generalizing memory more with
  | zero =>
    have empty := List.length_eq_zero_iff.mp (Nat.le_zero.mp enough)
    rw [empty] at zero
    cases zero
  | succ _ inductionHypothesis =>
    obtain ⟨call, result, extended, shorter, ahead⟩ :=
      processFirstOption_total memory after zero short
    obtain ⟨more, rfl⟩ : ∃ less, more = less + 1 := ⟨more - 1, by omega⟩
    cases goesOn : call.stringDone with
    | true =>
      have done : call.rc = 0 := by simp [Call.rc, goesOn]
      have doneExtended : (call.extend after).rc = 0 := done
      refine ⟨[], call, ?_, ?_, shorter⟩
      · simp [processLine, result, done]
      · rw [List.nil_append, List.map_singleton]
        simp only [processLine, extended]
        exact if_neg (by rw [doneExtended]; decide)
    | false =>
      have one : call.rc = 1 := by simp [Call.rc, goesOn]
      have oneExtended : (call.extend after).rc = 1 := one
      obtain ⟨calls, last, following, followingExtended, lastShorter⟩ :=
        inductionHypothesis call.rest more (ahead goesOn) (by omega) (by omega) (by omega)
      refine ⟨call :: calls, last, ?_, ?_, by omega⟩
      · simp [processLine, result, one, following]
      · simp only [processLine, extended]
        have left : (call.extend after).rest = call.rest ++ after := rfl
        rw [if_pos oneExtended, left, followingExtended]
        rfl

theorem handed_extend (calls : List Call) (after : List UInt8) :
    handed (calls.map (Call.extend after)) = handed calls := by
  unfold handed
  rw [List.map_map]
  rfl

variable (fuel : Nat) (line : List UInt8)

/-- What the calls for a line do in the buffer. They hand on its options, and take at least one
byte, and none behind its zero. -/
theorem processLine_line (after : List UInt8) (fits : line.length < optBufSize) :
    ∃ calls, processLine (optBufSize + 1) (line ++ [0] ++ after) = some calls ∧
      handed calls = optionsOf line ∧
      (leftBy calls).length + taken line = line.length + 1 + after.length ∧ 0 < taken line := by
  have size : (line ++ [0]).length = line.length + 1 := by simp
  obtain ⟨calls, last, alone, extended, shorter⟩ :=
    processLine_total (line ++ [0]) after (line.length + 2) (optBufSize + 1) (by simp)
      (by omega) (by omega) (by omega)
  have own : callsFor line = calls ++ [last] := by simp [callsFor, alone]
  have left : leftBy (callsFor line) = last.rest := by simp [own, leftBy]
  refine ⟨_, extended, ?_, ?_, ?_⟩
  · rw [handed_extend, optionsOf, own]
  · have behind : leftBy ((calls ++ [last]).map (Call.extend after)) = last.rest ++ after := by
      simp [leftBy, Call.extend]
    rw [behind, taken, left, List.length_append]
    omega
  · rw [taken, left]
    omega

/-- The buffer keeps its size, and has the stored bytes behind the position. -/
theorem store_spec (buffer : List UInt8) (position : Nat) (bytes : List UInt8)
    (fits : position + bytes.length ≤ buffer.length) :
    (store buffer position bytes).length = buffer.length ∧
      (store buffer position bytes).drop position =
        bytes ++ buffer.drop (position + bytes.length) := by
  have front : (buffer.take position).length = position := by
    rw [List.length_take]
    omega
  unfold store
  constructor
  · simp only [List.length_append, List.length_drop, front]
    omega
  · rw [List.append_assoc, List.drop_append_of_le_length (by omega),
      List.drop_of_length_le (by omega), List.nil_append]

/-- A turn of the loop in which the line fits the buffer. -/
theorem fileLoop_line (reader : Reader) (line : List UInt8) (stream : Stream)
    (size : reader.buffer.length = optBufSize) (goesOn : reader.stream.eof = false)
    (got : getline reader.stream = (line, stream))
    (fits : reader.position + line.length < optBufSize) :
    ∃ buffer, buffer.length = optBufSize ∧ 0 < taken line ∧
      reader.position + taken line ≤ optBufSize ∧
      fileLoop (fuel + 1) reader =
        fileLoop fuel ⟨buffer, reader.position + taken line, stream,
          reader.given ++ optionsOf line⟩ := by
  have bytes : (line ++ [0]).length = line.length + 1 := by simp
  obtain ⟨kept, behind⟩ :=
    store_spec reader.buffer reader.position (line ++ [0]) (by omega)
  obtain ⟨calls, called, options, left, some_⟩ :=
    processLine_line line (reader.buffer.drop (reader.position + (line ++ [0]).length)) (by omega)
  rw [List.length_drop] at left
  refine ⟨store reader.buffer reader.position (line ++ [0]), kept.trans size, some_, by omega, ?_⟩
  have position : optBufSize - (leftBy calls).length = reader.position + taken line := by omega
  rw [fileLoop]
  simp only [goesOn, Bool.false_eq_true, if_false, got, fits, if_true, behind, called, position,
    options]

theorem fileLoop_outside (reader : Reader) (line : List UInt8) (stream : Stream)
    (goesOn : reader.stream.eof = false) (got : getline reader.stream = (line, stream))
    (long : optBufSize ≤ reader.position + line.length) :
    fileLoop (fuel + 1) reader = .outside := by
  rw [fileLoop]
  simp only [goesOn, Bool.false_eq_true, if_false, got, Nat.not_lt.mpr long]

/-- A stream that has failed before the end of the file leads out of the buffer. -/
theorem fileLoop_failed (reader : Reader) (size : reader.buffer.length = optBufSize)
    (goesOn : reader.stream.eof = false) (failed : reader.stream.fail = true)
    (inside : reader.position ≤ optBufSize) (enough : optBufSize < fuel + reader.position) :
    fileLoop fuel reader = .outside := by
  induction fuel generalizing reader with
  | zero => omega
  | succ fuel inductionHypothesis =>
    have got : getline reader.stream = ([], reader.stream) := by
      obtain ⟨buffer, position, ⟨rest, eof, fail⟩, given⟩ := reader
      cases failed
      simp [getline]
    by_cases fits : reader.position + ([] : List UInt8).length < optBufSize
    · obtain ⟨buffer, kept, some_, within, turn⟩ :=
        fileLoop_line fuel reader [] reader.stream size goesOn got fits
      rw [turn]
      exact inductionHypothesis _ kept goesOn failed within (by dsimp only; omega)
    · exact fileLoop_outside fuel reader [] reader.stream goesOn got (Nat.not_lt.mp fits)

/-- A line that is as long as the buffer makes the stream fail, and leads out of the buffer. -/
theorem fileLoop_long {fuel : Nat} {reader : Reader}
    (size : reader.buffer.length = optBufSize) (goesOn : reader.stream.eof = false)
    (good : reader.stream.fail = false) (inside : reader.position ≤ optBufSize)
    (enough : optBufSize < fuel + reader.position)
    (long : optBufSize ≤ (reader.stream.rest.takeWhile fun byte => byte ≠ 10).length) :
    fileLoop fuel reader = .outside := by
  obtain ⟨fuel, rfl⟩ : ∃ less, fuel = less + 1 := ⟨fuel - 1, by omega⟩
  have whole : optBufSize ≤ reader.stream.rest.length :=
    Nat.le_trans long (List.takeWhile_sublist _).length_le
  have got : getline reader.stream =
      (reader.stream.rest.take (optBufSize - 1),
        ⟨reader.stream.rest.drop (optBufSize - 1), false, true⟩) := by
    unfold getline
    simp only [goesOn, good, Bool.or_self, Bool.false_eq_true, if_false, Nat.not_lt.mpr long]
  have stored : (reader.stream.rest.take (optBufSize - 1)).length = optBufSize - 1 := by
    rw [List.length_take]
    omega
  by_cases fits : reader.position + (reader.stream.rest.take (optBufSize - 1)).length < optBufSize
  · obtain ⟨buffer, kept, some_, within, turn⟩ :=
      fileLoop_line fuel reader _ _ size goesOn got fits
    rw [turn]
    exact fileLoop_failed fuel _ kept rfl rfl within (by dsimp only; omega)
  · exact fileLoop_outside fuel reader _ _ goesOn got (Nat.not_lt.mp fits)

theorem getline_last (noEnd : 10 ∉ line) (short : line.length < optBufSize) :
    getline ⟨line, false, false⟩ = (line, ⟨[], true, line = []⟩) := by
  obtain ⟨taken, left⟩ := cut_none 10 line noEnd
  unfold getline
  simp only [Bool.or_self, Bool.false_eq_true, if_false, taken, left, short, if_true]

theorem getline_line (rest : List UInt8) (noEnd : 10 ∉ line) (short : line.length < optBufSize) :
    getline ⟨line ++ 10 :: rest, false, false⟩ = (line, ⟨rest, false, false⟩) := by
  obtain ⟨taken, left⟩ := cut_run 10 line rest noEnd
  unfold getline
  simp only [Bool.or_self, Bool.false_eq_true, if_false, taken, left, short, if_true]

/-- A line that leads out of the buffer, with or without an end. -/
theorem fileLoop_unfit (reader : Reader) (line : List UInt8)
    (size : reader.buffer.length = optBufSize) (inside : reader.position ≤ optBufSize)
    (enough : optBufSize < fuel + reader.position) (goesOn : reader.stream.eof = false)
    (good : reader.stream.fail = false)
    (cut : (reader.stream.rest.takeWhile fun byte => byte ≠ 10) = line)
    (got : line.length < optBufSize → ∃ stream, getline reader.stream = (line, stream))
    (unfit : ¬reader.position + line.length < optBufSize) : fileLoop fuel reader = .outside := by
  by_cases short : line.length < optBufSize
  · obtain ⟨stream, read⟩ := got short
    obtain ⟨fuel, rfl⟩ : ∃ less, fuel = less + 1 := ⟨fuel - 1, by omega⟩
    exact fileLoop_outside fuel reader line stream goesOn read (Nat.not_lt.mp unfit)
  · rw [← cut] at short
    exact fileLoop_long size goesOn good inside enough (Nat.not_lt.mp short)

/-- The loop on a stream that is good: it hands on the options of every line and returns if the
lines fit behind the position, and leaves the buffer if not. -/
theorem fileLoop_eq (reader : Reader) (text : List UInt8)
    (size : reader.buffer.length = optBufSize) (inside : reader.position ≤ optBufSize)
    (enough : optBufSize < fuel + reader.position) (stream : reader.stream = ⟨text, false, false⟩) :
    fileLoop fuel reader =
      if Fits reader.position (text.splitOn 10) then
        .returned (reader.given ++ (text.splitOn 10).flatMap optionsOf)
      else .outside := by
  induction fuel generalizing reader text with
  | zero => omega
  | succ fuel inductionHypothesis =>
    by_cases ends : 10 ∈ text
    · obtain ⟨line, rest, rfl, noEnd⟩ := List.eq_append_cons_of_mem ends
      rw [List.splitOn_append_cons_self_of_not_mem noEnd]
      have got (short : line.length < optBufSize) :
          getline reader.stream = (line, ⟨rest, false, false⟩) := by
        rw [stream]
        exact getline_line line rest noEnd short
      by_cases fits : reader.position + line.length < optBufSize
      · obtain ⟨buffer, kept, some_, within, turn⟩ :=
          fileLoop_line fuel reader line _ size (by rw [stream]) (got (by omega)) fits
        rw [turn, inductionHypothesis _ rest kept within (by dsimp only; omega) rfl]
        simp only [Fits, fits, true_and, List.flatMap_cons, List.append_assoc]
      · rw [if_neg fun fitting => fits fitting.1]
        exact fileLoop_unfit (fuel + 1) reader line size inside enough (by rw [stream])
          (by rw [stream]) (by rw [stream]; exact (cut_run 10 line rest noEnd).1)
          (fun short => ⟨_, got short⟩) fits
    · rw [List.splitOn_eq_singleton ends]
      have got (short : text.length < optBufSize) :
          getline reader.stream = (text, ⟨[], true, text = []⟩) := by
        rw [stream]
        exact getline_last text ends short
      by_cases fits : reader.position + text.length < optBufSize
      · obtain ⟨buffer, kept, some_, within, turn⟩ :=
          fileLoop_line fuel reader text _ size (by rw [stream]) (got (by omega)) fits
        obtain ⟨fuel, rfl⟩ : ∃ less, fuel = less + 1 := ⟨fuel - 1, by omega⟩
        rw [turn, fileLoop, if_pos rfl, if_pos ⟨fits, trivial⟩]
        simp
      · rw [if_neg fun fitting => fits fitting.1]
        exact fileLoop_unfit (fuel + 1) reader text size inside enough (by rw [stream])
          (by rw [stream]) (by rw [stream]; exact (cut_none 10 text ends).1)
          (fun short => ⟨_, got short⟩) fits

theorem processOptionsFromFile_eq {buffer : List UInt8} (file : List UInt8) (size : buffer.length = optBufSize) :
    processOptionsFromFile buffer file =
      if Fits 0 (file.splitOn 10) then .returned ((file.splitOn 10).flatMap optionsOf)
      else .outside :=
  fileLoop_eq (optBufSize + 1) ⟨buffer, 0, ⟨file, false, false⟩, []⟩ file size (Nat.zero_le _)
    (Nat.lt_succ_self _) rfl

end Mola.OptionTokens
