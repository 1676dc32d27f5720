import Mola.Decimals

/-!
# The tokenizer of option lines

`process_first_option` takes one option from the front of a line. It skips white space, then reads
bytes until white space, a comment or the end. Single quotes and backslashes quote. A byte is read
ahead to tell whether the line goes on, and the caller repeats the call while it does.

The memory behind the pointer is a list of bytes. A call that reads beyond it, or that writes more
than `OPTBUFSIZE` bytes to its copy, has no result. A line that lists options, quoted one way or the
other, gives back these options.
-/

namespace Mola.OptionTokens

open Decimals

/-- `OPTBUFSIZE`. -/
def optBufSize : Nat := 1024

/-- The flags `quoting` and `quotenext`, which are never both set. -/
inductive Mode where
  | plain
  | quoting
  | quotenext
deriving DecidableEq

/-- What a call leaves: the copy, whether a quote is open, `string_done`, and the memory behind the
pointer. -/
structure Call where
  token : List UInt8
  quoting : Bool
  stringDone : Bool
  rest : List UInt8
deriving DecidableEq

/-- What `process_first_option` returns. -/
def Call.rc (call : Call) : Nat := if call.stringDone then 0 else 1

/-- A byte is copied. -/
def Call.push (byte : UInt8) (call : Call) : Call := { call with token := byte :: call.token }

/-- What the loop does with a byte: it is done, it goes on with other flags, it copies the byte and
goes on, or it is done unless the byte ahead says that the line goes on. -/
inductive Reaction where
  | finish
  | skip (mode : Mode)
  | copy (mode : Mode)
  | lookAhead
deriving DecidableEq

/-- The body of the loop of `process_first_option`. -/
def react (mode : Mode) (byte : UInt8) : Reaction :=
  if byte = 0 then .finish
  else
    match mode with
    | .quoting => if byte = 39 then .skip .plain else .copy .quoting
    | .quotenext => .copy .plain
    | .plain =>
        if byte = 39 then .skip .quoting
        else if byte = 92 then .skip .quotenext
        else if byte = 35 then .finish
        else if isSpace byte then .lookAhead
        else .copy .plain

/-- White space was read: the line is done if the next byte is the end. -/
def lookAhead : List UInt8 → Option Call
  | [] => none
  | ahead :: rest => some ⟨[], false, ahead = 0, ahead :: rest⟩

/-- The loop of `process_first_option`. -/
def readOption (mode : Mode) : List UInt8 → Option Call
  | [] => none
  | byte :: rest =>
      match react mode byte with
      | .finish => some ⟨[], mode = .quoting, true, rest⟩
      | .skip next => readOption next rest
      | .copy next => (readOption next rest).map (Call.push byte)
      | .lookAhead => lookAhead rest

/-- `process_first_option`. The copy and its zero have to fit the buffer. -/
def processFirstOption (memory : List UInt8) : Option Call :=
  match readOption .plain (skipSpace memory) with
  | none => none
  | some call => if call.token.length < optBufSize then some call else none

/-- The calls for one line: repeat while the call returns one. Every call takes a byte. -/
def processLine : Nat → List UInt8 → Option (List Call)
  | 0, _ => none
  | fuel + 1, memory =>
      match processFirstOption memory with
      | none => none
      | some call =>
          if call.rc = 1 then (processLine fuel call.rest).map fun calls => call :: calls
          else some [call]

/-- The strings that calls hand to `process_one_option`. An empty copy is not handed on. -/
def handed (calls : List Call) : List (List UInt8) :=
  (calls.map Call.token).filter fun token => token ≠ []

/-- Only white space. -/
def Spaces (text : List UInt8) : Prop := ∀ byte ∈ text, isSpace byte = true

/-- Nothing, or a comment. -/
def Comment (text : List UInt8) : Prop := text = [] ∨ ∃ rest, text = 35 :: rest

/-- The two ways to quote an option: a backslash before every byte, or single quotes around an
option without one. -/
inductive Quotes : List UInt8 → List UInt8 → Prop where
  | backslash (option : List UInt8) : Quotes option (option.flatMap fun byte => [92, byte])
  | single (option : List UInt8) (none_ : 39 ∉ option) : Quotes option (39 :: (option ++ [39]))

/-- What can follow an option on a line that lists further options. -/
inductive Follows : List (List UInt8) → List UInt8 → Prop where
  | last (trail comment : List UInt8) (spaces : Spaces trail) (ends : Comment comment) :
      Follows [] (trail ++ comment)
  | next (gap option quoted : List UInt8) (options : List (List UInt8)) (text : List UInt8)
      (spaces : Spaces gap) (some_ : gap ≠ []) (nonempty : option ≠ []) (nonzero : 0 ∉ option)
      (quotes : Quotes option quoted) (follows : Follows options text) :
      Follows (option :: options) (gap ++ (quoted ++ text))

/-- A line that lists options: white space that may be missing, and the first option with what
follows it, or nothing but white space and a comment. -/
inductive Lists : List (List UInt8) → List UInt8 → Prop where
  | empty (text : List UInt8) (follows : Follows [] text) : Lists [] text
  | first (lead option quoted : List UInt8) (options : List (List UInt8)) (text : List UInt8)
      (spaces : Spaces lead) (nonempty : option ≠ []) (nonzero : 0 ∉ option)
      (quotes : Quotes option quoted) (follows : Follows options text) :
      Lists (option :: options) (lead ++ (quoted ++ text))

/-- Copy several bytes. -/
def Call.copy (bytes : List UInt8) (call : Call) : Call :=
  { call with token := bytes ++ call.token }

theorem push_copy (byte : UInt8) (bytes : List UInt8) (call : Option Call) :
    (call.map (Call.copy bytes)).map (Call.push byte) = call.map (Call.copy (byte :: bytes)) := by
  cases call <;> rfl

theorem copy_nil (call : Option Call) : call.map (Call.copy []) = call := by
  cases call <;> rfl

section Bytes

variable (byte : UInt8) (rest : List UInt8)

theorem readOption_quotenext (nonzero : byte ≠ 0) :
    readOption .quotenext (byte :: rest) = (readOption .plain rest).map (Call.push byte) := by
  have copies : react .quotenext byte = .copy .plain := if_neg nonzero
  rw [readOption, copies]

theorem readOption_quoting (nonzero : byte ≠ 0) (other : byte ≠ 39) :
    readOption .quoting (byte :: rest) = (readOption .quoting rest).map (Call.push byte) := by
  have copies : react .quoting byte = .copy .quoting := (if_neg nonzero).trans (if_neg other)
  rw [readOption, copies]

theorem react_space (space : isSpace byte = true) : react .plain byte = .lookAhead := by
  have nonzero : byte ≠ 0 := by rintro rfl; cases space
  have noQuote : byte ≠ 39 := by rintro rfl; cases space
  have noBackslash : byte ≠ 92 := by rintro rfl; cases space
  have noComment : byte ≠ 35 := by rintro rfl; cases space
  rw [react, if_neg nonzero]
  simp only [if_neg noQuote, if_neg noBackslash, if_neg noComment, space, if_true]

/-- White space ends an option, and the next byte tells whether the line goes on. -/
theorem readOption_space (ahead : UInt8) (space : isSpace byte = true) :
    readOption .plain (byte :: ahead :: rest) = some ⟨[], false, ahead = 0, ahead :: rest⟩ := by
  rw [readOption, react_space byte space]
  rfl

end Bytes

variable {option : List UInt8}

/-- Bytes with a backslash before each are copied. -/
theorem readOption_backslash (text : List UInt8) (nonzero : 0 ∉ option) :
    readOption .plain ((option.flatMap fun byte => [92, byte]) ++ text) =
      (readOption .plain text).map (Call.copy option) := by
  induction option with
  | nil => rw [copy_nil, List.flatMap_nil, List.nil_append]
  | cons byte rest inductionHypothesis =>
    obtain ⟨here, later⟩ := not_or.mp (mt List.mem_cons.mpr nonzero)
    rw [List.flatMap_cons, List.append_assoc]
    change readOption .quotenext (byte :: ((rest.flatMap fun byte => [92, byte]) ++ text)) = _
    rw [readOption_quotenext byte _ (Ne.symm here), inductionHypothesis later, push_copy]

/-- Bytes between single quotes are copied. -/
theorem readOption_single (text : List UInt8) (nonzero : 0 ∉ option) (none_ : 39 ∉ option) :
    readOption .quoting (option ++ 39 :: text) =
      (readOption .plain text).map (Call.copy option) := by
  induction option with
  | nil =>
    rw [copy_nil, List.nil_append]
    rfl
  | cons byte _ inductionHypothesis =>
    obtain ⟨here, later⟩ := not_or.mp (mt List.mem_cons.mpr nonzero)
    obtain ⟨other, others⟩ := not_or.mp (mt List.mem_cons.mpr none_)
    rw [List.cons_append, readOption_quoting byte _ (Ne.symm here) (Ne.symm other),
      inductionHypothesis later others, push_copy]

/-- A quoted option is copied, and reading goes on behind it. -/
theorem readOption_quoted {quoted : List UInt8} (text : List UInt8) (nonzero : 0 ∉ option)
    (quotes : Quotes option quoted) :
    readOption .plain (quoted ++ text) = (readOption .plain text).map (Call.copy option) := by
  cases quotes with
  | backslash => exact readOption_backslash text nonzero
  | single none_ =>
    have inside := readOption_single text nonzero none_
    rw [List.cons_append, List.append_assoc]
    exact inside

/-- A quoted option that is not empty starts with a quote or a backslash, and is longer than the
option. -/
theorem Quotes.spec {quoted : List UInt8} (quotes : Quotes option quoted) (nonempty : option ≠ []) :
    (∃ byte rest, quoted = byte :: rest ∧ isSpace byte = false ∧ byte ≠ 0) ∧
      option.length < quoted.length := by
  cases quotes with
  | backslash =>
    cases option with
    | nil => exact absurd rfl nonempty
    | cons byte rest =>
      refine ⟨⟨92, byte :: rest.flatMap fun byte => [92, byte], rfl, by decide, by decide⟩, ?_⟩
      have double : (rest.flatMap fun byte => [92, byte]).length = rest.length * 2 := by
        simp
      rw [List.flatMap_cons, List.length_append, double, List.length_cons]
      simp only [List.length_cons, List.length_nil]
      omega
  | single =>
    refine ⟨⟨39, option ++ [39], rfl, by decide, by decide⟩, ?_⟩
    simp only [List.length_cons, List.length_append, List.length_nil]
    omega

/-- A comment or the end of the line ends an option and the line. It is no white space. -/
theorem readOption_comment {comment : List UInt8} (after : List UInt8) (ends : Comment comment) :
    Stops isSpace (comment ++ 0 :: after) ∧
      ∃ left, readOption .plain (comment ++ 0 :: after) = some ⟨[], false, true, left⟩ := by
  obtain rfl | ⟨rest, rfl⟩ := ends
  · refine ⟨?_, after, rfl⟩
    rintro byte ⟨⟩
    rfl
  · refine ⟨?_, rest ++ 0 :: after, rfl⟩
    rintro byte ⟨⟩
    rfl

/-- White space and a comment end an option and the line, or leave a line without options. -/
theorem readOption_last {trail comment : List UInt8} (after : List UInt8) (spaces : Spaces trail)
    (ends : Comment comment) :
    ∃ call, readOption .plain (trail ++ comment ++ 0 :: after) = some call ∧ call.token = [] ∧
      (call.stringDone = false → ∃ left, Lists [] left ∧
        left.length < (trail ++ comment).length ∧ call.rest = left ++ 0 :: after) := by
  cases trail with
  | nil =>
    obtain ⟨-, left, read⟩ := readOption_comment after ends
    exact ⟨⟨[], false, true, left⟩, read, rfl, fun goesOn => by cases goesOn⟩
  | cons space trail =>
    have here : isSpace space = true := spaces space List.mem_cons_self
    have later : Spaces trail := fun byte member => spaces byte (List.mem_cons_of_mem space member)
    obtain ⟨next, rest, split⟩ : ∃ next rest, trail ++ comment ++ 0 :: after = next :: rest :=
      List.exists_cons_of_ne_nil (by simp)
    refine ⟨⟨[], false, next = 0, next :: rest⟩, ?_, rfl, fun _ => ?_⟩
    · rw [List.cons_append, List.cons_append, split, readOption_space space rest next here]
    · refine ⟨trail ++ comment, .empty _ (.last trail comment later ends), ?_, split.symm⟩
      simp

/-- What follows an option ends it. If the line goes on, it lists the options that remain, and is
shorter. If not, none remain. -/
theorem readOption_follows {options : List (List UInt8)} {text : List UInt8} (after : List UInt8)
    (follows : Follows options text) :
    ∃ call, readOption .plain (text ++ 0 :: after) = some call ∧ call.token = [] ∧
      (call.stringDone = true → options = []) ∧
      (call.stringDone = false → ∃ left, Lists options left ∧ left.length < text.length ∧
        call.rest = left ++ 0 :: after) := by
  cases follows with
  | last _ _ spaces ends =>
    obtain ⟨call, read, empty, goesOn⟩ := readOption_last after spaces ends
    exact ⟨call, read, empty, fun _ => rfl, goesOn⟩
  | next gap option quoted options text spaces some_ nonempty nonzero quotes follows =>
    obtain ⟨⟨byte, rest, starts, -, notZero⟩, -⟩ := quotes.spec nonempty
    cases gap with
    | nil => exact absurd rfl some_
    | cons space gap =>
      have here : isSpace space = true := spaces space List.mem_cons_self
      have later : Spaces gap := fun byte member => spaces byte (List.mem_cons_of_mem space member)
      obtain ⟨next, left, split⟩ : ∃ next left,
          gap ++ (quoted ++ text) ++ 0 :: after = next :: left :=
        List.exists_cons_of_ne_nil (by simp)
      have goesOn : next ≠ 0 := by
        cases gap with
        | nil =>
          rw [starts, List.nil_append] at split
          cases split
          exact notZero
        | cons =>
          cases split
          intro zero
          cases zero ▸ later next List.mem_cons_self
      refine ⟨⟨[], false, next = 0, next :: left⟩, ?_, rfl, ?_, fun _ => ?_⟩
      · rw [List.cons_append, List.cons_append, split, readOption_space space left next here]
      · intro done
        exact absurd (of_decide_eq_true done) goesOn
      · refine ⟨gap ++ (quoted ++ text),
          .first gap option quoted options text later nonempty nonzero quotes follows, ?_,
          split.symm⟩
        simp

theorem processFirstOption_of_read {memory text : List UInt8} {call : Call}
    (skipped : skipSpace memory = text) (read : readOption .plain text = some call)
    (fits : call.token.length < optBufSize) : processFirstOption memory = some call := by
  unfold processFirstOption
  simp only [skipped, read, if_pos fits]

/-- A call on a line hands on its first option, or nothing if there is none, and leaves a shorter
line that lists the others. -/
theorem processFirstOption_lists {options : List (List UInt8)} {text : List UInt8} (after : List UInt8)
    (lists : Lists options text) (fits : text.length < optBufSize) :
    ∃ call, processFirstOption (text ++ 0 :: after) = some call ∧
      ∃ others, handed [call] ++ others = options ∧ (call.stringDone = true → others = []) ∧
        (call.stringDone = false → ∃ left, Lists others left ∧ left.length < text.length ∧
          call.rest = left ++ 0 :: after) := by
  cases lists with
  | empty _ follows =>
    cases follows with
    | last trail comment spaces ends =>
      obtain ⟨stops, left, read⟩ := readOption_comment after ends
      have skipped : skipSpace (trail ++ comment ++ 0 :: after) = comment ++ 0 :: after := by
        rw [List.append_assoc]
        exact dropWhile_run isSpace trail _ spaces stops
      refine ⟨⟨[], false, true, left⟩,
        processFirstOption_of_read skipped read (Nat.zero_lt_succ _), [], rfl, fun _ => rfl,
        ?_⟩
      intro goesOn
      cases goesOn
  | first lead option quoted options text spaces nonempty nonzero quotes follows =>
    obtain ⟨⟨byte, rest, starts, solid, -⟩, longer⟩ := quotes.spec nonempty
    obtain ⟨call, read, empty, done, goesOn⟩ := readOption_follows after follows
    have stops : Stops isSpace (quoted ++ (text ++ 0 :: after)) := by
      rw [starts]
      rintro first ⟨⟩
      exact solid
    have skipped : skipSpace (lead ++ (quoted ++ text) ++ 0 :: after) =
        quoted ++ (text ++ 0 :: after) := by
      rw [List.append_assoc, List.append_assoc]
      exact dropWhile_run isSpace lead _ spaces stops
    have copied : readOption .plain (quoted ++ (text ++ 0 :: after)) =
        some (call.copy option) := by
      rw [readOption_quoted _ nonzero quotes, read, Option.map_some]
    have token : (call.copy option).token = option := by
      simp [Call.copy, empty]
    simp only [List.length_append] at fits
    refine ⟨call.copy option, processFirstOption_of_read skipped copied ?_, options, ?_, done,
      fun more => ?_⟩
    · rw [token]
      omega
    · simp [handed, token, nonempty]
    · obtain ⟨left, lists, shorter, rest_⟩ := goesOn more
      refine ⟨left, lists, ?_, rest_⟩
      simp only [List.length_append]
      omega

/-- The calls before the last return one, the last returns zero, and they hand on the options. -/
def HandOn (calls : List Call) (options : List (List UInt8)) : Prop :=
  ∃ before last, calls = before ++ [last] ∧ (∀ call ∈ before, call.rc = 1) ∧ last.rc = 0 ∧
    handed calls = options

/-- The tokenizer inverts quoting: on every line that lists options, with white space between them
and a comment behind, and that fits the buffer, the repeated calls hand on exactly these options
in their order. All but the last return one, and the last returns zero. -/
theorem processLine_lists (options : List (List UInt8)) (text after : List UInt8) (fuel : Nat)
    (lists : Lists options text) (fits : text.length < optBufSize) (enough : text.length < fuel) :
    ∃ calls, processLine fuel (text ++ 0 :: after) = some calls ∧ HandOn calls options := by
  induction fuel generalizing options text with
  | zero => cases enough
  | succ _ inductionHypothesis =>
    obtain ⟨call, result, others, first, done, goesOn⟩ :=
      processFirstOption_lists after lists fits
    cases more : call.stringDone with
    | true =>
      have zero : call.rc = 0 := by simp [Call.rc, more]
      refine ⟨[call], by simp [processLine, result, zero], [], call, rfl, ?_, zero, ?_⟩
      · intro other member
        cases member
      · rw [← first, done more, List.append_nil]
    | false =>
      have one : call.rc = 1 := by simp [Call.rc, more]
      obtain ⟨left, listed, shorter, rest⟩ := goesOn more
      obtain ⟨calls, following, before, last, split, ones, zero, handedOn⟩ :=
        inductionHypothesis others left listed (by omega) (by omega)
      refine ⟨call :: calls, by simp [processLine, result, one, rest, following],
        call :: before, last, by rw [split, List.cons_append], ?_, zero, ?_⟩
      · intro other member
        rcases List.mem_cons.mp member with rfl | earlier
        · exact one
        · exact ones other earlier
      · have both : handed (call :: calls) = handed [call] ++ handed calls := by
          simp [handed, List.filter_cons]
          split <;> rfl
        rw [both, handedOn, first]

/-- The line has an option with a hash in single quotes, one of a blank and a backslash with
backslashes, and a comment. -/
theorem lists_quoted :
    Lists [[35, 97], [32, 92]] [32, 39, 35, 97, 39, 32, 92, 32, 92, 92, 32, 35, 120] :=
  .first [32] [35, 97] [39, 35, 97, 39] [[32, 92]] [32, 92, 32, 92, 92, 32, 35, 120]
    (by simp [Spaces, isSpace]) (by decide) (by decide) (.single [35, 97] (by decide))
    (.next [32] [32, 92] [92, 32, 92, 92] [] [32, 35, 120] (by simp [Spaces, isSpace]) (by decide)
      (by decide) (by decide) (.backslash [32, 92])
      (.last [32] [35, 120] (by simp [Spaces, isSpace]) (.inr ⟨[120], rfl⟩)))

/-- The two options are handed on. -/
theorem processLine_quoted :
    ∃ calls, processLine 20 ([32, 39, 35, 97, 39, 32, 92, 32, 92, 92, 32, 35, 120] ++ [0]) =
      some calls ∧ HandOn calls [[35, 97], [32, 92]] :=
  processLine_lists [[35, 97], [32, 92]] _ [] 20 lists_quoted (by decide) (by decide)

end Mola.OptionTokens
