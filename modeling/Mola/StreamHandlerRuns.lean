import Mola.MailboxContents
import Mola.Runs
import Mola.StreamHandler

/-!
# Runs of the write path

The published chains are, in order, those that were taken from the mailbox, those
in its private list, and those on its stack. The bytes of the taken chains are what
the socket holds followed by what is left of the current chain. One step keeps this
account, hence every run does, as long as no chain has an empty buffer and no batch
reaches 2^32 chains.

An empty buffer makes `write` return zero, which ends the call as if the socket were
full. The buffer stays the current one, every later call ends at it in the same way,
and no later chain is written.
-/

namespace Mola.StreamHandler

open Chains Mailbox

universe u v

/-- What is left of the current chain. -/
def unwritten (wrBuf : Option StreamBuffer) (written : Nat) : List UInt8 :=
  match wrBuf with
  | none => []
  | some buffer => buffer.data.drop written ++ buffer.link.flatten

/-- The handler is between two chains, or inside a buffer of a chain without empty
buffers. -/
def Midway (wrBuf : Option StreamBuffer) (written : Nat) : Prop :=
  match wrBuf with
  | none => written = 0
  | some buffer => written < buffer.data.length ∧ ∀ data ∈ buffer.link, data ≠ []

/-- A thread that holds the lock. -/
def Position.within {Item : Type u} : Position Item → Bool
  | .inside _ _ => true
  | _ => false

/-- What a position says about the handler: past the entry of `dequeue` there is no
current buffer and no private chain, only an item is exchanged for EMPTY, and `write`
is called with a buffer. -/
def Agrees {Item : Type u} (mailbox : Mailbox Item) (wrBuf : Option StreamBuffer) :
    Position Item → Prop
  | .inside .dequeueLoad _ => mailbox.numInque = 0 ∧ wrBuf = none
  | .inside (.dequeueExchange seen) _ =>
      mailbox.numInque = 0 ∧ wrBuf = none ∧ ∃ first, seen = .item first
  | .inside .isBlocked _ => mailbox.numInque = 0 ∧ wrBuf = none
  | .inside .blockLoad _ => mailbox.numInque = 0 ∧ wrBuf = none
  | .inside .blockExchange _ => mailbox.numInque = 0 ∧ wrBuf = none
  | .inside .write _ => wrBuf ≠ none
  | .inside .fault _ => False
  | _ => True

variable {Item : Type u} {Thread : Type v}

/-- The lock admits one thread, and every position agrees with the handler. -/
structure Guarded (state : State Item Thread) : Prop where
  locked : ∀ thread, (state.threads thread).within = true → state.lock = true
  single : ∀ one other, (state.threads one).within = true →
    (state.threads other).within = true → one = other
  agrees : ∀ thread, Agrees state.mailbox state.wrBuf (state.threads thread)

/-- Where the published chains and their bytes are. -/
structure Account (state : State Item Thread) (stacked : List Item) (queued : Nat → List Item)
    (served : List StreamBuffer) : Prop where
  sound : Sound 1 (fun _ => 0) state.mailbox state.allocated (Position.call ∘ state.threads)
    stacked queued
  height : state.onStack = stacked.length
  order : state.published = served ++ (held 1 queued ++ stacked.reverse).map state.buffers
  bytes : stream served = state.socket ++ unwritten state.wrBuf state.written
  midway : Midway state.wrBuf state.written
  solid : ∀ item ∈ state.allocated, (state.buffers item).solid = true

/-- What a call that returned after full writes must have left. -/
def Empties (left : Return Item) : Prop :=
  left.full = true → left.wrBuf = none ∧ left.stack = .blocked ∧ left.sent = true

/-- The invariant of the runs. -/
structure Invariant (state : State Item Thread) : Prop where
  guarded : Guarded state
  account : ∃ stacked queued served, Account state stacked queued served
  returned : ∀ left ∈ state.returns, Empties left

theorem stream_append (first second : List StreamBuffer) :
    stream (first ++ second) = stream first ++ stream second :=
  List.flatMap_append

theorem invariant_drains {state : State Item Thread} (invariant : Invariant state) :
    Drains state := by
  obtain ⟨_, ⟨stacked, queued, served, account⟩, returned⟩ := invariant
  refine ⟨?_, returned⟩
  rw [account.order, stream_append, account.bytes, List.append_assoc]
  exact List.prefix_append _ _

/-- A new handler satisfies the invariant. -/
theorem create_invariant (lastp : Nat) (next : Item → Option Item)
    (buffers : Item → StreamBuffer) :
    Invariant (create lastp next buffers : State Item Thread) where
  guarded := ⟨nofun, nofun, fun _ => trivial⟩
  account := ⟨[], fun _ => [], [],
    { sound := sound_create 1 (fun _ => 0) lastp next
      height := rfl
      order := rfl
      bytes := rfl
      midway := rfl
      solid := by simp [create] }⟩
  returned := by simp [create]

theorem agrees_without (mailbox : Mailbox Item) (wrBuf : Option StreamBuffer)
    {position : Position Item} (without : position.within = false) :
    Agrees mailbox wrBuf position := by
  cases position with
  | inside => cases without
  | _ => trivial

/-- A position is about the private counter and the current buffer only. -/
theorem agrees_counter (before after : Mailbox Item) (wrBuf : Option StreamBuffer)
    (position : Position Item) (same : after.numInque = before.numInque)
    (agrees : Agrees before wrBuf position) : Agrees after wrBuf position := by
  cases position with
  | inside place =>
    cases place with
    | dequeueLoad | dequeueExchange | isBlocked | blockLoad | blockExchange =>
      exact ⟨same.trans agrees.1, agrees.2⟩
    | _ => exact agrees
  | _ => trivial

/-- With a BLOCKED pointer, no private chain and no current buffer, every published
byte is on the socket. -/
theorem account_sent {state : State Item Thread} {stacked : List Item}
    {queued : Nat → List Item} {served : List StreamBuffer}
    (account : Account state stacked queued served) (blocked : state.mailbox.stack = .blocked)
    (none_left : state.mailbox.numInque = 0) (between : state.wrBuf = none) :
    state.socket = stream state.published := by
  have unstacked : stacked = [] :=
    represents_unstacked _ _ _ _ account.sound.consistent.toRepresents (by simp [blocked, linkTo])
  have unheld : held 1 queued = [] := by
    have counted := account.sound.consistent.counted
    rw [none_left] at counted
    exact List.length_eq_zero_iff.mp counted.symm
  have bytes := account.bytes
  rw [between] at bytes
  rw [account.order, unstacked, unheld]
  simpa [unwritten] using bytes.symm

section
variable [DecidableEq Thread]

/-- The thread with the lock moves inside; no other position can disagree. -/
theorem guarded_inside {state next : State Item Thread} {thread : Thread} {place : Inside Item}
    {full : Bool} (guarded : Guarded state)
    (stands : (state.threads thread).within = true)
    (moved : next.threads = Function.update state.threads thread (.inside place full))
    (lock : next.lock = state.lock)
    (agrees : Agrees next.mailbox next.wrBuf (.inside place full)) : Guarded next := by
  have others : ∀ other, (next.threads other).within = true → other = thread := by
    intro other within
    by_contra different
    rw [moved, Function.update_of_ne different] at within
    exact different (guarded.single other thread within stands)
  refine ⟨fun other _ => lock.trans (guarded.locked thread stands), ?_, ?_⟩
  · intro one other first second
    exact (others one first).trans (others other second).symm
  · intro other
    by_cases same : other = thread
    · rw [same, moved, Function.update_self]
      exact agrees
    · apply agrees_without
      cases within : (next.threads other).within with
      | false => rfl
      | true => exact absurd (others other within) same

/-- A thread outside the lock moves outside it. -/
theorem guarded_outside {state next : State Item Thread} {thread : Thread}
    {position : Position Item} (guarded : Guarded state)
    (without : position.within = false)
    (moved : next.threads = Function.update state.threads thread position)
    (lock : next.lock = state.lock) (counter : next.mailbox.numInque = state.mailbox.numInque)
    (wrBuf : next.wrBuf = state.wrBuf) : Guarded next := by
  have others : ∀ other, (next.threads other).within = true →
      (state.threads other).within = true := by
    intro other within
    by_cases same : other = thread
    · rw [same, moved, Function.update_self, without] at within
      cases within
    · rwa [moved, Function.update_of_ne same] at within
  refine ⟨fun other within => lock.trans (guarded.locked other (others other within)), ?_, ?_⟩
  · intro one other first second
    exact guarded.single one other (others one first) (others other second)
  · intro other
    rw [wrBuf, moved]
    by_cases same : other = thread
    · rw [same, Function.update_self]
      exact agrees_without _ _ without
    · rw [Function.update_of_ne same]
      exact agrees_counter _ _ _ _ counter (guarded.agrees other)

variable (state : State Item Thread) (thread : Thread)

/-- A thread that finds the lock free enters alone. -/
theorem guarded_lock (guarded : Guarded state) (free : state.lock = false) :
    Guarded { move state thread (.inside .loop true) with lock := true } := by
  have nobody : ∀ other, (state.threads other).within = false := by
    intro other
    cases within : (state.threads other).within with
    | false => rfl
    | true => exact absurd (guarded.locked other within) (by simp [free])
  have only : ∀ other, (Function.update state.threads thread (.inside .loop true) other).within =
      true → other = thread := by
    intro other within
    by_contra different
    rw [Function.update_of_ne different, nobody other] at within
    cases within
  refine ⟨fun _ _ => rfl, ?_, ?_⟩
  · intro one other first second
    exact (only one first).trans (only other second).symm
  · intro other
    by_cases same : other = thread
    · simp [move, same, Agrees]
    · simpa only [move, Function.update_of_ne same] using guarded.agrees other

/-- The thread with the lock releases it. -/
theorem guarded_unlock (guarded : Guarded state) (stands : (state.threads thread).within = true) :
    Guarded { move state thread .outside with lock := false } := by
  have nobody : ∀ other,
      (Function.update state.threads thread .outside other).within = false := by
    refine (Function.forall_update_iff state.threads fun _ position =>
      position.within = false).mpr ⟨rfl, fun other apart => ?_⟩
    cases within : (state.threads other).within with
    | false => rfl
    | true => exact absurd (guarded.single other thread within stands) apart
  refine ⟨?_, ?_, fun other => agrees_without _ _ (nobody other)⟩
  · intro other within
    exact absurd within (by simp [move, nobody other])
  · intro one other within
    exact absurd within (by simp [move, nobody one])

/-- A thread that has no call of `enqueue` before and after keeps every call. -/
theorem call_update (threads : Thread → Position Item) (thread : Thread)
    (position : Position Item) (before : (threads thread).call = .idle)
    (after : position.call = .idle) :
    Position.call ∘ Function.update threads thread position = Position.call ∘ threads := by
  rw [Function.comp_update, after]
  exact Function.update_eq_self_iff.mpr before.symm

/-- A thread that moves without touching the handler leaves the account as it was. -/
theorem account_move (position : Position Item) (stacked : List Item) (queued : Nat → List Item)
    (served : List StreamBuffer) (account : Account state stacked queued served)
    (before : (state.threads thread).call = .idle) (after : position.call = .idle) :
    Account (move state thread position) stacked queued served := by
  obtain ⟨sound, height, order, bytes, midway, solid⟩ := account
  refine ⟨?_, height, order, bytes, midway, solid⟩
  rw [move, call_update state.threads thread position before after]
  exact sound

/-- A thread with the lock moves on without touching the handler. -/
theorem move_invariant (place : Inside Item) (full : Bool) (invariant : Invariant state)
    (stands : (state.threads thread).within = true)
    (agrees : Agrees state.mailbox state.wrBuf (.inside place full)) :
    Invariant (move state thread (.inside place full)) := by
  obtain ⟨guarded, ⟨stacked, queued, served, account⟩, returned⟩ := invariant
  refine ⟨guarded_inside guarded stands rfl rfl agrees,
    ⟨stacked, queued, served, account_move state thread _ stacked queued served account ?_ rfl⟩,
    returned⟩
  cases position : state.threads thread with
  | inside => rfl
  | _ => simp [position, Position.within] at stands

/-- A call that returns after full writes has nothing left; any other may leave what it
likes. -/
theorem leave_invariant {state : State Item Thread} {thread : Thread} {full : Bool}
    (invariant : Invariant state) (stands : (state.threads thread).within = true)
    (empties : full = true → state.wrBuf = none ∧ state.mailbox.stack = .blocked ∧
      state.socket = stream state.published) :
    Invariant (leave state thread full) := by
  obtain ⟨guarded, ⟨stacked, queued, served, account⟩, returned⟩ :=
    move_invariant state thread .unlock full invariant stands trivial
  obtain ⟨sound, height, order, bytes, midway, solid⟩ := account
  refine ⟨⟨guarded.locked, guarded.single, guarded.agrees⟩,
    ⟨stacked, queued, served, sound, height, order, bytes, midway, solid⟩, ?_⟩
  intro left member
  rcases List.mem_append.mp member with earlier | last
  · exact returned left earlier
  · obtain rfl := List.mem_singleton.mp last
    intro filled
    obtain ⟨between, blocked, sent⟩ := empties filled
    exact ⟨between, blocked, decide_eq_true sent⟩

end

section
variable [DecidableEq Item]

omit [DecidableEq Item] in
theorem byLevel_one (batch : List Item) : byLevel 1 (fun _ => 0) batch = batch := by
  simp [byLevel]

variable [DecidableEq Thread]

/-- Taking the first waiting chain makes it the current one. -/
theorem account_take (state : State Item Thread) (thread : Thread) (full : Bool) (item : Item)
    (mailbox : Mailbox Item) (stacked stacked' : List Item) (queued queued' : Nat → List Item)
    (served : List StreamBuffer) (account : Account state stacked queued served)
    (idle : (state.threads thread).call = .idle) (between : state.wrBuf = none)
    (waiting : held 1 queued ++ stacked.reverse = item :: (held 1 queued' ++ stacked'.reverse))
    (sound : Sound 1 (fun _ => 0) mailbox (state.allocated.filter (fun other => other ≠ item))
      (Position.call ∘ state.threads) stacked' queued') :
    Account { settle state thread full mailbox (.returned (some item)) with
      onStack := stacked'.length } stacked' queued' (served ++ [state.buffers item]) := by
  have allocated : item ∈ state.allocated := by
    have member : item ∈ held 1 queued ++ stacked.reverse := by
      rw [waiting]
      exact List.mem_cons_self
    rcases List.mem_append.mp member with private_ | shared
    · obtain ⟨level, _, present⟩ := (mem_held 1 queued item).mp private_
      exact account.sound.custody.inQueues level item present
    · exact account.sound.custody.onStack item (List.mem_reverse.mp shared)
  have whole := account.solid item allocated
  simp only [StreamBuffer.solid, Bool.and_eq_true, decide_eq_true_eq, List.all_eq_true] at whole
  have zero : state.written = 0 := by
    have midway := account.midway
    rwa [between] at midway
  refine ⟨?_, rfl, ?_, ?_, ?_, ?_⟩
  · simp only [settle, move, call_update state.threads thread (.inside .write full) idle rfl]
    exact sound
  · change state.published = _
    rw [account.order, waiting]
    simp [settle, move]
  · change stream _ = state.socket ++ unwritten (some (state.buffers item)) state.written
    rw [stream_append, account.bytes, between, zero]
    simp [unwritten, stream, StreamBuffer.bytes]
  · change Midway (some (state.buffers item)) state.written
    rw [zero]
    exact ⟨List.length_pos_iff.mpr whole.1, whole.2⟩
  · intro other member
    exact account.solid other (List.mem_of_mem_filter member)

/-- Entering `dequeue` takes the first private chain, or goes on to the load. -/
theorem enter_invariant (state : State Item Thread) (thread : Thread) (full : Bool)
    (invariant : Invariant state) (stands : (state.threads thread).within = true)
    (idle : (state.threads thread).call = .idle) (between : state.wrBuf = none) :
    Invariant (settle state thread full (dequeueEnter 1 state.mailbox).2
      (dequeueEnter 1 state.mailbox).1) := by
  obtain ⟨guarded, ⟨stacked, queued, served, account⟩, returned⟩ := invariant
  by_cases positive : 0 < state.mailbox.numInque
  · obtain ⟨first, rest, queued', after, order, remaining, entered, sameStack, sound⟩ :=
      sound_enter account.sound positive
    rw [entered]
    have kept := account_take state thread full first after stacked stacked queued queued' served
      account idle between (by rw [order, remaining, List.cons_append]) sound
    rw [← account.height] at kept
    exact ⟨guarded_inside guarded stands rfl rfl nofun,
      ⟨stacked, queued', served ++ [state.buffers first], kept⟩, returned⟩
  · have none_left : state.mailbox.numInque = 0 := by omega
    rw [(dequeueEnter_empty account.sound.consistent none_left).1]
    exact move_invariant state thread .dequeueLoad full
      ⟨guarded, ⟨stacked, queued, served, account⟩, returned⟩ stands ⟨none_left, between⟩

variable (full : Bool) {state : State Item Thread} {thread : Thread} {buffer : StreamBuffer}

/-- The load of `dequeue` remembers an item, or finds no chain. -/
theorem load_invariant (invariant : Invariant state)
    (stands : (state.threads thread).within = true)
    (agrees : state.mailbox.numInque = 0 ∧ state.wrBuf = none) :
    Invariant (settle state thread full state.mailbox (dequeueLoad state.mailbox)) := by
  have unclosed : state.mailbox.stack ≠ .closed := by
    obtain ⟨_, ⟨_, _, _, account⟩, _⟩ := invariant
    exact account.sound.unclosed
  cases pointer : state.mailbox.stack with
  | closed => exact absurd pointer unclosed
  | item first =>
    simp only [dequeueLoad, pointer]
    exact move_invariant state thread (.dequeueExchange (.item first)) full invariant stands
      ⟨agrees.1, agrees.2, first, rfl⟩
  | _ =>
    simp only [dequeueLoad, pointer]
    exact move_invariant state thread .isBlocked full invariant stands agrees

/-- The exchange of `dequeue` takes the whole stack and its first chain, or fails and
loads again. -/
theorem exchange_invariant {fuel : Nat} {first : Item} {moved : List Item} {fetch : Fetch Item}
    {mailbox : Mailbox Item} (invariant : Invariant state)
    (stands : (state.threads thread).within = true) (idle : (state.threads thread).call = .idle)
    (none_left : state.mailbox.numInque = 0) (between : state.wrBuf = none)
    (short : state.onStack < 2 ^ 32)
    (exchanged : dequeueExchange 1 (fun _ => 0) fuel state.mailbox (.item first) =
      some (moved, fetch, mailbox)) :
    Invariant { settle state thread full mailbox fetch with
      onStack := if moved = [] then state.onStack else 0 } := by
  by_cases current : state.mailbox.stack = .item first
  · obtain ⟨guarded, ⟨stacked, queued, served, account⟩, returned⟩ := invariant
    obtain ⟨item, rest, queued', rfl, nonempty, rfl, order, remaining, vacant, emptied, sound⟩ :=
      sound_taken account.sound (fun _ => Nat.one_pos) none_left
        current (account.height ▸ short) exchanged
    rw [byLevel_one] at order
    have kept := account_take state thread full item mailbox moved [] queued queued' served
      account idle between (by simp [vacant, order, remaining]) sound
    rw [if_neg nonempty]
    exact ⟨guarded_inside guarded stands rfl rfl nofun,
      ⟨[], queued', served ++ [state.buffers item], kept⟩, returned⟩
  · simp only [dequeueExchange, current, if_false, Option.some.injEq, Prod.mk.injEq] at exchanged
    obtain ⟨rfl, rfl, rfl⟩ := exchanged
    exact move_invariant state thread .dequeueLoad full invariant stands ⟨none_left, between⟩

omit [DecidableEq Item] in
/-- Blocking the mailbox makes the call return with nothing left. -/
theorem block_invariant (invariant : Invariant state)
    (stands : (state.threads thread).within = true)
    (agrees : state.mailbox.numInque = 0 ∧ state.wrBuf = none)
    (vacant : state.mailbox.stack = .empty) :
    Invariant (leave { state with mailbox := { state.mailbox with stack := .blocked } }
      thread full) := by
  obtain ⟨guarded, ⟨stacked, queued, served, account⟩, returned⟩ := invariant
  have blocked : Account { state with mailbox := { state.mailbox with stack := .blocked } }
      stacked queued served :=
    ⟨sound_block account.sound vacant, account.height, account.order, account.bytes,
      account.midway, account.solid⟩
  apply leave_invariant
  · refine ⟨⟨guarded.locked, guarded.single, ?_⟩, ⟨stacked, queued, served, blocked⟩, returned⟩
    intro other
    exact agrees_counter _ _ _ _ rfl (guarded.agrees other)
  · exact stands
  · intro _
    exact ⟨agrees.2, rfl, account_sent blocked rfl agrees.1 agrees.2⟩

omit [DecidableEq Item] [DecidableEq Thread] in
/-- The bytes that `write` took are the next ones of the current buffer. -/
theorem account_wrote (count : Nat) {stacked : List Item} {queued : Nat → List Item}
    {served : List StreamBuffer} (account : Account state stacked queued served)
    (current : state.wrBuf = some buffer) :
    stream served = (state.socket ++ (buffer.data.drop state.written).take count) ++
      (buffer.data.drop (state.written + count) ++ buffer.link.flatten) := by
  have bytes := account.bytes
  rw [current] at bytes
  rw [bytes, unwritten, ← List.drop_drop, List.append_assoc, ← List.append_assoc (List.take _ _),
    List.take_append_drop]

omit [DecidableEq Item] [DecidableEq Thread] in
/-- The end of a buffer keeps the account: what is left is the chain behind it. -/
theorem account_finish {count : Nat} {stacked : List Item} {queued : Nat → List Item}
    {served : List StreamBuffer} (account : Account state stacked queued served)
    (current : state.wrBuf = some buffer) (finished : state.written + count = buffer.data.length) :
    Account (writeLoop { state with
      socket := state.socket ++ (buffer.data.drop state.written).take count
      written := state.written + count }) stacked queued served := by
  have bytes := account_wrote count account current
  have midway := account.midway
  rw [current] at midway
  rw [finished, List.drop_length, List.nil_append] at bytes
  refine ⟨account.sound, account.height, account.order, ?_, ?_, account.solid⟩
  · rw [bytes]
    cases behind : buffer.link with
    | nil | cons => simp [writeLoop, current, StreamBuffer.getLink, behind, unwritten]
  · cases behind : buffer.link with
    | nil => simp [writeLoop, current, StreamBuffer.getLink, behind, Midway]
    | cons =>
      have solid := midway.2
      simp only [behind, List.forall_mem_cons] at solid
      simpa [writeLoop, current, StreamBuffer.getLink, behind, Midway, List.length_pos_iff]
        using solid

omit [DecidableEq Item] in
/-- Whatever `write` returned, the bytes it took continue the current chain. Only a
finished buffer lets the call go on after a full write.

Proof: the current buffer is not finished, so an allowed count is positive. It is
short, and the call returns after a short write, or it finishes the buffer. -/
theorem write_invariant {result : WriteResult} (invariant : Invariant state)
    (stands : (state.threads thread).within = true) (idle : (state.threads thread).call = .idle)
    (current : state.wrBuf = some buffer)
    (allowed : result.allowed (buffer.data.length - state.written) = true) :
    Invariant (wrote state thread full buffer result) := by
  cases result with
  | again => exact leave_invariant invariant stands nofun
  | wrote count =>
    obtain ⟨guarded, ⟨stacked, queued, served, account⟩, returned⟩ := invariant
    have midway := account.midway
    rw [current] at midway
    have requested : buffer.data.length - state.written ≠ 0 := by
      have := midway.1
      omega
    simp only [WriteResult.allowed, requested, if_false, Bool.and_eq_true,
      decide_eq_true_eq] at allowed
    obtain ⟨positive, bounded⟩ := allowed
    simp only [wrote, positive, if_true]
    by_cases finished : state.written + count = buffer.data.length
    · simp only [finished, if_true]
      rw [← finished]
      have kept := account_finish account current finished
      refine ⟨guarded_inside guarded stands rfl rfl trivial,
        ⟨stacked, queued, served, ?_⟩, returned⟩
      exact account_move _ thread _ stacked queued served kept idle rfl
    · simp only [finished, if_false]
      apply leave_invariant
      · refine ⟨⟨guarded.locked, guarded.single, guarded.agrees⟩,
          ⟨stacked, queued, served, account.sound, account.height, account.order, ?_, ?_,
            account.solid⟩, returned⟩
        · rw [account_wrote count account current]
          simp [unwritten, current]
        · have short : state.written + count < buffer.data.length := by omega
          simpa [Midway, current] using ⟨short, midway.2⟩
      · exact stands
      · exact nofun

/-- Every step of a call with the lock keeps the invariant. -/
theorem insideStep_invariant {fuel : Nat} {result : WriteResult} {next : State Item Thread}
    {place : Inside Item} {full : Bool} (invariant : Invariant state)
    (position : state.threads thread = .inside place full)
    (short : proper state (.proceed thread fuel result) = true)
    (taken : insideStep fuel result state thread full place = some next) : Invariant next := by
  have stands : (state.threads thread).within = true := by rw [position]; rfl
  have idle : (state.threads thread).call = .idle := by rw [position]; rfl
  have agrees := invariant.guarded.agrees thread
  rw [position] at agrees
  cases place with
  | loop =>
    cases current : state.wrBuf with simp only [insideStep, current] at taken
    | some =>
      cases taken
      exact move_invariant state thread .write full invariant stands (by simp [Agrees, current])
    | none =>
      cases taken
      exact enter_invariant state thread full invariant stands idle current
  | dequeueLoad =>
    simp only [insideStep] at taken
    cases taken
    exact load_invariant full invariant stands agrees
  | dequeueExchange =>
    obtain ⟨none_left, between, first, rfl⟩ := agrees
    cases exchanged : dequeueExchange 1 (fun _ => 0) fuel state.mailbox (.item first) with
    | none => simp [insideStep, exchanged] at taken
    | some =>
      simp only [insideStep, exchanged] at taken
      cases taken
      have bound : state.onStack < 2 ^ 32 := by simpa [proper, position] using short
      exact exchange_invariant full
        invariant stands idle none_left between bound exchanged
  | isBlocked =>
    cases mark : isBlocked state.mailbox with
    | true =>
      simp only [insideStep, mark, if_true] at taken
      cases taken
      have blocked : state.mailbox.stack = .blocked := by simpa [isBlocked] using mark
      obtain ⟨stacked, queued, served, account⟩ := invariant.account
      exact leave_invariant invariant stands fun _ => ⟨agrees.2, blocked,
        account_sent account blocked agrees.1 agrees.2⟩
    | false =>
      simp only [insideStep, mark, Bool.false_eq_true, if_false] at taken
      cases taken
      apply move_invariant state thread _ full invariant stands
      simpa [tryBlockEnter, agrees.1, Agrees] using agrees.2
  | blockLoad =>
    simp only [insideStep] at taken
    cases taken
    apply move_invariant state thread _ full invariant stands
    split
    · exact agrees
    · trivial
  | blockExchange =>
    by_cases vacant : state.mailbox.stack = .empty
    · simp only [insideStep, tryBlockExchange, vacant, if_true] at taken
      cases taken
      exact block_invariant full invariant stands agrees vacant
    · simp only [insideStep, tryBlockExchange, vacant, if_false] at taken
      cases taken
      exact move_invariant state thread .blockLoad full invariant stands agrees
  | write =>
    cases current : state.wrBuf with
    | none => exact absurd current agrees
    | some =>
      simp only [insideStep, current, Option.ite_none_right_eq_some, Option.some.injEq] at taken
      obtain ⟨allowed, rfl⟩ := taken
      exact write_invariant full invariant stands idle current allowed
  | unlock =>
    simp only [insideStep] at taken
    cases taken
    obtain ⟨guarded, ⟨stacked, queued, served, account⟩, returned⟩ := invariant
    obtain ⟨sound, height, order, bytes, midway, solid⟩ :=
      account_move state thread .outside stacked queued served account idle rfl
    exact ⟨guarded_unlock state thread guarded stands,
      ⟨stacked, queued, served, sound, height, order, bytes, midway, solid⟩, returned⟩
  | fault => exact absurd agrees id

/-- A call of `enqueue` links its chain and publishes it behind all others. -/
theorem threadStep_invariant (fuel : Nat) (result : WriteResult)
    (state next : State Item Thread) (thread : Thread) (invariant : Invariant state)
    (short : proper state (.proceed thread fuel result) = true)
    (taken : threadStep fuel result state thread (state.threads thread) = some next) :
    Invariant next := by
  cases position : state.threads thread with
  | outside => simp [position, threadStep] at taken
  | load item =>
    obtain ⟨guarded, ⟨stacked, queued, served, account⟩, returned⟩ := invariant
    obtain ⟨after, loaded, sameStack, sameCount, linked⟩ :=
      sound_load account.sound thread item (by simp [position, Position.call])
    simp only [position, threadStep, loaded] at taken
    cases taken
    refine ⟨guarded_outside guarded rfl rfl rfl sameCount rfl,
      ⟨stacked, queued, served, ?_, account.height, account.order, account.bytes, account.midway,
        account.solid⟩, returned⟩
    simpa only [move, Function.comp_update, Position.call] using linked
  | exchange item seen =>
    obtain ⟨guarded, ⟨stacked, queued, served, account⟩, returned⟩ := invariant
    rcases sound_exchange account.sound thread item seen (by simp [position, Position.call]) with
      ⟨failed, _, again⟩ | ⟨_, exchanged, published⟩
    · simp only [position, threadStep, failed] at taken
      cases taken
      refine ⟨guarded_outside guarded rfl rfl rfl rfl rfl,
        ⟨stacked, queued, served, ?_, account.height, account.order, account.bytes,
          account.midway, account.solid⟩, returned⟩
      simpa only [move, Function.comp_update, Position.call] using again
    · simp only [position, threadStep, exchanged] at taken
      cases taken
      refine ⟨guarded_outside guarded (by split <;> rfl) rfl rfl rfl rfl,
        ⟨item :: stacked, queued, served, ?_, by simp [account.height], ?_, account.bytes,
          account.midway, account.solid⟩, returned⟩
      · simp only [move, Function.comp_update]
        convert published using 2
        split <;> rfl
      · simp [account.order, move]
  | lock =>
    obtain ⟨guarded, ⟨stacked, queued, served, account⟩, returned⟩ := invariant
    have idle : (state.threads thread).call = .idle := by rw [position]; rfl
    cases taken_ : state.lock with
    | true =>
      simp only [position, threadStep, taken_, if_true] at taken
      cases taken
      exact ⟨guarded_outside guarded (by split <;> rfl) rfl rfl rfl rfl,
        ⟨stacked, queued, served, account_move state thread _ stacked queued served account idle
          (by split <;> rfl)⟩, returned⟩
    | false =>
      simp only [position, threadStep, taken_, Bool.false_eq_true, if_false,
        Option.some.injEq] at taken
      subst taken
      obtain ⟨sound, height, order, bytes, midway, solid⟩ :=
        account_move state thread (.inside .loop true) stacked queued served account idle rfl
      exact ⟨guarded_lock state thread guarded taken_,
        ⟨stacked, queued, served, sound, height, order, bytes, midway, solid⟩, returned⟩
  | inside =>
    rw [position] at taken
    exact insideStep_invariant invariant position short
      taken

/-- Every proper step keeps the invariant. -/
theorem step_invariant (state : State Item Thread) (action : Action Item Thread)
    (next : State Item Thread) (invariant : Invariant state)
    (short : proper state action = true) (taken : step state action = some next) :
    Invariant next := by
  cases action with simp only [step, Option.ite_none_right_eq_some, Option.some.injEq] at taken
  | asyncWrite thread item buffer =>
    obtain ⟨⟨position, fresh⟩, rfl⟩ := taken
    obtain ⟨guarded, ⟨stacked, queued, served, account⟩, returned⟩ := invariant
    have untouched : (held 1 queued ++ stacked.reverse).map
        (Function.update state.buffers item buffer) =
        (held 1 queued ++ stacked.reverse).map state.buffers := by
      apply List.map_congr_left
      intro other member
      apply Function.update_of_ne
      rintro rfl
      rcases List.mem_append.mp member with private_ | shared
      · obtain ⟨level, _, present⟩ := (mem_held 1 queued other).mp private_
        exact fresh (account.sound.custody.inQueues level other present)
      · exact fresh (account.sound.custody.onStack other (List.mem_reverse.mp shared))
    refine ⟨guarded_outside guarded rfl rfl rfl rfl rfl,
      ⟨stacked, queued, served, ?_, account.height, ?_, account.bytes, account.midway, ?_⟩,
      returned⟩
    · simp only [move, Function.comp_update, Position.call]
      exact sound_call account.sound thread fresh
    · simp only [move, untouched]
      exact account.order
    · intro other member
      by_cases same : other = item
      · simpa [same, proper] using short
      · simp only [Function.update_of_ne same]
        exact account.solid other ((List.mem_cons.mp member).resolve_left same)
  | event thread =>
    obtain ⟨position, rfl⟩ := taken
    obtain ⟨guarded, ⟨stacked, queued, served, account⟩, returned⟩ := invariant
    exact ⟨guarded_outside guarded rfl rfl rfl rfl rfl,
      ⟨stacked, queued, served, account_move state thread _ stacked queued served account
        (by rw [position]; rfl) rfl⟩, returned⟩
  | proceed thread fuel result =>
    exact threadStep_invariant fuel result state next thread invariant short taken

/-- In every run of the write path whose chains have no empty buffer, the socket holds
a beginning of the published chains in their order, and a call that returns after full
writes leaves nothing behind. -/
theorem run_drains (lastp : Nat) (links : Item → Option Item) (memory : Item → StreamBuffer)
    (schedule : List (Action Item Thread)) (final : State Item Thread)
    (allProper : Runs.Along step (fun state action => proper state action = true)
      (create lastp links memory) schedule)
    (executed : Runs.run step (create lastp links memory) schedule = some final) :
    Drains final :=
  invariant_drains
    (Runs.run_preserves step (fun state action => proper state action = true) Invariant
      step_invariant (create lastp links memory) final schedule
      (create_invariant lastp links memory) allProper executed)

end

/-- A thread goes on, with EAGAIN for any `write` on its way. -/
def proceeds (thread : Bool) (count : Nat) : List (Action Nat Bool) :=
  List.replicate count (.proceed thread 1 .again)

/-- A call of `write` and the local step after it. -/
def writes (thread : Bool) (count : Nat) : List (Action Nat Bool) :=
  [.proceed thread 1 (.wrote count), .proceed thread 1 .again]

/-- A header and a body are published and half of the header is written. Another
thread publishes a second chain, and an event finds the socket writable again. -/
def resumed : List (Action Nat Bool) :=
  [.asyncWrite false 7 ⟨[1, 2], [[3]]⟩] ++ proceeds false 6 ++ writes false 1 ++
    [.asyncWrite true 8 ⟨[4], []⟩] ++ proceeds true 2 ++ [.event true] ++ proceeds true 2 ++
    writes true 1 ++ writes true 1 ++ proceeds true 2 ++ writes true 1 ++ proceeds true 5

theorem resumed_completes :
    (Runs.run step (create 0 (fun _ => none) fun _ => ⟨[], []⟩) resumed).isSome := by
  decide +kernel

/-- All bytes of both chains are on the socket, in order, and the write path drains. -/
theorem run_drains_resumed :
    ∃ final, Runs.run step (create 0 (fun _ => none) fun _ => ⟨[], []⟩) resumed = some final ∧
      final.socket = [1, 2, 3, 4] ∧ final.returns.map Return.full = [false, true] ∧
      Drains final := by
  refine ⟨Option.get _ resumed_completes, (Option.some_get _).symm, ?_, ?_, ?_⟩
  · decide +kernel
  · decide +kernel
  · apply run_drains 0 (fun _ => none) (fun _ => ⟨[], []⟩) resumed
    · decide +kernel
    · exact (Option.some_get _).symm

/-- A header with an empty body, then a second chain and an event. Every `write` takes
all it is given. -/
def stalled : List (Action Nat Bool) :=
  [.asyncWrite false 7 ⟨[1], [[]]⟩] ++ proceeds false 6 ++ writes false 1 ++ writes false 0 ++
    [.asyncWrite true 8 ⟨[2], []⟩] ++ proceeds true 2 ++ [.event true] ++ proceeds true 2 ++
    writes true 0

theorem stalled_completes :
    (Runs.run step (create 0 (fun _ => none) fun _ => ⟨[], []⟩) stalled).isSome := by
  decide +kernel

/-- Both calls return after full writes only and no thread is left inside, but the empty
body is still the current buffer and the second chain is not on the socket. -/
theorem stalled_pending :
    ∃ final, Runs.run step (create 0 (fun _ => none) fun _ => ⟨[], []⟩) stalled = some final ∧
      (∀ thread, final.threads thread = .outside) ∧ final.wrBuf = some ⟨[], []⟩ ∧
      final.socket = [1] ∧ stream final.published = [1, 2] ∧
      final.returns.map Return.full = [true, true] ∧ ¬Drains final := by
  refine ⟨Option.get _ stalled_completes, (Option.some_get _).symm, ?_, ?_, ?_, ?_, ?_, ?_⟩
  · decide +kernel
  · decide +kernel
  · decide +kernel
  · decide +kernel
  · decide +kernel
  · intro drains
    have kept : ∀ left ∈ (Option.get _ stalled_completes).returns,
        left.full = true → left.wrBuf = none := fun left member filled =>
      (drains.drained left member filled).1
    exact absurd kept (by decide +kernel)

end Mola.StreamHandler
