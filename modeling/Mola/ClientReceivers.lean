import Mola.Places
import Mola.ClientConn

/-!
# Receivers that wait

A receiver waits for the messages of one module or for all, on a condition variable that it
shares with the others. Where the threads that wait have one name whenever a message arrives
that one of them could take, the message wakes one of that name. So there are always at least
as many receivers of a name about to look as there are messages for those of this name that
still wait.
-/

namespace Mola.ClientConn

/-- The receiver is counted in `m_pending`. -/
def Receiver.pends (receiver : Receiver) : Bool :=
  receiver.phase = .waiting || receiver.phase = .notified

/-- The receiver is running or notified, and will look for a message. -/
def Receiver.runs (receiver : Receiver) : Bool :=
  receiver.phase = .running || receiver.phase = .notified

/-- The receivers with a name that have a property. -/
def counts (property : Receiver → Bool) (receivers : List Receiver) (name : String) : Nat :=
  receivers.countP fun receiver => receiver.name = name && property receiver

/-- The messages of a module. -/
def cachedFor (cache : List (String × Nat)) (mod : String) : Nat :=
  cache.countP fun entry => entry.1 = mod

/-- A receiver with a name is waiting and not notified. -/
def Waits (receivers : List Receiver) (name : String) : Prop :=
  ∃ receiver ∈ receivers, receiver.name = name ∧ receiver.phase = .waiting

/-- A message that a receiver waits for, with no running or notified receiver that could take
it. -/
def Stranded (state : State) : Prop :=
  ∃ entry ∈ state.cache,
    (∃ receiver ∈ state.receivers, receiver.phase = .waiting ∧
      wanted receiver.name entry = true) ∧
    ∀ receiver ∈ state.receivers, receiver.runs = true → wanted receiver.name entry = false

/-- All receivers that wait have one name. -/
def oneName (receivers : List Receiver) : Bool :=
  receivers.all fun receiver => receivers.all fun other =>
    receiver.phase ≠ .waiting || other.phase ≠ .waiting || receiver.name = other.name

/-- When a message goes into the cache and a receiver waits for it, all receivers that wait
have the same name. -/
def uniformFor (state : State) (reqid : UInt32) (mod : String) : Bool :=
  (state.reqStates reqid).isSome ||
    !(state.receivers.any fun receiver =>
      receiver.phase = .waiting && (receiver.name = mod || receiver.name = "*")) ||
    oneName state.receivers

/-- The condition on the messages that arrive. -/
def uniform (state : State) : Action → Bool
  | .reply index mod _ =>
      match state.requests[index]? with
      | some (.sent reqid) => uniformFor state reqid mod
      | _ => true
  | .deliver reqid mod _ => uniformFor state reqid mod
  | _ => true

/-- The counters are right, and for the receivers of a name that wait there are as many of the
same name about to look as there are messages. -/
structure Served (state : State) : Prop where
  counted : ∀ name, state.pending name = counts Receiver.pends state.receivers name
  named : ∀ name, name ≠ "*" → Waits state.receivers name →
    cachedFor state.cache name ≤ counts Receiver.runs state.receivers name
  any : Waits state.receivers "*" → state.cache.length ≤ counts Receiver.runs state.receivers "*"

variable {state : State} {index : Nat} {receiver : Receiver} {receivers : List Receiver}

/-- No message is stranded then. -/
theorem Served.not_stranded (served : Served state) : ¬ Stranded state := by
  rintro ⟨entry, member, ⟨receiver, listed, waiting, wants⟩, none⟩
  have runner : 0 < counts Receiver.runs state.receivers receiver.name := by
    by_cases star : receiver.name = "*"
    · have all := served.any ⟨receiver, listed, star, waiting⟩
      rw [star]
      exact Nat.lt_of_lt_of_le (List.length_pos_of_mem member) all
    · have same : entry.1 = receiver.name := by simpa [wanted, star] using wants
      have some : 0 < cachedFor state.cache receiver.name :=
        List.countP_pos_iff.mpr ⟨entry, member, decide_eq_true same⟩
      exact Nat.lt_of_lt_of_le some
        (served.named receiver.name star ⟨receiver, listed, rfl, waiting⟩)
  obtain ⟨other, present, found⟩ := List.countP_pos_iff.mp runner
  simp only [Bool.and_eq_true, decide_eq_true_eq] at found
  have idle := none other present found.2
  rw [found.1, wants] at idle
  cases idle

/-- A receiver goes on to another phase. -/
theorem counts_set (property : Receiver → Bool) (phase : Phase) (name : String)
    (found : receivers[index]? = some receiver) :
    counts property (receivers.set index { receiver with phase := phase }) name +
        (if receiver.name = name ∧ property receiver = true then 1 else 0) =
      counts property receivers name +
        if receiver.name = name ∧ property { receiver with phase := phase } = true
        then 1 else 0 := by
  have counted := Places.countP_set_add
    (fun other : Receiver => decide (other.name = name) && property other)
    { receiver with phase := phase } found
  simpa only [counts, Bool.and_eq_true, decide_eq_true_eq] using counted

theorem counts_other (property : Receiver → Bool) (phase : Phase) {name : String}
    (found : receivers[index]? = some receiver) (different : name ≠ receiver.name) :
    counts property (receivers.set index { receiver with phase := phase }) name =
      counts property receivers name := by
  have both := counts_set property phase name found
  simpa only [Ne.symm different, false_and, if_false, Nat.add_zero] using both

theorem Waits.of_set {phase : Phase} {name : String} (different : phase ≠ .waiting)
    (waits : Waits (receivers.set index { receiver with phase := phase }) name) :
    Waits receivers name := by
  obtain ⟨other, member, named, waiting⟩ := waits
  rcases List.mem_or_eq_of_mem_set member with old | rfl
  · exact ⟨other, old, named, waiting⟩
  · exact absurd waiting different

theorem insertMessage_perm (cache : List (String × Nat)) (mod : String) (message : Nat) :
    List.Perm (insertMessage cache mod message) ((mod, message) :: cache) := by
  unfold insertMessage
  refine List.perm_middle.trans (List.Perm.cons _ ?_)
  rw [List.takeWhile_append_dropWhile]

/-- What `notify_one` does. -/
theorem notifyOne_effect {next : List Receiver} {woken : Option Nat}
    (notified : notifyOne receivers woken = some next) :
    (next = receivers ∧ ∀ receiver ∈ receivers, receiver.phase ≠ .waiting) ∨
      ∃ (index : Nat) (receiver : Receiver), receivers[index]? = some receiver ∧
        receiver.phase = .waiting ∧
        next = receivers.set index { receiver with phase := .notified } := by
  cases woken with simp only [notifyOne] at notified
  | none =>
    split at notified <;> cases notified
    rename_i nobody
    refine Or.inl ⟨rfl, fun receiver member waiting => nobody ?_⟩
    exact List.any_eq_true.mpr ⟨receiver, member, decide_eq_true waiting⟩
  | some index =>
    split at notified
    · cases notified
    · rename_i receiver found
      split at notified <;> cases notified
      rename_i waiting
      exact Or.inr ⟨index, receiver, found, waiting, rfl⟩

/-- A receiver that is woken is still counted, and is about to look. -/
theorem woken_counts (found : receivers[index]? = some receiver)
    (waiting : receiver.phase = .waiting) (name : String) :
    counts Receiver.pends (receivers.set index { receiver with phase := .notified }) name =
        counts Receiver.pends receivers name ∧
      counts Receiver.runs (receivers.set index { receiver with phase := .notified }) name =
        counts Receiver.runs receivers name + if receiver.name = name then 1 else 0 := by
  constructor
  · simpa [Receiver.pends, waiting] using
      counts_set Receiver.pends .notified name found
  · simpa [Receiver.runs, waiting] using
      counts_set Receiver.runs .notified name found

/-- A receiver wakes up. -/
theorem Served.woken (served : Served state) (index : Nat) (receiver : Receiver)
    (found : state.receivers[index]? = some receiver) (waiting : receiver.phase = .waiting) :
    Served { state with
      receivers := state.receivers.set index { receiver with phase := .notified } } := by
  have counted := woken_counts found waiting
  have still : ∀ name, Waits (state.receivers.set index { receiver with phase := .notified }) name →
      Waits state.receivers name := fun _ waits => waits.of_set (fun same => by cases same)
  constructor
  · intro name
    dsimp only
    rw [(counted name).1]
    exact served.counted name
  · intro name notStar waits
    dsimp only
    rw [(counted name).2]
    exact Nat.le_add_right_of_le (served.named name notStar (still name waits))
  · intro waits
    dsimp only
    rw [(counted "*").2]
    exact Nat.le_add_right_of_le (served.any (still "*" waits))

theorem Served.nobody (served : Served state) (name : String) (low : ¬ 0 < state.pending name) :
    ¬ Waits state.receivers name := by
  rintro ⟨receiver, member, named, waiting⟩
  have positive : 0 < counts Receiver.pends state.receivers name :=
    List.countP_pos_iff.mpr ⟨receiver, member, by simp [named, Receiver.pends, waiting]⟩
  rw [served.counted name] at low
  omega

/-- A message goes into the cache. -/
theorem Served.cached {next : State} (served : Served state) (mod : String) (message : Nat)
    (woken : Option Nat) (cache : next.cache = insertMessage state.cache mod message)
    (pending : next.pending = state.pending)
    (one : (∃ name, (name = mod ∨ name = "*") ∧ Waits state.receivers name) →
      ∀ receiver ∈ state.receivers, ∀ other ∈ state.receivers, receiver.phase = .waiting →
        other.phase = .waiting → receiver.name = other.name)
    (receivers : (notifies state mod = true ∧
        notifyOne state.receivers woken = some next.receivers) ∨
      (notifies state mod = false ∧ next.receivers = state.receivers)) : Served next := by
  have order := insertMessage_perm state.cache mod message
  have length : next.cache.length = state.cache.length + 1 := by
    rw [cache, order.length_eq, List.length_cons]
  have cachedNow : ∀ name, cachedFor next.cache name =
      cachedFor state.cache name + if mod = name then 1 else 0 := by
    intro name
    unfold cachedFor
    rw [cache, order.countP_eq, List.countP_cons]
    simp only [decide_eq_true_eq]
  rcases receivers with ⟨notified, woke⟩ | ⟨silent, same⟩
  · rcases notifyOne_effect woke with
      ⟨same, nobody⟩ | ⟨index, receiver, found, waiting, woken⟩
    · have vacant : ∀ name, ¬ Waits next.receivers name := by
        rintro name ⟨receiver, member, -, waiting⟩
        rw [same] at member
        exact nobody receiver member waiting
      refine ⟨fun name => ?_, fun name _ waits => absurd waits (vacant name),
        fun waits => absurd waits (vacant "*")⟩
      rw [pending, same]
      exact served.counted name
    · have counted := woken_counts found waiting
      have member := List.mem_of_getElem? found
      -- If somebody else waits for the message, the woken receiver has the same name.
      have sameName : ∀ name, (name = mod ∨ name = "*") → Waits next.receivers name →
          receiver.name = name := by
        intro name fits waits
        rw [woken] at waits
        have before : Waits state.receivers name :=
          waits.of_set (fun equal => by cases equal)
        obtain ⟨other, present, named, otherWaits⟩ := before
        rw [← named]
        exact one ⟨name, fits, other, present, named, otherWaits⟩ receiver member other present
          waiting otherWaits
      constructor
      · intro name
        rw [pending, woken, (counted name).1]
        exact served.counted name
      · intro name notStar waits
        have before : Waits state.receivers name := by
          rw [woken] at waits
          exact waits.of_set (fun equal => by cases equal)
        have old := served.named name notStar before
        rw [cachedNow name, woken, (counted name).2]
        by_cases equal : mod = name
        · rw [if_pos equal, if_pos (sameName name (Or.inl equal.symm) waits)]
          omega
        · rw [if_neg equal]
          omega
      · intro waits
        have before : Waits state.receivers "*" := by
          rw [woken] at waits
          exact waits.of_set (fun equal => by cases equal)
        have old := served.any before
        rw [length, woken, (counted "*").2, if_pos (sameName "*" (Or.inr rfl) waits)]
        omega
  · simp only [notifies, Bool.or_eq_false_iff, decide_eq_false_iff_not] at silent
    constructor
    · intro name
      rw [pending, same]
      exact served.counted name
    · intro name notStar waits
      rw [same] at waits ⊢
      have different : mod ≠ name := by
        rintro rfl
        exact served.nobody mod silent.1 waits
      rw [cachedNow name, if_neg different]
      exact served.named name notStar waits
    · intro waits
      rw [same] at waits
      exact absurd waits (served.nobody "*" silent.2)

/-- The counter of a name is that of the receivers that still wait when one of them has left
the wait, or was not in it. -/
theorem Served.waited (served : Served state) (receiver : Receiver) (runs : receiver.runs = true)
    (name : String) :
    waited state receiver name + (if receiver.name = name ∧ receiver.pends = true then 1 else 0) =
      counts Receiver.pends state.receivers name := by
  rw [← served.counted name]
  unfold ClientConn.waited
  by_cases notified : receiver.phase = .notified
  · have pends : receiver.pends = true := by simp [Receiver.pends, notified]
    rw [if_pos notified]
    by_cases same : name = receiver.name
    · rw [same, Function.update_self, if_pos ⟨rfl, pends⟩]
      omega
    · rw [Function.update_of_ne same, if_neg (fun both => same both.1.symm)]
      omega
  · have running : receiver.phase = .running := by simpa [Receiver.runs, notified] using runs
    have idle : receiver.pends = false := by simp [Receiver.pends, running]
    rw [if_neg notified, idle]
    simp

/-- A receiver finds no message and waits. -/
theorem Served.waits (served : Served state) (index : Nat) (receiver : Receiver)
    (found : state.receivers[index]? = some receiver) (runs : receiver.runs = true)
    (missing : state.cache.find? (wanted receiver.name) = none) :
    Served { state with
      pending := Function.update (ClientConn.waited state receiver) receiver.name
        (ClientConn.waited state receiver receiver.name + 1)
      receivers := state.receivers.set index { receiver with phase := .waiting } } := by
  rw [List.find?_eq_none] at missing
  have others : ∀ name, name ≠ receiver.name →
      Waits (state.receivers.set index { receiver with phase := .waiting }) name →
      Waits state.receivers name := by
    rintro name different ⟨other, member, named, waiting⟩
    rcases List.mem_or_eq_of_mem_set member with old | rfl
    · exact ⟨other, old, named, waiting⟩
    · exact absurd named.symm different
  constructor
  · intro name
    have before := served.waited receiver runs name
    dsimp only
    by_cases same : name = receiver.name
    · have now := counts_set Receiver.pends .waiting name found
      have pends : Receiver.pends { receiver with phase := .waiting } = true := rfl
      rw [pends] at now
      rw [same] at before now ⊢
      simp only [true_and, if_true] at before now
      rw [Function.update_self]
      split at before
      · rename_i counted
        rw [if_pos counted] at now
        omega
      · rename_i uncounted
        rw [if_neg uncounted] at now
        omega
    · rw [Function.update_of_ne same, counts_other _ _ found same]
      simpa only [Ne.symm same, false_and, if_false, Int.add_zero] using before
  · intro name notStar waits
    dsimp only
    by_cases same : name = receiver.name
    · have empty : cachedFor state.cache name = 0 := by
        rw [cachedFor, List.countP_eq_zero]
        intro entry member equal
        apply missing entry member
        simp only [decide_eq_true_eq] at equal
        simp [wanted, equal, same]
      rw [empty]
      exact Nat.zero_le _
    · rw [counts_other _ _ found same]
      exact served.named name notStar (others name same waits)
  · intro waits
    dsimp only
    by_cases same : "*" = receiver.name
    · have empty : state.cache = [] := by
        rw [List.eq_nil_iff_forall_not_mem]
        intro entry member
        apply missing entry member
        simp [wanted, ← same]
      rw [empty]
      exact Nat.zero_le _
    · rw [counts_other _ _ found same]
      exact served.any (others "*" same waits)

/-- A receiver takes a message. -/
theorem Served.took (served : Served state) {entry : String × Nat}
    (found : state.receivers[index]? = some receiver) (runs : receiver.runs = true)
    (first : state.cache.find? (wanted receiver.name) = some entry) :
    Served { state with
      cache := state.cache.erase entry
      pending := ClientConn.waited state receiver
      receivers := state.receivers.set index { receiver with phase := .taken entry.2 } } := by
  have member := List.mem_of_find?_eq_some first
  have wants := List.find?_some first
  have order := List.perm_cons_erase member
  have still : ∀ name,
      Waits (state.receivers.set index { receiver with phase := .taken entry.2 }) name →
      Waits state.receivers name := fun _ waits => waits.of_set (fun same => by cases same)
  have idle : Receiver.runs { receiver with phase := .taken entry.2 } = false := rfl
  have uncounted : Receiver.pends { receiver with phase := .taken entry.2 } = false := rfl
  constructor
  · intro name
    have before := served.waited receiver runs name
    have now :=
      counts_set Receiver.pends (.taken entry.2) name found
    rw [uncounted] at now
    simp only [Bool.false_eq_true, and_false, if_false, Nat.add_zero] at now
    dsimp only
    split at before
    · rename_i counted
      rw [if_pos counted] at now
      omega
    · rename_i uncounted
      rw [if_neg uncounted] at now
      omega
  · intro name notStar waits
    have old := served.named name notStar (still name waits)
    have less : cachedFor state.cache name =
        cachedFor (state.cache.erase entry) name + if entry.1 = name then 1 else 0 := by
      rw [cachedFor, order.countP_eq, List.countP_cons]
      simp only [cachedFor, decide_eq_true_eq]
    dsimp only
    by_cases same : name = receiver.name
    · have mine : entry.1 = name := by
        rw [← same] at wants
        simpa [wanted, notStar] using wants
      have now :=
        counts_set Receiver.runs (.taken entry.2) name found
      rw [idle, if_pos ⟨same.symm, runs⟩] at now
      simp only [Bool.false_eq_true, and_false, if_false, Nat.add_zero] at now
      rw [if_pos mine] at less
      omega
    · rw [counts_other _ _ found same]
      omega
  · intro waits
    have old := served.any (still "*" waits)
    have less : state.cache.length = (state.cache.erase entry).length + 1 := order.length_eq
    dsimp only
    by_cases same : "*" = receiver.name
    · have now :=
        counts_set Receiver.runs (.taken entry.2) "*" found
      rw [idle, if_pos ⟨same.symm, runs⟩] at now
      simp only [Bool.false_eq_true, and_false, if_false, Nat.add_zero] at now
      omega
    · rw [counts_other _ _ found same]
      omega

/-- The condition on a message, for the receivers that wait. -/
theorem uniformFor_one {reqid : UInt32} {mod : String}
    (allowed : uniformFor state reqid mod = true) (unregistered : state.reqStates reqid = none) :
    (∃ name, (name = mod ∨ name = "*") ∧ Waits state.receivers name) →
      ∀ receiver ∈ state.receivers, ∀ other ∈ state.receivers, receiver.phase = .waiting →
        other.phase = .waiting → receiver.name = other.name := by
  rintro ⟨name, fits, waiter, present, named, waits⟩ receiver member other member' waiting waiting'
  have somebody : (state.receivers.any fun receiver =>
      receiver.phase = .waiting && (receiver.name = mod || receiver.name = "*")) = true := by
    refine List.any_eq_true.mpr ⟨waiter, present, ?_⟩
    rcases fits with rfl | rfl <;> simp [waits, named]
  simp only [uniformFor, unregistered, somebody, Option.isSome_none, Bool.not_true,
    Bool.false_or, oneName, List.all_eq_true] at allowed
  have both := allowed receiver member other member'
  simpa [waiting, waiting'] using both

/-- `deliver_message` keeps the receivers served. -/
theorem deliverMessage_served {next : State} {reply : Option Nat} {reqid : UInt32} {mod : String}
    {woken : Option Nat} (served : Served state) (allowed : uniformFor state reqid mod = true)
    (delivered : deliverMessage state reply reqid mod woken = some next) : Served next := by
  unfold deliverMessage at delivered
  split at delivered
  · split at delivered <;> cases delivered
    exact { served with }
  · rename_i unregistered
    have one := uniformFor_one allowed unregistered
    dsimp only at delivered
    split at delivered
    · rename_i notified
      obtain ⟨receivers, woke, rfl⟩ := Option.map_eq_some_iff.mp delivered
      exact served.cached mod _ woken rfl rfl one (Or.inl ⟨notified, woke⟩)
    · rename_i silent
      split at delivered <;> cases delivered
      exact served.cached mod _ woken rfl rfl one (Or.inr ⟨Bool.eq_false_iff.mpr silent, rfl⟩)

/-- A receiver looks for a message. -/
theorem look_served (served : Served state) (found : state.receivers[index]? = some receiver)
    (runs : receiver.runs = true) :
    Served (look state index receiver) := by
  unfold look
  split
  · rename_i missing
    exact served.waits index receiver found runs missing
  · rename_i entry first
    exact served.took found runs first

/-- A call of `recv_message`. -/
theorem Served.called (served : Served state) (name : String) :
    Served { state with receivers := state.receivers ++ [⟨name, .running⟩] } := by
  have still : ∀ other, Waits (state.receivers ++ [⟨name, .running⟩]) other →
      Waits state.receivers other := by
    rintro other ⟨receiver, member, named, waiting⟩
    rcases List.mem_append.mp member with old | new
    · exact ⟨receiver, old, named, waiting⟩
    · rw [List.mem_singleton.mp new] at waiting
      cases waiting
  have more : ∀ other, counts Receiver.runs state.receivers other ≤
      counts Receiver.runs (state.receivers ++ [⟨name, .running⟩]) other := by
    intro other
    unfold counts
    rw [List.countP_append]
    exact Nat.le_add_right _ _
  constructor
  · intro other
    have new : Receiver.pends ⟨name, .running⟩ = false := rfl
    dsimp only
    rw [served.counted other, counts, counts, List.countP_append, List.countP_singleton, new,
      Bool.and_false]
    rfl
  · intro other notStar waits
    exact Nat.le_trans (served.named other notStar (still other waits)) (more other)
  · intro waits
    exact Nat.le_trans (served.any (still "*" waits)) (more "*")

/-- Every step that meets the condition keeps the receivers served. -/
theorem step_served (state : State) (action : Action) (next : State) (served : Served state)
    (allowed : uniform state action = true) (stepped : step state action = some next) :
    Served next := by
  cases action with simp only [step] at stepped
  | send =>
    cases stepped
    exact { served with }
  | rand =>
    split at stepped
    · split at stepped <;> cases stepped
      · exact served
      · exact { served with }
    · cases stepped
  | register =>
    split at stepped <;> cases stepped
    exact { served with }
  | reply index =>
    split at stepped
    · rename_i reqid found
      simp only [uniform, found] at allowed
      have answered : Served { state with requests := state.requests.set index .answered } :=
        { served with }
      exact deliverMessage_served answered allowed stepped
    · cases stepped
  | deliver =>
    exact deliverMessage_served served allowed stepped
  | recv name =>
    cases stepped
    exact served.called name
  | proceed =>
    split at stepped
    · rename_i receiver found
      split at stepped <;> cases stepped
      · rename_i running
        exact look_served served found (by simp [Receiver.runs, running])
      · rename_i notified
        exact look_served served found (by simp [Receiver.runs, notified])
    · cases stepped
  | wakeUp =>
    obtain ⟨receivers, woke, rfl⟩ := Option.map_eq_some_iff.mp stepped
    rcases notifyOne_effect woke with
      ⟨rfl, -⟩ | ⟨place, receiver, found, waiting, rfl⟩
    · exact { served with }
    · exact served.woken place receiver found waiting

/-- In every run in which all receivers that wait have one name whenever a message arrives for
one of them: the messages for the receivers of a name that wait are at most as many as the
running and notified receivers of that name, and none is stranded. -/
theorem run_wakes (schedule : List Action) (final : State)
    (allowed : Runs.Along step (fun state action => uniform state action = true) start schedule)
    (executed : Runs.run step start schedule = some final) :
    Served final ∧ ¬ Stranded final := by
  have initial : Served start := by
    refine ⟨fun name => rfl, ?_, ?_⟩
    · rintro name - ⟨receiver, member, -⟩
      cases member
    · rintro ⟨receiver, member, -⟩
      cases member
  have served := Runs.run_preserves step _ Served step_served start final schedule initial allowed
    executed
  exact ⟨served, served.not_stranded⟩

/-- Two receivers of one name wait; a message wakes the second, and before it gets the lock a
third receiver takes the message. The next message wakes the first. -/
def sameNames : List Action :=
  [.recv "a", .recv "a", .proceed 0, .proceed 1, .deliver 0 "a" (some 1), .recv "*", .proceed 2,
    .proceed 1, .deliver 0 "b" none, .deliver 0 "a" (some 0)]

theorem sameNames_completes : (Runs.run step start sameNames).isSome := by decide +kernel

/-- One receiver waits, another one is notified and will take the message of "a". -/
theorem run_wakes_same_names :
    ∃ final, Runs.run step start sameNames = some final ∧
      final.cache = [("a", 2), ("b", 1)] ∧
      final.receivers = [⟨"a", .notified⟩, ⟨"a", .waiting⟩, ⟨"*", .taken 0⟩] ∧
      Served final ∧ ¬ Stranded final := by
  refine ⟨Option.get _ sameNames_completes, (Option.some_get _).symm, ?_, ?_, ?_⟩
  · decide +kernel
  · decide +kernel
  · apply run_wakes sameNames _ ?_ (Option.some_get _).symm
    decide +kernel

/-- Receivers of "a" and of "b" wait; the message for "a" wakes that of "b". -/
def wrongOne : List Action :=
  [.recv "a", .recv "b", .proceed 0, .proceed 1, .deliver 0 "a" (some 1), .proceed 1]

theorem wrongOne_completes : (Runs.run step start wrongOne).isSome := by decide +kernel

/-- Both receivers wait, and the message for "a" is in the cache. -/
theorem message_stranded :
    ∃ final, Runs.run step start wrongOne = some final ∧
      final.cache = [("a", 0)] ∧ final.receivers = [⟨"a", .waiting⟩, ⟨"b", .waiting⟩] ∧
      Stranded final := by
  have cache : (Option.get _ wrongOne_completes).cache = [("a", 0)] := by decide +kernel
  have receivers : (Option.get _ wrongOne_completes).receivers =
      [⟨"a", .waiting⟩, ⟨"b", .waiting⟩] := by
    decide +kernel
  refine ⟨Option.get _ wrongOne_completes, (Option.some_get _).symm, cache, receivers, ?_⟩
  refine ⟨("a", 0), ?_, ⟨⟨"a", .waiting⟩, ?_, rfl, by decide⟩, ?_⟩
  · rw [cache]
    exact List.mem_singleton_self _
  · rw [receivers]
    exact List.mem_cons_self
  · rw [receivers]
    decide

end Mola.ClientConn
