import Mola.Residues

/-!
# Scattering a group over candidates

The random strategy of the load balancer deals the messages of a group to the candidates in turn,
if there are more messages than candidates, starting from a random place. The place is an unsigned
32-bit counter, reduced by the number of candidates for every message. Where the counter wraps,
the turn does not go on: it starts again at the first candidate, wherever it was. If a candidate
then has an extra message from both sides of the wrap, and another from neither, the two differ by
two.

The counter starts at a value of the random number generator, whose values go up to 2^32 - 6. A
candidate is its place in the set. The index of the loop is an `int`, and a group that it does not
reach the end of has no defined outcome.
-/

namespace Mola.LoadBalance

open Residues

universe u
variable {Message : Type u}

/-- `RNGMOD`. -/
def rngMod : Nat := 2 ^ 32 - 5

/-- `RNGMUL`. -/
def rngMul : Nat := 69070

/-- `AbsolateWorker::random`: the value it returns, which is the next seed as well. -/
def random (seed : UInt32) : UInt32 := UInt32.ofNat ((rngMul * seed.toNat) % rngMod)

/-- The values of successive calls from a seed. -/
def randoms (seed : UInt32) : Nat → UInt32
  | 0 => random seed
  | call + 1 => random (randoms seed call)

/-- The largest `int`. -/
def intMax : Nat := 2 ^ 31 - 1

/-- What `scatter_to_nodes` has done: the calls of the task in their order, each with the place of a
candidate and a message, and the result. -/
structure Scatter (Message : Type u) where
  calls : List (Nat × Message)
  rc : Nat

/-- The task is called first, with a result that may be zero. -/
def Scatter.after (place : Nat) (message : Message) (result : Int) (scatter : Scatter Message) :
    Scatter Message :=
  ⟨(place, message) :: scatter.calls, scatter.rc + if result = 0 then 1 else 0⟩

/-- The loops of `scatter_to_nodes` over the rest of a group from an index. The candidate of a
message is a function of the index. The result of a call of the task can depend on the calls
before. -/
def scatterLoop (place : Nat → Nat) (task : Nat → Nat → Message → Int) :
    Nat → List Message → Option (Scatter Message)
  | _, [] => some ⟨[], 0⟩
  | index, message :: rest =>
      if index = intMax then none
      else
        (scatterLoop place task (index + 1) rest).map
          (Scatter.after (place index) message (task index (place index) message))

/-- The place of the message with an index: the counter was incremented so many times since its
start, and wraps. -/
def placeInTurn (size : Nat) (start : UInt32) (index : Nat) : Nat :=
  (start + UInt32.ofNat index).toNat % size

/-- `scatter_to_nodes` for a number of candidates, with the values that the calls of `random`
return. A group that is not larger than the set goes to random candidates. -/
def scatterToNodes (size : Nat) (values : Nat → UInt32) (task : Nat → Nat → Message → Int)
    (group : List Message) : Option (Scatter Message) :=
  if size = 0 then none
  else if size < group.length then scatterLoop (placeInTurn size (values 0)) task 0 group
  else if size % 2 ^ 32 = 0 then none
  else scatterLoop (fun index => (values index).toNat % (size % 2 ^ 32)) task 0 group

/-- How many messages a candidate was given. -/
def Scatter.given (scatter : Scatter Message) (place : Nat) : Nat :=
  (scatter.calls.map Prod.fst).count place

/-- How many calls have returned zero. -/
def Scatter.successes (task : Nat → Nat → Message → Int) (scatter : Scatter Message) : Nat :=
  scatter.calls.zipIdx.countP fun entry => task entry.2 entry.1.1 entry.1.2 = 0

/-- The group was spread evenly: the task was called once for every message, in their order, the
result counts the calls that returned zero, and the numbers of messages given to any two
candidates differ by at most one. -/
def Spread (size : Nat) (task : Nat → Nat → Message → Int) (group : List Message)
    (outcome : Option (Scatter Message)) : Prop :=
  ∃ scatter, outcome = some scatter ∧ scatter.calls.map Prod.snd = group ∧
    scatter.rc = scatter.successes task ∧ Balanced size scatter.given

/-- The counter does not wrap, or the two sides of the wrap fit together: no candidate has an extra
message from both, or every one has an extra message from one of them. -/
def WrapsEvenly (size : Nat) (start : UInt32) (messages : Nat) : Prop :=
  let before := 2 ^ 32 - start.toNat
  messages ≤ before ∨
    (∀ place < size, ¬(LeftOver size start.toNat before place ∧
      LeftOver size 0 (messages - before) place)) ∨
    ∀ place < size, LeftOver size start.toNat before place ∨
      LeftOver size 0 (messages - before) place

/-- A loop whose index does not overflow calls the task once for every message. -/
theorem scatterLoop_some (place : Nat → Nat) (task : Nat → Nat → Message → Int) (index : Nat)
    (group : List Message) (fits : index + group.length ≤ intMax) :
    ∃ scatter, scatterLoop place task index group = some scatter ∧
      scatter.calls.map Prod.snd = group ∧
      scatter.calls.map Prod.fst = (List.range' index group.length).map place ∧
      scatter.rc = (scatter.calls.zipIdx index).countP fun entry =>
        task entry.2 entry.1.1 entry.1.2 = 0 := by
  induction group generalizing index with
  | nil => exact ⟨⟨[], 0⟩, rfl, rfl, rfl, rfl⟩
  | cons message _ inductionHypothesis =>
    rw [List.length_cons] at fits
    obtain ⟨scatter, looped, messages, places, successes⟩ :=
      inductionHypothesis (index + 1) (by omega)
    have inside : index ≠ intMax := by omega
    refine ⟨scatter.after (place index) message (task index (place index) message), ?_, ?_, ?_, ?_⟩
    · rw [scatterLoop, if_neg inside, looped, Option.map_some]
    · rw [Scatter.after, List.map_cons, messages]
    · rw [Scatter.after, List.map_cons, places, List.length_cons, List.range'_succ, List.map_cons]
    · rw [Scatter.after, successes, List.zipIdx_cons, List.countP_cons]
      simp

/-- A loop whose index overflows has no defined outcome. -/
theorem scatterLoop_none (place : Nat → Nat) (task : Nat → Nat → Message → Int) (index : Nat)
    (group : List Message) (inside : index ≤ intMax) (long : intMax < index + group.length) :
    scatterLoop place task index group = none := by
  induction group generalizing index with
  | nil =>
    rw [List.length_nil] at long
    omega
  | cons _ _ inductionHypothesis =>
    rw [List.length_cons] at long
    rw [scatterLoop]
    split
    · rfl
    · rw [inductionHypothesis (index + 1) (by omega) (by omega), Option.map_none]

variable (size : Nat) (task : Nat → Nat → Message → Int) {messages : Nat}

theorem placeInTurn_eq (start : UInt32) (index : Nat) :
    placeInTurn size start index = (start.toNat + index) % 2 ^ 32 % size := by
  unfold placeInTurn
  rw [UInt32.toNat_add, UInt32.toNat_ofNat', Nat.add_mod_mod]

/-- The places of messages before the wrap are a run from the start of the counter. -/
theorem places_before {start : UInt32} (noWrap : messages ≤ 2 ^ 32 - start.toNat) :
    (List.range' 0 messages).map (placeInTurn size start) =
      residues size start.toNat messages := by
  rw [residues_eq_map, ← List.range_eq_range']
  refine List.map_congr_left fun index member => ?_
  have below := List.mem_range.mp member
  have whole : (start.toNat + index) % 2 ^ 32 = start.toNat + index :=
    Nat.mod_eq_of_lt (by omega)
  rw [placeInTurn_eq, whole]

/-- Those of messages from the wrap on are a run from zero. -/
theorem places_after (start : UInt32) (short : messages ≤ 2 ^ 32) :
    (List.range' (2 ^ 32 - start.toNat) messages).map (placeInTurn size start) =
      residues size 0 messages := by
  rw [residues_eq_map, List.range'_eq_map_range, List.map_map]
  refine List.map_congr_left fun index member => ?_
  have below := List.mem_range.mp member
  have start_ := start.toNat_lt
  have wrapped : (start.toNat + (2 ^ 32 - start.toNat + index)) % 2 ^ 32 = 0 + index := by omega
  rw [Function.comp_apply, placeInTurn_eq, wrapped]

/-- The places of a group that wraps are two runs. -/
theorem places_wrapped {start : UInt32} (short : messages ≤ intMax)
    (wraps : 2 ^ 32 - start.toNat < messages) :
    (List.range' 0 messages).map (placeInTurn size start) =
      residues size start.toNat (2 ^ 32 - start.toNat) ++
        residues size 0 (messages - (2 ^ 32 - start.toNat)) := by
  have split : List.range' 0 messages =
      List.range' 0 (2 ^ 32 - start.toNat) ++
        List.range' (2 ^ 32 - start.toNat) (messages - (2 ^ 32 - start.toNat)) := by
    have appended := List.range'_append_1 (s := 0) (m := 2 ^ 32 - start.toNat)
      (n := messages - (2 ^ 32 - start.toNat))
    rw [Nat.zero_add, Nat.add_sub_cancel' wraps.le] at appended
    exact appended.symm
  have bound : intMax ≤ 2 ^ 32 := by decide
  rw [split, List.map_append, places_before size (Nat.le_refl _),
    places_after size start (by omega)]

/-- The messages of a group are balanced exactly if the counter wraps evenly. -/
theorem balanced_places_iff (start : UInt32) (short : messages ≤ intMax) :
    (Balanced size fun place =>
        ((List.range' 0 messages).map (placeInTurn size start)).count place) ↔
      WrapsEvenly size start messages := by
  unfold WrapsEvenly
  dsimp only
  by_cases noWrap : messages ≤ 2 ^ 32 - start.toNat
  · rw [places_before size noWrap]
    exact ⟨fun _ => .inl noWrap, fun _ => balanced_residues size start.toNat messages⟩
  · rw [places_wrapped size short (Nat.lt_of_not_le noWrap), balanced_two_iff]
    exact (or_iff_right noWrap).symm

/-- What becomes of a larger group whose index does not overflow. -/
theorem scatterToNodes_some {size : Nat} (values : Nat → UInt32)
    (task : Nat → Nat → Message → Int) {group : List Message} (larger : size < group.length)
    (some_ : 0 < size) (short : group.length ≤ intMax) :
    ∃ scatter, scatterToNodes size values task group = some scatter ∧
      scatter.calls.map Prod.snd = group ∧ scatter.rc = scatter.successes task ∧
      (Balanced size scatter.given ↔ WrapsEvenly size (values 0) group.length) := by
  obtain ⟨scatter, looped, messages, places, successes⟩ :=
    scatterLoop_some (placeInTurn size (values 0)) task 0 group (by omega)
  refine ⟨scatter, ?_, messages, successes, ?_⟩
  · unfold scatterToNodes
    rw [if_neg (Nat.ne_of_gt some_), if_pos larger]
    exact looped
  · rw [← balanced_places_iff size (values 0) short, ← places]
    rfl

/-- For every number of candidates, every group that is larger, every task and whatever values
`random` returns: the group is spread evenly exactly if there is a candidate, the index of the loop
does not overflow, and the counter wraps evenly. Without an overflow, the task is called once for
every message in their order, and the result counts the calls that returned zero, in any case. -/
theorem scatterToNodes_spread_iff (size : Nat) (values : Nat → UInt32)
    (task : Nat → Nat → Message → Int) (group : List Message) (larger : size < group.length) :
    (Spread size task group (scatterToNodes size values task group) ↔
      0 < size ∧ group.length ≤ intMax ∧ WrapsEvenly size (values 0) group.length) ∧
    (0 < size → group.length ≤ intMax →
      ∃ scatter, scatterToNodes size values task group = some scatter ∧
        scatter.calls.map Prod.snd = group ∧ scatter.rc = scatter.successes task) := by
  have defined_ (some_ : 0 < size) (short : group.length ≤ intMax) :=
    scatterToNodes_some values task larger some_ short
  refine ⟨⟨?_, ?_⟩, ?_⟩
  · rintro ⟨scatter, outcome, -, -, balanced⟩
    have some_ : 0 < size := by
      refine Nat.pos_of_ne_zero fun zero => ?_
      rw [scatterToNodes, if_pos zero] at outcome
      cases outcome
    have short : group.length ≤ intMax := by
      refine Nat.le_of_not_lt fun long => ?_
      rw [scatterToNodes, if_neg (Nat.ne_of_gt some_), if_pos larger,
        scatterLoop_none _ task 0 group (Nat.zero_le _) (by omega)] at outcome
      cases outcome
    obtain ⟨same, found, -, -, wraps⟩ := defined_ some_ short
    cases outcome.symm.trans found
    exact ⟨some_, short, wraps.mp balanced⟩
  · rintro ⟨some_, short, evenly⟩
    obtain ⟨scatter, outcome, messages, successes, wraps⟩ := defined_ some_ short
    exact ⟨scatter, outcome, messages, successes, wraps.mpr evenly⟩
  · intro some_ short
    obtain ⟨scatter, outcome, messages, successes, -⟩ := defined_ some_ short
    exact ⟨scatter, outcome, messages, successes⟩

/-- A group of five for three candidates, from a seed of one. -/
theorem scatterToNodes_spread_five :
    Spread 3 (fun _ place _ => place) [10, 11, 12, 13, 14]
      (scatterToNodes 3 (randoms 1) (fun _ place _ => place) [10, 11, 12, 13, 14]) := by
  refine (scatterToNodes_spread_iff 3 (randoms 1) (fun _ place _ => place) [10, 11, 12, 13, 14]
    (by decide)).1.mpr ⟨by decide, by decide, .inl ?_⟩
  decide +kernel

/-- From this seed `random` returns 2^32 - 6, and the counter wraps behind the sixth of seven
messages for five candidates. The first candidate is given three messages, and the others one
each. -/
theorem scatterToNodes_uneven :
    randoms 428501804 0 = 4294967290 ∧
      (scatterToNodes 5 (randoms 428501804) (fun _ _ _ => 0) [0, 1, 2, 3, 4, 5, 6]).map
          (fun scatter => (List.range 5).map scatter.given) = some [3, 1, 1, 1, 1] ∧
      ¬Spread 5 (fun _ _ _ => 0) [0, 1, 2, 3, 4, 5, 6]
        (scatterToNodes 5 (randoms 428501804) (fun _ _ _ => 0) [0, 1, 2, 3, 4, 5, 6]) := by
  refine ⟨by decide +kernel, by decide +kernel, ?_⟩
  rintro ⟨scatter, outcome, -, -, balanced⟩
  have counts : (scatterToNodes 5 (randoms 428501804) (fun _ _ _ => 0) [0, 1, 2, 3, 4, 5, 6]).map
      (fun scatter => (scatter.given 0, scatter.given 1)) = some (3, 1) := by
    decide +kernel
  rw [outcome] at counts
  have apart := balanced 0 (by decide) 1 (by decide)
  simp only [Option.map_some, Option.some.injEq, Prod.mk.injEq] at counts
  omega

end Mola.LoadBalance
