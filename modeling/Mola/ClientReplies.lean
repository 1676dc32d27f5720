import Mola.Places
import Mola.ClientConn

/-!
# Replies and their callbacks

As long as no callback is registered under an id that another one still has, the map of the
connection has exactly the requests that were sent and not answered, each under its own id,
and every reply finds the callback of the request that it answers.
-/

namespace Mola.ClientConn

/-- No callback is registered under an id that is in use, and a message that answers no
request has no id of a request. -/
def distinct (state : State) : Action → Bool
  | .register index =>
      match state.requests[index]? with
      | some (.drawn reqid) => (state.reqStates reqid).isNone
      | _ => true
  | .deliver reqid _ _ => (state.reqStates reqid).isNone
  | _ => true

/-- The number of times the callback of a request was invoked. -/
def invocations (state : State) (index : Nat) : Nat :=
  state.outcomes.countP fun outcome => outcome.callback = some index

/-- The callbacks are those of the requests that wait for a reply, and each reply was given
to the callback of its request. -/
structure Matched (state : State) : Prop where
  registered : ∀ reqid index, state.reqStates reqid = some index ↔
    state.requests[index]? = some (.sent reqid)
  right : ∀ outcome ∈ state.outcomes, outcome.callback = outcome.reply
  once : ∀ index, invocations state index ≤ 1
  unanswered : ∀ index, state.requests[index]? ≠ some .answered → invocations state index = 0

variable {state : State} {reply : Option Nat}

/-- What `deliver_message` does to the requests and the history. -/
theorem deliverMessage_effect {next : State} {reqid : UInt32} {mod : String} {woken : Option Nat}
    (delivered : deliverMessage state reply reqid mod woken = some next) :
    next.requests = state.requests ∧
      ((∃ callback, state.reqStates reqid = some callback ∧
          next.reqStates = Function.update state.reqStates reqid none ∧
          next.outcomes = state.outcomes ++ [⟨reply, some callback⟩]) ∨
        (state.reqStates reqid = none ∧ next.reqStates = state.reqStates ∧
          next.outcomes = state.outcomes ++ [⟨reply, none⟩])) := by
  unfold deliverMessage at delivered
  split at delivered
  · rename_i callback registered
    split at delivered <;> cases delivered
    exact ⟨rfl, Or.inl ⟨callback, registered, rfl, rfl⟩⟩
  · rename_i unregistered
    dsimp only at delivered
    split at delivered
    · obtain ⟨receivers, -, rfl⟩ := Option.map_eq_some_iff.mp delivered
      exact ⟨rfl, Or.inr ⟨unregistered, rfl, rfl⟩⟩
    · split at delivered <;> cases delivered
      exact ⟨rfl, Or.inr ⟨unregistered, rfl, rfl⟩⟩

theorem look_same (state : State) (index : Nat) (receiver : Receiver) :
    (look state index receiver).reqStates = state.reqStates ∧
      (look state index receiver).requests = state.requests ∧
      (look state index receiver).outcomes = state.outcomes := by
  unfold look
  split <;> exact ⟨rfl, rfl, rfl⟩

/-- A step that is none of the requests'. -/
theorem Matched.frame {next : State} (kept : Matched state)
    (reqStates : next.reqStates = state.reqStates) (requests : next.requests = state.requests)
    (outcomes : next.outcomes = state.outcomes) : Matched next := by
  obtain ⟨registered, right, once, unanswered⟩ := kept
  unfold invocations at once unanswered
  constructor
  · rw [reqStates, requests]
    exact registered
  · rw [outcomes]
    exact right
  · unfold invocations
    rw [outcomes]
    exact once
  · unfold invocations
    rw [outcomes, requests]
    exact unanswered

theorem invocations_cached {next : State}
    (outcomes : next.outcomes = state.outcomes ++ [⟨reply, none⟩]) (index : Nat) :
    invocations next index = invocations state index := by
  simp [invocations, outcomes, List.countP_append]

theorem invocations_invoked {next : State} {callback : Nat}
    (outcomes : next.outcomes = state.outcomes ++ [⟨reply, some callback⟩]) (index : Nat) :
    invocations next index = invocations state index + if callback = index then 1 else 0 := by
  simp [invocations, outcomes, List.countP_append, List.countP_singleton]

/-- A request moves on before it is answered. -/
theorem Matched.advance (kept : Matched state) (index : Nat) (old stage : Stage)
    (reqStates : UInt32 → Option Nat) (found : state.requests[index]? = some old)
    (unanswered : old ≠ .answered)
    (registered : ∀ reqid other, reqStates reqid = some other ↔
      (other = index ∧ .sent reqid = stage) ∨
        (other ≠ index ∧ state.requests[other]? = some (.sent reqid))) :
    Matched { state with
      reqStates := reqStates
      requests := state.requests.set index stage } := by
  refine ⟨fun reqid other => ?_, kept.right, kept.once, fun other unfinished => ?_⟩
  · rw [registered reqid other, Places.set_place stage found]
  · apply kept.unanswered other
    intro answered
    have different : other ≠ index := by
      rintro rfl
      exact unanswered (Option.some.inj (found.symm.trans answered))
    exact unfinished ((Places.set_place stage found other .answered).mpr
      (Or.inr ⟨different, answered⟩))

/-- A new request is not sent yet. -/
theorem Matched.sent (kept : Matched state) :
    Matched { state with requests := state.requests ++ [.drawing] } := by
  refine ⟨fun reqid index => ?_, kept.right, kept.once, fun index unfinished => ?_⟩
  · rw [kept.registered reqid index, Places.append_place]
    constructor
    · exact Or.inl
    · rintro (old | ⟨-, impossible⟩)
      · exact old
      · cases impossible
  · apply kept.unanswered index
    intro answered
    exact unfinished ((Places.append_place _ _ _ _).mpr (Or.inl answered))

theorem sent_elsewhere {index : Nat} {old : Stage} (found : state.requests[index]? = some old)
    {reqid : UInt32} {other : Nat} (different : .sent reqid ≠ old)
    (present : state.requests[other]? = some (.sent reqid)) :
    other ≠ index := by
  rintro rfl
  exact different (Option.some.inj (present.symm.trans found))

/-- An id is drawn. -/
theorem Matched.drew (kept : Matched state) {index : Nat} (reqid : UInt32)
    (found : state.requests[index]? = some .drawing) :
    Matched { state with requests := state.requests.set index (.drawn reqid) } := by
  apply kept.advance index .drawing (.drawn reqid) state.reqStates found
  · intro same
    cases same
  · intro other place
    rw [kept.registered other place]
    constructor
    · intro present
      exact Or.inr ⟨sent_elsewhere found (fun same => by cases same) present, present⟩
    · rintro (⟨-, impossible⟩ | ⟨-, present⟩)
      · cases impossible
      · exact present

/-- A callback is registered under an id that is not in use. -/
theorem Matched.register (kept : Matched state) (index : Nat) (reqid : UInt32)
    (found : state.requests[index]? = some (.drawn reqid)) (unused : state.reqStates reqid = none) :
    Matched { state with
      reqStates := Function.update state.reqStates reqid (some index)
      requests := state.requests.set index (.sent reqid) } := by
  apply kept.advance index (.drawn reqid) (.sent reqid) _ found
  · intro same
    cases same
  · intro other place
    by_cases sameId : other = reqid
    · rw [sameId, Function.update_self]
      constructor
      · intro equal
        exact Or.inl ⟨(Option.some.inj equal).symm, rfl⟩
      · rintro (⟨rfl, -⟩ | ⟨-, present⟩)
        · rfl
        · rw [(kept.registered reqid place).mpr present] at unused
          cases unused
    · rw [Function.update_of_ne sameId, kept.registered other place]
      constructor
      · intro present
        exact Or.inr
          ⟨sent_elsewhere found (fun same => by cases same) present, present⟩
      · rintro (⟨-, equal⟩ | ⟨-, present⟩)
        · cases equal
          exact absurd rfl sameId
        · exact present

/-- A reply finds the callback of its request. -/
theorem Matched.replied {next : State} (kept : Matched state) (index : Nat) (reqid : UInt32)
    (found : state.requests[index]? = some (.sent reqid))
    (requests : next.requests = state.requests.set index .answered)
    (reqStates : next.reqStates = Function.update state.reqStates reqid none)
    (outcomes : next.outcomes = state.outcomes ++ [⟨some index, some index⟩]) :
    Matched next := by
  have counts := invocations_invoked outcomes
  have mine := (kept.registered reqid index).mpr found
  have places : ∀ (place : Nat) stage, next.requests[place]? = some stage ↔
      (place = index ∧ stage = .answered) ∨
        (place ≠ index ∧ state.requests[place]? = some stage) := by
    intro place stage
    rw [requests]
    exact Places.set_place _ found place stage
  constructor
  · intro other place
    rw [places, reqStates]
    by_cases sameId : other = reqid
    · rw [sameId, Function.update_self]
      constructor
      · intro impossible
        cases impossible
      · rintro (⟨-, impossible⟩ | ⟨different, present⟩)
        · cases impossible
        · -- Another request with this id would have its callback under it.
          rw [(kept.registered reqid place).mpr present] at mine
          exact absurd (Option.some.inj mine) different
    · rw [Function.update_of_ne sameId, kept.registered other place]
      constructor
      · intro present
        have different : Stage.sent other ≠ .sent reqid := by
          intro same
          cases same
          exact sameId rfl
        exact Or.inr ⟨sent_elsewhere found different present, present⟩
      · rintro (⟨-, impossible⟩ | ⟨-, present⟩)
        · cases impossible
        · exact present
  · intro outcome member
    rw [outcomes] at member
    rcases List.mem_append.mp member with old | new
    · exact kept.right outcome old
    · rw [List.mem_singleton.mp new]
  · intro other
    by_cases same : index = other
    · have before : invocations state index = 0 := by
        apply kept.unanswered index
        rw [found]
        exact fun equal => by cases equal
      have first : invocations next other = 1 := by
        rw [← same, counts index, before, if_pos rfl]
      exact Nat.le_of_eq first
    · rw [counts other, if_neg same]
      exact kept.once other
  · intro other unfinished
    have different : index ≠ other := by
      rintro rfl
      exact unfinished ((places index .answered).mpr (Or.inl ⟨rfl, rfl⟩))
    rw [counts other, if_neg different]
    apply kept.unanswered other
    intro answered
    exact unfinished ((places other .answered).mpr (Or.inr ⟨Ne.symm different, answered⟩))

/-- A message that answers no request goes into the cache. -/
theorem Matched.cached {next : State} (kept : Matched state)
    (requests : next.requests = state.requests) (reqStates : next.reqStates = state.reqStates)
    (outcomes : next.outcomes = state.outcomes ++ [⟨none, none⟩]) : Matched next := by
  have counts := invocations_cached outcomes
  constructor
  · rw [requests, reqStates]
    exact kept.registered
  · intro outcome member
    rw [outcomes] at member
    rcases List.mem_append.mp member with old | new
    · exact kept.right outcome old
    · rw [List.mem_singleton.mp new]
  · intro index
    rw [counts index]
    exact kept.once index
  · intro index unfinished
    rw [counts index]
    rw [requests] at unfinished
    exact kept.unanswered index unfinished

/-- Every step that registers no id twice keeps the replies with their callbacks. -/
theorem step_matched (state : State) (action : Action) (next : State) (kept : Matched state)
    (allowed : distinct state action = true) (stepped : step state action = some next) :
    Matched next := by
  cases action with simp only [step] at stepped
  | send =>
    cases stepped
    exact kept.sent
  | rand _ value =>
    split at stepped
    · rename_i found
      split at stepped <;> cases stepped
      · exact kept
      · exact kept.drew value found
    · cases stepped
  | register index =>
    split at stepped
    · rename_i reqid found
      simp only [distinct, found, Option.isNone_iff_eq_none] at allowed
      cases stepped
      simp only [allowed, Option.isSome_none, Bool.false_eq_true, if_false]
      exact kept.register index reqid found allowed
    · cases stepped
  | reply index =>
    split at stepped
    · rename_i reqid found
      obtain ⟨requests, ⟨callback, registered, reqStates, outcomes⟩ | ⟨unregistered, -⟩⟩ :=
        deliverMessage_effect stepped
      · have same : callback = index := by
          have mine := (kept.registered reqid index).mpr found
          exact Option.some.inj (registered.symm.trans mine)
        rw [same] at outcomes
        exact kept.replied index reqid found requests reqStates outcomes
      · have mine := (kept.registered reqid index).mpr found
        cases unregistered.symm.trans mine
    · cases stepped
  | deliver =>
    simp only [distinct, Option.isNone_iff_eq_none] at allowed
    obtain ⟨requests, ⟨callback, registered, -⟩ | ⟨-, reqStates, outcomes⟩⟩ :=
      deliverMessage_effect stepped
    · cases allowed.symm.trans registered
    · exact kept.cached requests reqStates outcomes
  | recv =>
    cases stepped
    exact kept.frame rfl rfl rfl
  | proceed index =>
    split at stepped
    · rename_i receiver found
      obtain ⟨reqStates, requests, outcomes⟩ := look_same state index receiver
      split at stepped <;> cases stepped <;> exact kept.frame reqStates requests outcomes
    · cases stepped
  | wakeUp =>
    obtain ⟨receivers, -, rfl⟩ := Option.map_eq_some_iff.mp stepped
    exact kept.frame rfl rfl rfl

/-- In every run in which no callback is registered under an id that is in use, each reply
invokes the callback of the request that it answers, no other message invokes one, and no
callback is invoked twice. -/
theorem run_answers (schedule : List Action) (final : State)
    (allowed : Runs.Along step (fun state action => distinct state action = true) start schedule)
    (executed : Runs.run step start schedule = some final) :
    (∀ outcome ∈ final.outcomes, outcome.callback = outcome.reply) ∧
      ∀ index, invocations final index ≤ 1 := by
  have initial : Matched start := by
    refine ⟨fun reqid index => ?_, fun outcome member => ?_, fun index => Nat.zero_le _,
      fun index _ => rfl⟩
    · constructor
      all_goals
        intro impossible
        cases impossible
    · cases member
  have kept := Runs.run_preserves step _ Matched step_matched start final schedule initial allowed
    executed
  exact ⟨kept.right, kept.once⟩

/-- Two requests are answered in the other order. The first draws 0 once, and the id of the
first one is drawn again after its reply. -/
def inTurn : List Action :=
  [.send, .send, .rand 0 0, .rand 0 7, .rand 1 8, .register 0, .register 1, .reply 1 "m" none,
    .deliver 0 "m" none, .reply 0 "m" none, .send, .rand 2 7, .register 2, .reply 2 "m" none]

theorem inTurn_completes : (Runs.run step start inTurn).isSome := by decide +kernel

/-- Each reply is given to its own callback, and the other message to none. -/
theorem run_answers_in_turn :
    ∃ final, Runs.run step start inTurn = some final ∧
      final.outcomes = [⟨some 1, some 1⟩, ⟨none, none⟩, ⟨some 0, some 0⟩, ⟨some 2, some 2⟩] ∧
      (∀ outcome ∈ final.outcomes, outcome.callback = outcome.reply) ∧
      ∀ index, invocations final index ≤ 1 := by
  refine ⟨Option.get _ inTurn_completes, (Option.some_get _).symm, ?_, ?_⟩
  · decide +kernel
  · apply run_answers inTurn _ ?_ (Option.some_get _).symm
    decide +kernel

/-- `rand` returns 7 for both requests. -/
def sameId : List Action :=
  [.send, .send, .rand 0 7, .rand 1 7, .register 0, .register 1, .reply 1 "m" none,
    .reply 0 "m" none]

theorem sameId_completes : (Runs.run step start sameId).isSome := by decide +kernel

/-- The reply to the second request invokes the callback of the first one, and the reply to
the first one goes into the cache. -/
theorem callback_mistaken :
    ∃ final, Runs.run step start sameId = some final ∧
      final.outcomes = [⟨some 1, some 0⟩, ⟨some 0, none⟩] ∧ final.cache = [("m", 1)] := by
  refine ⟨Option.get _ sameId_completes, (Option.some_get _).symm, ?_, ?_⟩
  · decide +kernel
  · decide +kernel

end Mola.ClientConn
