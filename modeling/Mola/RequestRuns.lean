import Mola.RequestIds
import Mola.RequestTurns

/-!
# Runs of one actor

Every step of an actor with its ledger goes by moves, so the laws of continuations hold
in every state that a run reaches. The only condition is that an id is free whenever a
step takes one. With fewer than `2 ^ 32` ids outstanding, request ids are never confused:
the map has no entry under a recycled id, a new id is neither zero nor in use nor that of
a failed scatter, and every answer is given the context of its own call.
-/

namespace Mola.Requests

open Tickets Relation

universe u
variable {Body : Type u}

/-- A step that takes a request id leaves fewer than `2 ^ 32` ids outstanding or
abandoned. -/
def fewIds (solo : Solo Body) (action : Action Body) : Bool :=
  match soloStep solo action with
  | none => true
  | some next =>
      decide (next.actor.issued.length = solo.actor.issued.length) ||
        decide (solo.actor.contexts.keys.length + solo.actor.abandoned.length + 1 < 2 ^ 32)

/-- No gather callback waits on its fiber for the answer to a call. -/
def noWait (solo : Solo Body) : Action Body → Bool
  | .act (.call _ _ outcome) =>
      match solo.actor.status with
      | .running ⟨_, _, _, .gather _ _⟩ => outcome = .failed
      | _ => true
  | _ => true

theorem room_few {actor : Actor Body}
    (few : actor.contexts.keys.length + actor.abandoned.length + 1 < 2 ^ 32) : Room actor := by
  unfold Room outstanding keys
  rw [Multiset.card_add, Multiset.coe_card, Multiset.coe_card]
  exact few

theorem fewIds_room {solo next : Solo Body} {action : Action Body}
    (few : fewIds solo action = true) (stepped : soloStep solo action = some next)
    (takes : next.actor.issued.length ≠ solo.actor.issued.length) : Room solo.actor := by
  unfold fewIds at few
  rw [stepped] at few
  dsimp only at few
  rw [decide_eq_false takes, Bool.false_or] at few
  exact room_few (of_decide_eq_true few)

/-- A call on a fiber that is allowed and made is made outside gather callbacks. -/
theorem noWait_outside {solo : Solo Body} {frame : Frame Body} {target : Address} {body : Body}
    {outcome : Outcome} (runs : solo.actor.status = .running frame)
    (calm : noWait solo (.act (.call target body outcome)) = true) (made : outcome ≠ .failed) :
    frame.stage = .interface := by
  unfold noWait at calm
  dsimp only at calm
  rw [runs] at calm
  obtain ⟨message, ctx, fiber, stage⟩ := frame
  cases stage with
  | interface => rfl
  | gather => exact absurd (of_decide_eq_true calm) made

section
variable (quiet : Prop) (solo : Solo Body)

/-- An answer is handled with the context of its call. -/
theorem answer_goes (number : Nat) (call : Call Body) (sender : Address) (body : Body)
    (law : (shown solo none).Law) (account : Exact solo.actor)
    (entered : solo.ledger number = some call) (waits : call.Open)
    (result : Actor Body × List (Effect Body))
    (received : execute solo.actor (answerTo solo number call sender body) = some result)
    (room : result.1.issued.length ≠ solo.actor.issued.length → Room solo.actor) :
    Goes quiet (shown solo none) (advance (heard solo number call body) result) := by
  cases recorded : call.recorded with
  | false =>
    have given := (law.lost number call entered recorded).2
    have positive := exact_positive account
      (Multiset.mem_add.mpr (Or.inr given))
    exact miss_goes quiet solo number call sender body law account entered waits recorded positive
      result received
  | true =>
    obtain ⟨⟨initiator, shape, stamp⟩, found, rfl⟩ := law.waiting number call entered waits recorded
    have positive := exact_positive account
      (find_outstanding found)
    have stored := law.stored call.reqid _ found
    cases shape with
    | plain =>
      obtain ⟨known, again, single⟩ := stored
      cases entered.symm.trans again
      exact hearPlain_goes quiet solo stamp call sender body account entered waits single.single
        positive initiator found result received room
    | group size messages done =>
      exact hearGroup_goes quiet solo stamp call sender body account entered waits positive
        initiator size messages done found result received room
    | fiber state =>
      cases state with
      | running | dead => exact absurd stored.1 nofun
      | suspend stage =>
        obtain ⟨known, again, single, synchronous⟩ := stored
        cases entered.symm.trans again
        exact wake_goes quiet solo stamp call sender body account entered waits single.single
          positive initiator stage found synchronous result received

/-- An actor that takes a message waits for one. -/
theorem step_receive (actor : Actor Body) (message : Message Body)
    (result : Actor Body × List (Effect Body))
    (stepped : step actor (.receive message) = some result) :
    actor.status = .idle ∧ execute actor message = some result := by
  unfold step at stepped
  cases status : actor.status with rw [status] at stepped
  | idle =>
    exact ⟨rfl, stepped⟩
  | running | halted =>
    cases stepped

/-- An actor that does anything else runs a callback. -/
theorem step_running (actor : Actor Body) (act : Act Body)
    (result : Actor Body × List (Effect Body)) (other : ∀ message, act ≠ .receive message)
    (stepped : step actor act = some result) : ∃ frame, actor.status = .running frame := by
  unfold step at stepped
  cases status : actor.status with rw [status] at stepped
  | running frame => exact ⟨frame, rfl⟩
  | idle =>
    cases act with
    | receive message => exact absurd rfl (other message)
    | _ => cases stepped
  | halted =>
    cases act <;> cases stepped

/-- Every action of a callback goes by moves. -/
theorem act_goes (frame : Frame Body) (act : Act Body) (result : Actor Body × List (Effect Body))
    (runs : solo.actor.status = .running frame) (account : Exact solo.actor)
    (law : (shown solo (some frame)).Law)
    (room : result.1.issued.length ≠ solo.actor.issued.length → Room solo.actor)
    (calm : quiet → noWait solo (.act act) = true)
    (stepped : step solo.actor act = some result) :
    Goes quiet (shown solo (some frame)) (advance solo result) := by
  unfold step at stepped
  rw [runs] at stepped
  cases act with
  | receive => cases stepped
  | send target returnIntf body outcome =>
    cases stepped
    refine send_goes quiet solo frame runs account target returnIntf body outcome fun some_ => ?_
    obtain ⟨intf, rfl⟩ := Option.isSome_iff_exists.mp some_
    exact room (dispatch_draws solo.actor frame target intf body outcome)
  | scatter gatherIntf postings =>
    dsimp only at stepped
    split at stepped
    next short =>
      cases stepped
      exact scatter_goes quiet solo frame runs account gatherIntf postings short fun some_ =>
        room (scatterToIntf_draws solo.actor frame gatherIntf some_)
    next => cases stepped
  | lock returnIntf =>
    cases stepped
    exact lock_goes quiet solo frame runs account returnIntf
      (room (lockOrSubscribe_draws solo.actor frame returnIntf))
  | call target body outcome =>
    dsimp only at stepped
    cases threaded : frame.fiber with
    | none =>
      rw [threaded] at stepped
      cases stepped
    | some fiber =>
      cases handles : frame.message with rw [threaded, handles] at stepped
      | none =>
        cases stepped
      | some message =>
        cases stepped
        exact call_goes quiet solo frame runs account law fiber message target body outcome
          threaded handles fun holds made =>
            noWait_outside runs (calm holds) made
  | save vtab =>
    cases stepped
    exact save_goes quiet solo frame runs account vtab
  | reply handle vtab body =>
    exact reply_goes quiet solo frame runs account handle vtab body result stepped
  | gatherReturn value =>
    dsimp only at stepped
    cases inside : frame.stage with rw [inside] at stepped
    | interface =>
      cases stepped
    | gather group held =>
      cases stepped
      exact gatherReturn_goes quiet solo frame account law group held value inside
  | finish value =>
    dsimp only at stepped
    cases outside : frame.stage with rw [outside] at stepped
    | interface =>
      exact finish_goes quiet solo frame account law value outside result stepped
    | gather =>
      cases stepped

/-- Every step goes by moves. -/
theorem soloStep_goes (frame : Option (Frame Body)) (action : Action Body) (next : Solo Body)
    (fits : Fits solo.actor frame) (law : (shown solo frame).Law)
    (few : fewIds solo action = true) (calm : quiet → noWait solo action = true)
    (stepped : soloStep solo action = some next) : Goes quiet (shown solo frame) next := by
  have room := fewIds_room few stepped
  unfold Fits at fits
  cases action with unfold soloStep at stepped
  | arrive message =>
    dsimp only at stepped
    split at stepped
    next foreign =>
      obtain ⟨result, taken, rfl⟩ := Option.map_eq_some_iff.mp stepped
      obtain ⟨idle, received⟩ := step_receive solo.actor message result taken
      rw [idle] at fits
      obtain ⟨rfl, account⟩ := fits
      exact arrive_goes quiet solo message account foreign result received room
    next => cases stepped
  | answer number sender body =>
    dsimp only at stepped
    cases entered : solo.ledger number with rw [entered] at stepped
    | none =>
      cases stepped
    | some call =>
      dsimp only at stepped
      split at stepped
      next waits =>
        obtain ⟨result, taken, rfl⟩ := Option.map_eq_some_iff.mp stepped
        obtain ⟨idle, received⟩ := step_receive solo.actor _ result taken
        rw [idle] at fits
        obtain ⟨rfl, account⟩ := fits
        exact answer_goes quiet solo number call sender body law account entered waits result
          received room
      next => cases stepped
  | act act =>
    obtain ⟨other, mapped⟩ : (∀ message, act ≠ .receive message) ∧
        (step solo.actor act).map (advance solo) = some next := by
      cases act with
      | receive => cases stepped
      | _ => exact ⟨nofun, stepped⟩
    obtain ⟨result, taken, rfl⟩ := Option.map_eq_some_iff.mp mapped
    obtain ⟨running, status⟩ := step_running solo.actor act result other taken
    rw [status] at fits
    obtain ⟨rfl, account⟩ := fits
    exact act_goes quiet solo running act result status account law room calm taken

end

/-- All that is known of a view. -/
structure Good (quiet : Prop) (view : View Body) : Prop where
  law : view.Law
  outputs : view.Outputs
  called : view.Called
  rooted : view.Rooted
  prompt : quiet → view.Prompt

/-- An actor fits a frame in which its view is good. -/
def Held (quiet : Prop) (solo : Solo Body) : Prop :=
  ∃ frame, Fits solo.actor frame ∧ Good quiet (shown solo frame)

/-- Moves keep a view good. -/
theorem moves_good (quiet : Prop) (view next : View Body)
    (moves : ReflTransGen (Move quiet) view next) (good : Good quiet view) : Good quiet next := by
  induction moves with
  | refl => exact good
  | tail _ move before =>
    exact ⟨View.move_law quiet _ _ move before.law,
      View.move_outputs quiet _ _ move before.law before.outputs,
      View.move_called move before.called,
      View.move_rooted quiet _ _ move before.rooted before.law,
      fun holds => View.move_prompt quiet _ _ move (before.prompt holds) holds⟩

theorem soloStep_held (quiet : Prop) (solo : Solo Body) (action : Action Body)
    (next : Solo Body) (held : Held quiet solo)
    (allowed : fewIds solo action = true ∧ (quiet → noWait solo action = true))
    (stepped : soloStep solo action = some next) : Held quiet next := by
  obtain ⟨frame, fits, good⟩ := held
  obtain ⟨after, moves, fits⟩ :=
    soloStep_goes quiet solo frame action next fits good.law allowed.1 allowed.2 stepped
  exact ⟨after, fits, moves_good quiet _ _ moves good⟩

/-- A view without contexts, calls and outputs, in the init callback. -/
structure Blank (view : View Body) : Prop where
  find : ∀ id, view.find id = none
  ledger : ∀ number, view.ledger number = none
  abandoned : view.abandoned = []
  frame : view.frame = some ⟨none, none, none, .interface⟩
  root : view.root = none
  saved : ∀ handle, view.saved handle = none
  savedRoots : ∀ handle, view.savedRoots handle = none
  replies : view.replies = []
  installed : view.installed = []
  gathered : ∀ number, view.gathered number = []
  recycled : ∀ number, view.recycled number = []

section
variable (quiet : Prop) (view : View Body) (blank : Blank view)
include blank

theorem blank_find (id : Nat) (context : Context Body) : view.find id ≠ some context := by
  rw [blank.find]
  exact (Option.some_ne_none context).symm

theorem blank_ledger (number : Nat) (call : Call Body) : view.ledger number ≠ some call := by
  rw [blank.ledger]
  exact (Option.some_ne_none call).symm

/-- Nobody is in a gather callback. -/
theorem blank_holder (holder : Option Nat) (group : Nat) : ¬ view.Holder holder group := by
  rintro held
  cases holder with
  | none =>
    obtain ⟨frame, message, runs, inside⟩ := held
    cases blank.frame.symm.trans runs
    cases inside
  | some =>
    obtain ⟨context, message, found, -⟩ := held
    exact blank_find view blank _ context found

/-- A blank view obeys the law. -/
theorem blank_law : view.Law := by
  constructor
  · exact fun number call entered => (blank_ledger view blank number call entered).elim
  · exact fun id context found => (blank_find view blank id context found).elim
  · exact fun id context found => (blank_find view blank id context found).elim
  · exact fun number call entered => (blank_ledger view blank number call entered).elim
  · exact fun number call entered => (blank_ledger view blank number call entered).elim
  · exact fun id _ => blank.find id
  · intro frame runs
    cases blank.frame.symm.trans runs
    exact ⟨nofun, nofun⟩
  · intro frame message runs handles
    cases blank.frame.symm.trans runs
    cases handles
  · exact fun holder group held => (blank_holder view blank holder group held).elim
  · exact fun holder other group held => (blank_holder view blank holder group held).elim

/-- A blank view is good. -/
theorem blank_good : Good quiet view := by
  refine ⟨blank_law view blank, ⟨?_, ?_, ?_, ?_, ?_⟩, ⟨?_, ?_, ?_⟩, ⟨?_, ?_, ?_, ?_⟩,
    fun _ => ⟨?_, ?_, fun fiber => blank_holder view blank (some fiber)⟩⟩
  · intro number found installed
    rw [blank.installed] at installed
    cases installed
  · intro number
    rw [blank.gathered, blank.ledger]
    rfl
  · exact fun number call entered => (blank_ledger view blank number call entered).elim
  · exact fun number call entered => (blank_ledger view blank number call entered).elim
  · exact fun number _ => blank.recycled number
  · intro root own
    rw [blank.root] at own
    cases own
  · exact fun number call root entered => (blank_ledger view blank number call entered).elim
  · intro handle root own
    rw [blank.savedRoots] at own
    cases own
  · exact fun id context call root found => (blank_find view blank id context found).elim
  · intro frame root _ own
    rw [blank.root] at own
    cases own
  · intro handle saved root own
    rw [blank.saved] at own
    cases own
  · intro reply root replied
    rw [blank.replies] at replied
    cases replied
  · exact fun id context found => (blank_find view blank id context found).elim
  · intro frame group held runs inside
    cases blank.frame.symm.trans runs
    cases inside

end

/-- An actor in its init callback has a blank view. -/
theorem begin_blank (self : Address) (sync : Nat → Bool) :
    Blank (shown (begin self sync : Solo Body) (some ⟨none, none, none, .interface⟩)) := by
  constructor
  · exact fun _ => rfl
  · exact fun _ => rfl
  · rfl
  · rfl
  · rfl
  · exact fun _ => rfl
  · exact fun _ => rfl
  · rfl
  · rfl
  · exact fun _ => rfl
  · exact fun _ => rfl

theorem begin_held (quiet : Prop) (self : Address) (sync : Nat → Bool) :
    Held quiet (begin self sync : Solo Body) := by
  refine ⟨some ⟨none, none, none, .interface⟩, ⟨rfl, Nat.two_pow_pos 32, rfl⟩, ?_⟩
  exact blank_good quiet _ (begin_blank self sync)

/-- In every state of a run whose steps find a free id, and wait in no gather callback if
the actor is quiet, the actor is as it should be. -/
theorem run_held {quiet : Prop} {self : Address} {sync : Nat → Bool}
    {schedule : List (Action Body)} {final : Solo Body}
    (allowed : Runs.Along soloStep (fun solo action => fewIds solo action = true ∧
      (quiet → noWait solo action = true)) (begin self sync) schedule)
    (executed : Runs.run soloStep (begin self sync) schedule = some final) :
    Held quiet final :=
  Runs.run_preserves soloStep _ (Held quiet) (soloStep_held quiet) (begin self sync) final
    schedule (begin_held quiet self sync) allowed executed

/-- Request ids are not confused: recycled ids do not repeat and have no context, all ids
are generated ones, the id that a step takes is not in use, no stored context is
overwritten, and every answer was given the context of its own call, or none if that call
was not recorded. -/
structure Distinct (solo : Solo Body) : Prop where
  nodup : solo.actor.reqids.recycle.Nodup
  apart : ∀ id ∈ solo.actor.reqids.recycle, findReqCtx solo.actor id = none
  range : ∀ id, id ∈ solo.actor.reqids.recycle ∨ (findReqCtx solo.actor id).isSome ∨
    id ∈ solo.actor.abandoned → 1 ≤ id ∧ id ≤ solo.actor.reqids.generator
  fresh : ∀ action next id, fewIds solo action = true → soloStep solo action = some next →
    next.actor.issued = id :: solo.actor.issued →
    id ≠ 0 ∧ findReqCtx solo.actor id = none ∧ id ∉ solo.actor.abandoned
  inserted : solo.actor.status ≠ .halted .insertAssertion
  installed : ∀ number found, .installed number found ∈ solo.log → ∃ call,
    solo.ledger number = some call ∧ found = if call.recorded then some number else none

/-- An actor accounts for its ids, and has not failed to store a context. -/
theorem fits_account {actor : Actor Body} {frame : Option (Frame Body)} (fits : Fits actor frame) :
    actor.status ≠ .halted .insertAssertion ∧
      ∃ leaked, Accounted (2 ^ 32) actor.reqids (outstanding actor + leaked) := by
  unfold Fits at fits
  cases status : actor.status with rw [status] at fits
  | halted =>
    refine ⟨fun same => fits.1 ?_, fits.2⟩
    injection same
  | idle | running =>
    exact ⟨nofun, 0, by rw [Multiset.add_zero]; exact fits.2⟩

theorem installs_mem {log : List (Effect Body)} {number : Nat} {found : Option Nat}
    (logged : .installed number found ∈ log) : (number, found) ∈ installs log :=
  List.mem_filterMap.mpr ⟨_, logged, rfl⟩

/-- A step of an actor with its ledger is a step of the actor. -/
theorem soloStep_step {solo next : Solo Body} {action : Action Body}
    (stepped : soloStep solo action = some next) :
    ∃ act result, step solo.actor act = some result ∧ next.actor = result.1 := by
  cases action with unfold soloStep at stepped
  | arrive =>
    dsimp only at stepped
    split at stepped
    · obtain ⟨result, taken, rfl⟩ := Option.map_eq_some_iff.mp stepped
      exact ⟨_, result, taken, rfl⟩
    · cases stepped
  | answer =>
    dsimp only at stepped
    split at stepped
    · cases stepped
    · split at stepped
      · obtain ⟨result, taken, rfl⟩ := Option.map_eq_some_iff.mp stepped
        exact ⟨_, result, taken, rfl⟩
      · cases stepped
  | act act =>
    cases act with
    | receive => cases stepped
    | _ =>
      obtain ⟨result, taken, rfl⟩ := Option.map_eq_some_iff.mp stepped
      exact ⟨_, result, taken, rfl⟩

/-- An actor that takes a step accounts for its ids. -/
theorem step_exact (actor : Actor Body) (act : Act Body) (frame : Option (Frame Body))
    (result : Actor Body × List (Effect Body)) (stepped : step actor act = some result)
    (fits : Fits actor frame) : Exact actor := by
  unfold Fits at fits
  cases status : actor.status with rw [status] at fits
  | idle | running =>
    exact fits.2
  | halted =>
    unfold step at stepped
    rw [status] at stepped
    cases act <;> cases stepped

/-- Request ids are not confused in any state of a run in which fewer than `2 ^ 32` ids
are outstanding or abandoned. -/
theorem run_ids_distinct (self : Address) (sync : Nat → Bool) (schedule : List (Action Body))
    (final : Solo Body)
    (few : Runs.Along soloStep (fun solo action => fewIds solo action = true) (begin self sync)
      schedule)
    (executed : Runs.run soloStep (begin self sync) schedule = some final) :
    Distinct final := by
  have allowed := Runs.along_mono soloStep _ (fun solo action => fewIds solo action = true ∧
    (False → noWait solo action = true)) (fun _ _ free => ⟨free, nofun⟩) _ schedule few
  obtain ⟨frame, fits, good⟩ := run_held allowed executed
  obtain ⟨inserted, leaked, account⟩ := fits_account fits
  have out (id : Nat) (found : (findReqCtx final.actor id).isSome ∨ id ∈ final.actor.abandoned) :
      id ∈ outstanding final.actor + leaked := by
    apply Multiset.mem_add.mpr
    left
    exact Multiset.mem_add.mpr (found.imp_left (mem_keys final.actor.contexts id).mpr)
  constructor
  · exact accounted_recycle_nodup _ _ _ account
  · intro id recycled
    have unused := accounted_disjoint _ _ _ account id recycled
    cases found : findReqCtx final.actor id with
    | none => rfl
    | some => exact absurd (out id (Or.inl (by rw [found]; rfl))) unused
  · intro id either
    exact accounted_range _ _ _ account id (either.imp_right (out id))
  · intro action next id free stepped taken
    obtain ⟨act, result, step, same⟩ := soloStep_step stepped
    have exact_ := step_exact final.actor act frame result step fits
    have room : Room final.actor := by
      apply fewIds_room free stepped
      rw [taken, List.length_cons]
      exact Nat.succ_ne_self _
    have drawn := newReqid_drawn final.actor exact_ room
    rw [same] at taken
    obtain none_ | next_ := step_takes step
    · exact absurd (taken.symm.trans none_) (List.cons_ne_self _ _)
    · obtain ⟨rfl, -⟩ := List.cons.inj (taken.symm.trans next_)
      exact ⟨drawn.positive, drawn.new, drawn.usable⟩
  · exact inserted
  · intro number found logged
    exact good.outputs.installed number found (installs_mem logged)

/-- In its init callback an actor sends a request, fails to send another, scatters two
messages, fails to scatter, and asks for a lock. Then answers come in another order, and
between them a request that waits on a fiber for an answer of its own. -/
def mixedCalls : List (Action Nat) :=
  [.act (.send ⟨1, 0⟩ (some 2) 7 .kept), .act (.send ⟨1, 0⟩ (some 2) 7 .failed),
    .act (.scatter 3 [some ⟨⟨1, 0⟩, 8, true⟩, some ⟨⟨2, 0⟩, 9, true⟩]),
    .act (.scatter 3 [some ⟨⟨1, 0⟩, 8, true⟩, some ⟨⟨2, 0⟩, 9, false⟩]), .act (.lock 4),
    .act (.finish none), .answer 3 ⟨2, 0⟩ 20, .act (.finish none), .answer 1 ⟨1, 0⟩ 10,
    .act (.finish none), .arrive ⟨.request, 5, ⟨7, 1⟩, ⟨0, 9⟩, 0, 30⟩,
    .act (.call ⟨1, 0⟩ 31 .kept), .answer 3 ⟨1, 0⟩ 21, .act (.gatherReturn none),
    .act (.finish none), .answer 6 ⟨1, 0⟩ 32, .act (.finish (some 33)), .answer 5 ⟨3, 0⟩ 40,
    .act (.finish none)]

theorem mixedCalls_completes :
    (Runs.run soloStep (begin ⟨0, 0⟩ fun intf => intf == 9) mixedCalls).isSome := by
  decide +kernel

/-- Four ids were generated. Three are recycled at the end, and the id of the failed
scatter is not. -/
theorem run_ids_distinct_mixed :
    ∃ final, Runs.run soloStep (begin ⟨0, 0⟩ fun intf => intf == 9) mixedCalls = some final ∧
      final.actor.reqids = ⟨4, [4, 1, 2]⟩ ∧ final.actor.abandoned = [3] ∧ Distinct final := by
  refine ⟨Option.get _ mixedCalls_completes, (Option.some_get _).symm, ?_, ?_, ?_⟩
  · decide +kernel
  · decide +kernel
  · apply run_ids_distinct ⟨0, 0⟩ (fun intf => intf == 9) mixedCalls
    · decide +kernel
    · exact (Option.some_get _).symm

end Mola.Requests
