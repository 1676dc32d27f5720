import Mola.RequestRuns

/-!
# A gather fires once, when it is complete

A scatter that was recorded collects its answers in its group. Its gather callback runs
once, in the step that handles the last answer, with the answers in the order in which
they came. The group stays in the map until then, with the answers so far and no others,
and it is deleted and its id recycled at the end of that turn.

A gather callback that waits on its fiber for an answer ends the turn before its group is
done. When it returns, the current context is that of the fiber, so the group stays in
the map and its id is lost.
-/

namespace Mola.Requests

open Tickets Relation

universe u
variable {Body : Type u}

/-- A scatter has run its gather callback exactly when all answers came, with these
answers. Until then its group holds the answers so far. When the actor is idle again, the
group is gone and its id was recycled once. -/
structure GatheredOnce (solo : Solo Body) (number : Nat) (call : Call Body) : Prop where
  fired : gathers solo.log number =
    if call.answers.length < call.size then [] else [call.answers]
  kept : call.answers.length < call.size → ∃ context,
    findReqCtx solo.actor call.reqid = some context ∧ context.call = number ∧
      context.shape = .group call.size call.answers false ∧ recycles solo.log number = []
  removed : call.size ≤ call.answers.length → solo.actor.status = .idle →
    recycles solo.log number = [call.reqid] ∧
      ∀ context, findReqCtx solo.actor call.reqid = some context → context.call ≠ number
  once : recycles solo.log number = [] ∨ recycles solo.log number = [call.reqid]

section
variable (view : View Body) (law : view.Law)
include law

/-- The context of a scatter is a group with the answers of the scatter. -/
theorem scatter_group (id : Nat) (context : Context Body) (call : Call Body)
    (found : view.find id = some context) (entered : view.ledger context.call = some call)
    (scattered : call.scatter = true) :
    ∃ done, context.shape = .group call.size call.answers done ∧
      (done = true → call.answers.length = call.size) := by
  have stored := law.stored id context found
  unfold View.Stored at stored
  split at stored
  next =>
    obtain ⟨known, same, kept⟩ := stored
    cases entered.symm.trans same
    exact absurd scattered (by rw [kept.single]; exact Bool.false_ne_true)
  next size messages done shape =>
    obtain ⟨known, same, kept, full⟩ := stored
    cases entered.symm.trans same
    rw [kept.collected, kept.sized]
    exact ⟨done, shape, full⟩
  next => exact absurd scattered (by rw [(stored.2 call entered).2]; exact Bool.false_ne_true)
  next =>
    obtain ⟨known, same, kept, _⟩ := stored
    cases entered.symm.trans same
    exact absurd scattered (by rw [kept.single]; exact Bool.false_ne_true)
  next => exact absurd scattered (by rw [(stored.2 call entered).2]; exact Bool.false_ne_true)

/-- Outside a turn no complete scatter has a context. -/
theorem complete_absent (prompt : view.Prompt) (rests : view.frame = none) (number : Nat)
    (call : Call Body) (entered : view.ledger number = some call)
    (scattered : call.scatter = true) (closed : call.size ≤ call.answers.length) :
    ¬ view.Present number call := by
  rintro ⟨context, found, rfl⟩
  have bounded := (law.numbered _ call entered).2.2
  obtain ⟨done, shape, -⟩ := scatter_group view law _ context call found entered scattered
  have full : View.Full context := ⟨call.size, call.answers, done, shape, by omega⟩
  obtain ⟨frame, runs, -⟩ := prompt.complete _ context found full
  exact Option.some_ne_none frame (runs.symm.trans rests)

end

/-- A gather fires once in every state of a run in which no gather callback waits and
fewer than `2 ^ 32` ids are outstanding or abandoned. -/
theorem run_gathers_once (self : Address) (sync : Nat → Bool) (schedule : List (Action Body))
    (final : Solo Body)
    (allowed : Runs.Along soloStep (fun solo action => fewIds solo action = true ∧
      noWait solo action = true) (begin self sync) schedule)
    (executed : Runs.run soloStep (begin self sync) schedule = some final) (number : Nat)
    (call : Call Body) (entered : final.ledger number = some call)
    (scattered : call.scatter = true) (recorded : call.recorded = true) :
    GatheredOnce final number call := by
  have quietly := Runs.along_mono soloStep _ (fun solo action => fewIds solo action = true ∧
    (True → noWait solo action = true)) (fun _ _ both => ⟨both.1, fun _ => both.2⟩) _ schedule
    allowed
  obtain ⟨frame, fits, good⟩ := run_held quietly executed
  have outputs := good.outputs
  constructor
  · have gathered := outputs.gathered number
    change gathers final.log number = View.gatherings (final.ledger number) at gathered
    rw [gathered, entered]
    by_cases waits : call.answers.length < call.size
    · rw [if_pos waits]
      exact View.gatherings_open waits
    · rw [if_neg waits]
      exact if_pos ⟨scattered, recorded, Nat.le_of_not_lt waits⟩
  · intro waits
    obtain ⟨context, found, own⟩ := good.law.waiting number call entered waits recorded
    obtain ⟨done, shape, full⟩ :=
      scatter_group _ good.law _ context call found (own ▸ entered) scattered
    have undone : done = false := by
      cases done with
      | false => rfl
      | true => exact absurd (full rfl) (by omega)
    exact ⟨context, found, own, undone ▸ shape,
      outputs.present number call entered scattered recorded ⟨context, found, own⟩⟩
  · intro closed idle
    unfold Fits at fits
    rw [idle] at fits
    have absent := complete_absent _ good.law (good.prompt trivial) fits.1 number call entered
      scattered closed
    exact ⟨outputs.gone number call entered scattered recorded absent,
      fun context found own => absent ⟨context, found, own⟩⟩
  · by_cases present : (shown final frame).Present number call
    · exact Or.inl (outputs.present number call entered scattered recorded present)
    · exact Or.inr (outputs.gone number call entered scattered recorded present)

/-- An actor scatters two messages and then one, and the answers come between one
another. The last one answers the first scatter. -/
def twoScatters : List (Action Nat) :=
  [.act (.scatter 3 [some ⟨⟨1, 0⟩, 8, true⟩, some ⟨⟨2, 0⟩, 9, true⟩]),
    .act (.scatter 3 [some ⟨⟨1, 0⟩, 5, true⟩]), .act (.finish none), .answer 1 ⟨2, 0⟩ 20,
    .act (.finish none), .answer 2 ⟨1, 0⟩ 50, .act (.gatherReturn none), .act (.finish none),
    .answer 1 ⟨1, 0⟩ 21, .act (.gatherReturn none), .act (.finish none)]

theorem twoScatters_completes :
    (Runs.run soloStep (begin ⟨0, 0⟩ fun _ => false) twoScatters).isSome := by
  decide +kernel

/-- Both gather callbacks ran once, each with its own answers, and both ids are
recycled. -/
theorem run_gathers_once_two :
    ∃ final, Runs.run soloStep (begin ⟨0, 0⟩ fun _ => false) twoScatters = some final ∧
      gathers final.log 1 = [[20, 21]] ∧ gathers final.log 2 = [[50]] ∧
      ∃ call, final.ledger 1 = some call ∧ GatheredOnce final 1 call := by
  refine ⟨Option.get _ twoScatters_completes, (Option.some_get _).symm, ?_, ?_,
    ⟨1, 3, 2, true, true, [20, 21], none⟩, ?_, ?_⟩
  · decide +kernel
  · decide +kernel
  · rfl
  · apply run_gathers_once ⟨0, 0⟩ (fun _ => false) twoScatters
    · decide +kernel
    · exact (Option.some_get _).symm
    · rfl
    · rfl
    · rfl

/-- The gather callback of a scatter runs on a fiber and waits there for an answer. -/
def waitingGather : List (Action Nat) :=
  [.act (.scatter 3 [some ⟨⟨1, 0⟩, 8, true⟩]), .act (.finish none), .answer 1 ⟨1, 0⟩ 20,
    .act (.call ⟨2, 0⟩ 30 .kept), .answer 2 ⟨2, 0⟩ 31, .act (.gatherReturn none),
    .act (.finish none)]

theorem waitingGather_completes :
    (Runs.run soloStep (begin ⟨0, 0⟩ fun intf => intf == 3) waitingGather).isSome := by
  decide +kernel

/-- A gather callback that waits leaves its group in the map, and its id is not
recycled. -/
theorem waiting_gather_stays :
    ∃ final context, Runs.run soloStep (begin ⟨0, 0⟩ fun intf => intf == 3) waitingGather =
        some final ∧
      final.actor.status = .idle ∧
      final.ledger 1 = some ⟨1, 3, 1, true, true, [20], none⟩ ∧
      findReqCtx final.actor 1 = some context ∧ context.call = 1 ∧
      context.shape = .group 1 [20] true ∧ recycles final.log 1 = [] ∧
      ¬ GatheredOnce final 1 ⟨1, 3, 1, true, true, [20], none⟩ := by
  refine ⟨Option.get _ waitingGather_completes, ⟨none, .group 1 [20] true, 1⟩,
    (Option.some_get _).symm, ?_, ?_, ?_, ?_, ?_, ?_, ?_⟩
  · rfl
  · rfl
  · rfl
  · rfl
  · rfl
  · decide +kernel
  · intro once
    exact (once.removed (Nat.le_refl 1) rfl).2 ⟨none, .group 1 [20] true, 1⟩ rfl rfl

end Mola.Requests
