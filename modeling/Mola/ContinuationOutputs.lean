import Mola.ContinuationLaws

/-!
# What the moves put out

The outputs of a view are a function of the ledger and the contexts. An installed context
is that of the answered call. A call has run its gather callback once, with its answers,
when it is a recorded scatter and all answers came, and not at all before. The id of a
scatter is recycled once, when its context is gone. The initiators of contexts, fibers,
gather callbacks and saved states are the roots of the ledger, so returned values answer
these roots.

When no gather callback is suspended, a complete group is the current context, and it is
done when the turn ends.
-/

namespace Mola.Requests.View

universe u
variable {Body : Type u}

/-- What a call must have put out to its gather callback. -/
def gatherings : Option (Call Body) → List (List Body)
  | none => []
  | some call =>
      if call.scatter = true ∧ call.recorded = true ∧ call.size ≤ call.answers.length then
        [call.answers]
      else []

/-- The context of a call is there. -/
def Present (view : View Body) (number : Nat) (call : Call Body) : Prop :=
  ∃ context, view.find call.reqid = some context ∧ context.call = number

/-- The outputs of a view. -/
structure Outputs (view : View Body) : Prop where
  installed : ∀ number found, (number, found) ∈ view.installed →
    ∃ call, view.ledger number = some call ∧
      found = if call.recorded = true then some number else none
  gathered : ∀ number, view.gathered number = gatherings (view.ledger number)
  present : ∀ number call, view.ledger number = some call → call.scatter = true →
    call.recorded = true → view.Present number call → view.recycled number = []
  gone : ∀ number call, view.ledger number = some call → call.scatter = true →
    call.recorded = true → ¬ view.Present number call → view.recycled number = [call.reqid]
  unused : ∀ number, view.calls < number → view.recycled number = []

/-- A call of the ledger stays, with the answers that it hears. -/
theorem move_entered {quiet : Prop} {view next : View Body} (move : Move quiet view next)
    (law : Law view) {number : Nat} {call : Call Body}
    (entered : view.ledger number = some call) :
    ∃ answers, next.ledger number = some { call with answers := answers } := by
  cases move_ledger move with
  | same ledger => exact ⟨call.answers, by rw [ledger]; exact entered⟩
  | entered _ _ _ _ _ calls ledger =>
    have bounded := (law.numbered number call entered).2.1
    have old : number ≠ view.calls + 1 := by omega
    exact ⟨call.answers, by rw [ledger]; exact (Function.update_of_ne old _ _).trans entered⟩
  | heard heard _ body before _ ledger =>
    rw [ledger]
    by_cases same : number = heard
    · subst same
      cases entered.symm.trans before
      exact ⟨_, hear_self view number call body⟩
    · exact ⟨call.answers, (Function.update_of_ne same _ _).trans entered⟩

/-- A call of the ledger is new and was recorded just now, or was there before under the
same id. -/
theorem move_origin (quiet : Prop) (view next : View Body) (move : Move quiet view next)
    (number : Nat) (call : Call Body) (entered : next.ledger number = some call)
    (recorded : call.recorded = true) :
    view.calls < number ∧ next.Present number call ∨
      ∃ known, view.ledger number = some known ∧ known.scatter = call.scatter ∧
        known.recorded = call.recorded ∧ known.reqid = call.reqid := by
  cases move_ledger move with
  | same ledger => exact Or.inr ⟨call, ledger ▸ entered, rfl, rfl, rfl⟩
  | entered new _ _ stored _ _ ledger =>
    obtain ⟨rfl, rfl⟩ | before := enter_cases (ledger ▸ entered)
    · exact Or.inl ⟨Nat.lt_succ_self _, stored recorded⟩
    · exact Or.inr ⟨call, before, rfl, rfl, rfl⟩
  | heard heard known body before _ ledger =>
    obtain ⟨rfl, rfl⟩ | ⟨-, old⟩ := hear_cases (ledger ▸ entered)
    · exact Or.inr ⟨known, before, rfl, rfl, rfl⟩
    · exact Or.inr ⟨call, old, rfl, rfl, rfl⟩

theorem gatherings_open {call : Call Body} (waits : call.Open) : gatherings (some call) = [] := by
  unfold Call.Open at waits
  refine if_neg ?_
  omega

theorem gatherings_other {call : Call Body} (other : call.scatter = false ∨ call.recorded = false) :
    gatherings (some call) = [] := by
  refine if_neg ?_
  rcases other with other | other <;> simp [other]

/-- Entering a call that puts out nothing leaves what the calls must put out. -/
theorem gatherings_enter {view : View Body} (law : Law view) {new : Call Body}
    (nothing : gatherings (some new) = []) (number : Nat) :
    gatherings ((view.enter new).ledger number) = gatherings (view.ledger number) := by
  by_cases same : number = view.calls + 1
  · subst same
    have unused : view.ledger (view.calls + 1) = none := by
      cases entered : view.ledger (view.calls + 1) with
      | none => rfl
      | some call =>
        have bounded := (law.numbered _ call entered).2.1
        omega
    rw [unused, enter_self, nothing]
    rfl
  · exact congrArg gatherings (Function.update_of_ne same _ _)

/-- So does hearing an answer after which the call puts out nothing. -/
theorem gatherings_hear {view : View Body} {heard : Nat} {call : Call Body} {body : Body}
    (entered : view.ledger heard = some call) (waits : call.Open)
    (nothing : gatherings (some { call with answers := call.answers ++ [body] }) = [])
    (number : Nat) :
    gatherings ((view.hear heard call body).ledger number) = gatherings (view.ledger number) := by
  by_cases same : number = heard
  · subst same
    rw [hear_self, nothing, entered, gatherings_open waits]
  · exact congrArg gatherings (Function.update_of_ne same _ _)

section
variable (quiet : Prop) (view next : View Body) (move : Move quiet view next) (law : Law view)
  (outputs : Outputs view)
include move law outputs

/-- Every move installs for an answer the context of its own call. -/
theorem move_installed (number : Nat) (found : Option Nat)
    (installed : (number, found) ∈ next.installed) :
    ∃ call, next.ledger number = some call ∧
      found = if call.recorded = true then some number else none := by
  have kept : ∀ call, view.ledger number = some call →
      (found = if call.recorded = true then some number else none) →
      ∃ call, next.ledger number = some call ∧
        found = if call.recorded = true then some number else none := by
    intro call entered right
    obtain ⟨answers, after⟩ := move_entered move law entered
    exact ⟨_, after, right⟩
  have old : (number, found) ∈ view.installed → ∃ call, next.ledger number = some call ∧
      found = if call.recorded = true then some number else none := by
    intro before
    obtain ⟨call, entered, right⟩ := outputs.installed number found before
    exact kept call entered right
  cases move with
  | hearPlain _ _ _ _ _ _ _ _ _ stored =>
    obtain before | new := List.mem_append.mp installed
    · exact old before
    · obtain ⟨rfl, rfl⟩ := Prod.mk.inj (List.mem_singleton.mp new)
      obtain ⟨known, before, single⟩ := law.stored _ _ stored
      exact kept known before (by rw [single.recorded]; rfl)
  | hearGroup _ _ _ _ _ _ _ _ _ _ stored shaped own =>
    obtain before | new := List.mem_append.mp installed
    · exact old before
    · obtain ⟨rfl, rfl⟩ := Prod.mk.inj (List.mem_singleton.mp new)
      have known := law.stored _ _ stored
      unfold Stored at known
      rw [shaped, own] at known
      obtain ⟨known, before, collects, _⟩ := known
      exact kept known before (by rw [collects.recorded]; rfl)
  | wake _ _ _ _ _ _ _ _ _ _ stored =>
    obtain before | new := List.mem_append.mp installed
    · exact old before
    · obtain ⟨rfl, rfl⟩ := Prod.mk.inj (List.mem_singleton.mp new)
      obtain ⟨known, before, single, _⟩ := law.stored _ _ stored
      exact kept known before (by rw [single.recorded]; rfl)
  | miss _ call _ entered _ unrecorded =>
    obtain before | new := List.mem_append.mp installed
    · exact old before
    · obtain ⟨rfl, rfl⟩ := Prod.mk.inj (List.mem_singleton.mp new)
      exact kept call entered (by rw [unrecorded]; rfl)
  | _ => exact old installed

/-- Every move runs the gather callback of a call when its last answer comes, with its
answers. -/
theorem move_gathered (number : Nat) : next.gathered number = gatherings (next.ledger number) := by
  have old := outputs.gathered number
  cases move with
  | record _ _ call _ _ _ _ unanswered _ fits =>
    refine old.trans (gatherings_enter law ?_ number).symm
    obtain ⟨_, single, _⟩ | ⟨_, _, some_⟩ := fits
    · exact gatherings_other (Or.inl single)
    · exact gatherings_open (by rw [Call.Open, unanswered]; exact some_)
  | lose _ _ unrecorded =>
    exact old.trans (gatherings_enter law (gatherings_other (Or.inr unrecorded))
      number).symm
  | suspend _ _ _ _ _ _ _ waits =>
    exact old.trans (gatherings_enter law (gatherings_other (Or.inl waits.single))
      number).symm
  | hearPlain _ _ _ _ _ _ entered waits _ found =>
    obtain ⟨known, before, single⟩ := law.stored _ _ found
    cases entered.symm.trans before
    exact old.trans (gatherings_hear entered waits
      (gatherings_other (Or.inl single.single)) number).symm
  | wake _ _ _ _ _ _ _ entered waits _ found =>
    obtain ⟨known, before, single, _⟩ := law.stored _ _ found
    cases entered.symm.trans before
    exact old.trans (gatherings_hear entered waits
      (gatherings_other (Or.inl single.single)) number).symm
  | miss _ _ _ entered waits unrecorded =>
    exact old.trans (gatherings_hear entered waits
      (gatherings_other (Or.inr unrecorded)) number).symm
  | collect _ _ _ _ _ _ _ _ _ _ entered waits found unready =>
    obtain ⟨known, before, collects, _⟩ := law.stored _ _ found
    cases entered.symm.trans before
    refine old.trans (gatherings_hear entered waits
      (gatherings_open ?_) number).symm
    unfold Call.Open at *
    rw [← collects.collected, ← collects.sized] at unready
    simp only [List.length_append, List.length_singleton] at *
    omega
  | complete heard call body _ _ _ messages _ _ _ _ entered waits found ready =>
    obtain ⟨known, before, collects, _⟩ := law.stored _ _ found
    cases entered.symm.trans before
    by_cases same : number = heard
    · subst same
      rw [entered, gatherings_open waits] at old
      have fired : (view.fire number (messages ++ [body])).gathered number =
          view.gathered number ++ [messages ++ [body]] := Function.update_self _ _ _
      have closed := hear_collects call _ _ _ body collects
      have must : gatherings (some { call with answers := call.answers ++ [body] }) =
          [messages ++ [body]] := by
        rw [← closed.collected]
        refine if_pos ⟨closed.scattered, closed.recorded, ?_⟩
        rw [closed.collected, closed.sized, ready]
      rw [old, List.nil_append] at fired
      exact fired.trans ((congrArg gatherings (hear_self view number call body)).trans must).symm
    · refine (Function.update_of_ne same _ _).trans (old.trans ?_)
      exact congrArg gatherings (Function.update_of_ne same _ _).symm
  | _ => exact old

end

/-- The context of a call stays or stays away when the change under one id does not
concern the call. -/
theorem present_update {view next : View Body} {id : Nat} {value : Option (Context Body)}
    (find : next.find = Function.update view.find id value) {number : Nat} (call : Call Body)
    (same : (∃ context, value = some context ∧ context.call = number) ↔
      ∃ context, view.find id = some context ∧ context.call = number) :
    next.Present number call ↔ view.Present number call := by
  unfold Present
  rw [find]
  by_cases here : call.reqid = id
  · rw [here, Function.update_self]
    exact same
  · rw [Function.update_of_ne here]

/-- The case in which neither the new context nor the old one is that of the call. -/
theorem present_apart {view next : View Body} {id : Nat} {value : Option (Context Body)}
    (find : next.find = Function.update view.find id value) {number : Nat} (call : Call Body)
    (new : ∀ context, value = some context → context.call ≠ number)
    (old : ∀ context, view.find id = some context → context.call ≠ number) :
    next.Present number call ↔ view.Present number call := by
  apply present_update find
  constructor
  · rintro ⟨context, stored, mine⟩
    exact absurd mine (new context stored)
  · rintro ⟨context, found, mine⟩
    exact absurd mine (old context found)

/-- The case in which a context changes and stays that of its call. -/
theorem present_changed (view next : View Body) (id : Nat) (old new : Context Body)
    (found : view.find id = some old) (find : next.find = Function.update view.find id (some new))
    (stamp : new.call = old.call) (number : Nat) (call : Call Body) :
    next.Present number call ↔ view.Present number call := by
  apply present_update find
  rw [found]
  constructor
  · rintro ⟨context, stored, rfl⟩
    cases stored
    exact ⟨old, rfl, stamp.symm⟩
  · rintro ⟨context, stored, rfl⟩
    cases stored
    exact ⟨new, rfl, stamp⟩

section
variable (quiet : Prop) (view next : View Body) (move : Move quiet view next) (law : Law view)
include law

/-- The context of a scatter is stored under its id. -/
theorem scatter_owner (id : Nat) (context : Context Body) (call : Call Body)
    (found : view.find id = some context) (entered : view.ledger context.call = some call)
    (scattered : call.scatter = true) : call.reqid = id := by
  have stored := law.stored id context found
  unfold Stored at stored
  split at stored
  next =>
    obtain ⟨known, same, kept⟩ := stored
    cases entered.symm.trans same
    exact kept.reqid
  next =>
    obtain ⟨known, same, kept, _⟩ := stored
    cases entered.symm.trans same
    exact kept.reqid
  next =>
    rw [(stored.2 call entered).2] at scattered
    cases scattered
  next =>
    obtain ⟨known, same, kept, _⟩ := stored
    cases entered.symm.trans same
    exact kept.reqid
  next =>
    rw [(stored.2 call entered).2] at scattered
    cases scattered

theorem running_apart (id number : Nat) (context : Context Body) (call : Call Body)
    (found : view.find id = some context) (running : context.shape = .fiber .running)
    (entered : view.ledger number = some call) (scattered : call.scatter = true) :
    context.call ≠ number := by
  rintro rfl
  have single := ((running_closed view law id context found running).2 call entered).2
  rw [single] at scattered
  cases scattered

include move

/-- A move either leaves the context of a recorded scatter and its recycled ids alone, or
deletes the context and recycles the id. -/
theorem move_recycled (number : Nat) (call : Call Body) (entered : view.ledger number = some call)
    (scattered : call.scatter = true) :
    (next.Present number call ↔ view.Present number call) ∧
        next.recycled number = view.recycled number ∨
      view.Present number call ∧ ¬ next.Present number call ∧
        next.recycled number = view.recycled number ++ [call.reqid] := by
  obtain ⟨positive, bounded, _⟩ := law.numbered number call entered
  cases move with
  | record _ _ _ _ absent | enter _ _ _ _ _ _ _ absent =>
    refine Or.inl ⟨present_apart rfl call ?_ ?_, rfl⟩
    · rintro context stored
      cases stored
      dsimp only
      omega
    · rintro context found
      exact absurd (found.symm.trans absent) (Option.some_ne_none context)
  | wake _ _ _ _ _ _ _ _ _ _ found | collect _ _ _ _ _ _ _ _ _ _ _ _ found
  | complete _ _ _ _ _ _ _ _ _ _ _ _ _ found | gathered _ _ _ _ _ _ _ _ found
  | die _ _ _ _ _ _ _ found =>
    exact Or.inl ⟨present_changed view _ _ _ _ found rfl (by rfl) number call, rfl⟩
  | suspend _ _ context _ _ found running =>
    refine Or.inl ⟨present_apart rfl call ?_ ?_, rfl⟩
    · rintro after stored
      cases stored
      dsimp only
      omega
    · rintro before again
      cases found.symm.trans again
      exact running_apart view law _ number context call found running entered scattered
  | leave _ id context _ _ _ _ found running =>
    have apart := running_apart view law id number context call found running entered scattered
    refine Or.inl ⟨present_apart rfl call (fun _ stored => nomatch stored) ?_,
      Function.update_of_ne apart.symm _ _⟩
    rintro before again
    cases found.symm.trans again
    exact apart
  | delete _ id context _ _ _ _ found =>
    by_cases same : context.call = number
    · -- the context of this very scatter goes, and its id is recycled under its number
      have owner := scatter_owner view law id context call found (same ▸ entered) scattered
      refine Or.inr ⟨⟨context, owner ▸ found, same⟩, ?_, ?_⟩
      · rintro ⟨after, stored, -⟩
        have gone : (view.drop id context.call).find id = none := Function.update_self _ _ _
        rw [owner] at stored
        exact Option.some_ne_none after (stored.symm.trans gone)
      · rw [owner]
        subst same
        exact Function.update_self _ _ _
    · refine Or.inl ⟨present_apart rfl call (fun _ stored => nomatch stored) ?_,
        Function.update_of_ne (Ne.symm same) _ _⟩
      rintro before again
      cases found.symm.trans again
      exact same
  | _ => exact Or.inl ⟨Iff.rfl, rfl⟩

/-- No move recycles an id for a call that is not yet made. -/
theorem move_unused (outputs : Outputs view) (number : Nat) (new : view.calls < number) :
    next.recycled number = [] := by
  have old := outputs.unused number new
  cases move with
  | leave _ id context _ _ _ _ found | delete _ id context _ _ _ _ found =>
    have stamp := law.stamped id context found
    have different : number ≠ context.call := by omega
    exact (Function.update_of_ne different _ _).trans old
  | _ => exact old

/-- The outputs stay what the ledger and the contexts say. -/
theorem move_outputs (outputs : Outputs view) : Outputs next where
  installed := move_installed quiet view next move law outputs
  gathered := move_gathered quiet view next move law outputs
  present := by
    intro number call entered scattered recorded present
    obtain ⟨new, -⟩ | ⟨known, before, scatter, record, reqid⟩ :=
      move_origin quiet view next move number call entered recorded
    · exact move_unused quiet view next move law outputs number new
    · have known_present : next.Present number known := by
        obtain ⟨context, found, mine⟩ := present
        exact ⟨context, reqid ▸ found, mine⟩
      have scattered := scatter.trans scattered
      obtain ⟨same, recycled⟩ | ⟨-, gone, -⟩ :=
        move_recycled quiet view next move law number known before scattered
      · rw [recycled]
        exact outputs.present number known before scattered (record.trans recorded)
          (same.mp known_present)
      · exact absurd known_present gone
  gone := by
    intro number call entered scattered recorded gone
    obtain ⟨-, there⟩ | ⟨known, before, scatter, record, reqid⟩ :=
      move_origin quiet view next move number call entered recorded
    · exact absurd there gone
    · have known_gone : ¬ next.Present number known := by
        rintro ⟨context, found, mine⟩
        exact gone ⟨context, reqid ▸ found, mine⟩
      have scattered := scatter.trans scattered
      have recorded := record.trans recorded
      rw [← reqid]
      obtain ⟨same, recycled⟩ | ⟨there, -, recycled⟩ :=
        move_recycled quiet view next move law number known before scattered
      · rw [recycled]
        exact outputs.gone number known before scattered recorded
          (fun there => known_gone (same.mpr there))
      · rw [recycled, outputs.present number known before scattered recorded there]
        rfl
  unused := by
    intro number new
    have later := move_calls move
    exact move_unused quiet view next move law outputs number (Nat.lt_of_le_of_lt later new)

end

end Mola.Requests.View
