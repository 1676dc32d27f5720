import Mola.Continuations

/-!
# Every move keeps the laws of continuations

One theorem for each part of the law says that every move keeps it. Entering a call and
hearing an answer change the ledger, storing and dropping change the contexts, and the
frame changes at the borders of a turn and of a fiber; the lemmas about these changes
come first. The parts are then put together.
-/

namespace Mola.Requests.View

universe u
variable {Body : Type u}

section
variable (view : View Body) (law : Law view)
include law

theorem stamped_old (id : Nat) (context : Context Body) (found : view.find id = some context) :
    context.call ≠ view.calls + 1 := by
  have stamp := law.stamped id context found
  omega

end

theorem put_self (view : View Body) (id : Nat) (context : Context Body) :
    (view.put id context).find id = some context :=
  Function.update_self _ _ _

/-- What holds of a stored context and of the others holds of all. -/
theorem put_all (view : View Body) (id : Nat) (context : Context Body)
    (property : Nat → Context Body → Prop) (new : property id context)
    (old : ∀ other known, other ≠ id → view.find other = some known → property other known)
    (other : Nat) (known : Context Body)
    (found : Function.update view.find id (some context) other = some known) :
    property other known := by
  by_cases same : other = id
  · subst same
    have stored : context = known := by simpa using found
    exact stored ▸ new
  · exact old other known same (by simpa [same] using found)

/-- What holds of the contexts that stay holds of all. -/
theorem drop_all (view : View Body) (id : Nat)
    (property : Nat → Context Body → Prop)
    (old : ∀ other known, other ≠ id → view.find other = some known → property other known)
    (other : Nat) (known : Context Body)
    (found : Function.update view.find id none other = some known) : property other known := by
  by_cases same : other = id
  · subst same
    simp at found
  · exact old other known same (by simpa [same] using found)

section
variable (view : View Body) (law : Law view)
include law

theorem enter_other (call : Call Body) (id : Nat) (context : Context Body)
    (found : view.find id = some context) :
    (view.enter call).ledger context.call = view.ledger context.call :=
  Function.update_of_ne (stamped_old view law id context found) _ _

/-- Hearing an answer to an open call leaves the calls of the contexts under other ids
alone. -/
theorem hear_other (number : Nat) (call : Call Body) (body : Body)
    (entered : view.ledger number = some call) (waits : call.Open) (id : Nat)
    (context : Context Body) (different : id ≠ call.reqid)
    (found : view.find id = some context) :
    (view.hear number call body).ledger context.call = view.ledger context.call := by
  apply Function.update_of_ne
  rintro rfl
  exact different
    (stored_owner view id context call (law.stored id context found) entered waits).symm

theorem lost_absent (number : Nat) (call : Call Body)
    (entered : view.ledger number = some call) (unrecorded : call.recorded = false) :
    view.find call.reqid = none :=
  law.absent call.reqid (law.lost number call entered unrecorded).2

end

theorem hear_self (view : View Body) (number : Nat) (call : Call Body) (body : Body) :
    (view.hear number call body).ledger number =
      some { call with answers := call.answers ++ [body] } :=
  Function.update_self _ _ _

theorem enter_self (view : View Body) (call : Call Body) :
    (view.enter call).ledger (view.calls + 1) = some call :=
  Function.update_self _ _ _

theorem hear_collects (call : Call Body) (id size : Nat) (messages : List Body) (body : Body)
    (collects : call.Collects id size messages) :
    ({ call with answers := call.answers ++ [body] } : Call Body).Collects id size
      (messages ++ [body]) := by
  obtain ⟨reqid, recorded, scattered, sized, collected⟩ := collects
  exact ⟨reqid, recorded, scattered, sized, by rw [collected]⟩

theorem collects_closed {call : Call Body} {id size : Nat} {messages : List Body}
    (collects : call.Collects id size messages) (full : messages.length = size) :
    ¬ call.Open := by
  unfold Call.Open
  rw [collects.collected, collects.sized, full]
  exact Nat.lt_irrefl size

theorem waits_closed {call : Call Body} {id : Nat} (body : Body) (single : call.Waits id)
    (waits : call.Open) :
    ¬ ({ call with answers := call.answers ++ [body] } : Call Body).Open := by
  unfold Call.Open at *
  have once := single.once
  dsimp only
  rw [List.length_append, List.length_singleton]
  omega

/-- Every move keeps the contexts in step with their calls.

Proof: a context that the move stores has the shape that its call asks for. For the
others the call is the same one, by their numbers or because the answered call has its
context under another id, and the fiber or the current context of the frame changes only
where the context of that fiber is the one that the move stores or drops. -/
theorem move_stored (quiet : Prop) (view next : View Body) (move : Move quiet view next)
    (law : Law view) : ∀ id context, next.find id = some context → next.Stored id context := by
  cases move with
  | record _ _ call _ _ _ recorded unanswered _ fits =>
    apply put_all view
    · rcases fits with ⟨rfl, single, once⟩ | ⟨rfl, scattered, some_⟩
      · exact ⟨call, Function.update_self _ _ _, ⟨rfl, recorded, single, once⟩⟩
      · exact ⟨call, Function.update_self _ _ _, ⟨rfl, recorded, scattered, rfl, unanswered⟩,
          fun done => absurd done Bool.false_ne_true⟩
    · intro id context different found
      exact stored_still view _ id context (law.stored id context found)
        (enter_other view law call id context found) rfl rfl
  | skip | reply | save | replySaved => exact law.stored
  | lose call =>
    intro id context found
    exact stored_still view _ id context (law.stored id context found)
      (enter_other view law call id context found) rfl rfl
  | arrive _ rests | hearGroup _ _ _ context _ _ _ rests =>
    intro id context found
    exact stored_begin view _ id context (law.stored id context found) rfl rfl rests
  | hearPlain number call body _ initiator rests entered waits _ found =>
    intro id context stored
    by_cases same : id = call.reqid
    · subst same
      obtain rfl : ⟨initiator, .plain, number⟩ = context := Option.some.inj (found.symm.trans stored)
      obtain ⟨known, before, single⟩ := law.stored _ _ found
      obtain rfl : call = known := Option.some.inj (entered.symm.trans before)
      exact ⟨_, Function.update_self _ _ _, ⟨rfl, single.recorded, single.single, single.once⟩⟩
    · exact stored_begin view _ id context (law.stored id context stored)
        (hear_other view law number call body entered waits id context same stored) rfl rests
  | wake number call body _ _ _ rests entered waits _ found =>
    apply put_all view
    · obtain ⟨known, before, single, _⟩ := law.stored _ _ found
      obtain rfl : call = known := Option.some.inj (entered.symm.trans before)
      refine ⟨rfl, ?_⟩
      intro answered heard
      cases (hear_self view number call body).symm.trans heard
      exact ⟨waits_closed body single waits, single.single⟩
    · intro id context different stored
      exact stored_begin view _ id context (law.stored id context stored)
        (hear_other view law number call body entered waits id context different stored) rfl rests
  | miss number call body entered waits unrecorded =>
    intro id context stored
    refine stored_still view _ id context (law.stored id context stored) ?_ rfl rfl
    apply hear_other view law number call body entered waits id context _ stored
    rintro rfl
    exact Option.some_ne_none _ (stored.symm.trans
      (lost_absent view law number call entered unrecorded))
  | enter frame _ _ runs unthreaded =>
    apply put_all view
    · exact ⟨rfl, fun call entered => absurd (law.numbered 0 call entered).1 (Nat.lt_irrefl 0)⟩
    · intro other context different stored
      exact stored_turn view _ frame _ other context (law.stored other context stored) rfl rfl
        runs rfl rfl (fun threaded => by rw [unthreaded] at threaded; cases threaded)
  | collect number call body _ _ size messages _ _ _ entered waits found =>
    apply put_all view
    · obtain ⟨known, before, collects, finished⟩ := law.stored _ _ found
      obtain rfl : call = known := Option.some.inj (entered.symm.trans before)
      exact ⟨_, hear_self view number call body, hear_collects call _ size messages body collects,
        fun complete => absurd waits (collects_closed collects (finished complete))⟩
    · intro id context different stored
      exact stored_still view _ id context (law.stored id context stored)
        (hear_other view law number call body entered waits id context different stored) rfl rfl
  | complete number call body frame _ size messages _ runs _ _ entered waits found =>
    apply put_all view
    · obtain ⟨known, before, collects, finished⟩ := law.stored _ _ found
      obtain rfl : call = known := Option.some.inj (entered.symm.trans before)
      exact ⟨_, hear_self view number call body, hear_collects call _ size messages body collects,
        fun complete => absurd waits (collects_closed collects (finished complete))⟩
    · intro id context different stored
      exact stored_turn view _ frame _ id context (law.stored id context stored)
        (hear_other view law number call body entered waits id context different stored) rfl
        runs rfl rfl (fun threaded => threaded)
  | suspend frame call _ runs threaded _ _ waits _ _ synchronous =>
    apply put_all view
    · exact ⟨call, Function.update_self _ _ _, waits, synchronous⟩
    · intro id other different stored
      exact stored_turn view _ frame _ id other (law.stored id other stored)
        (enter_other view law call id other stored) rfl runs rfl rfl
        (fun same => absurd (Option.some.inj (same.symm.trans threaded)) different)
  | gathered frame group held _ _ _ runs inside found shaped =>
    apply put_all view
    · have stored := law.stored _ _ found
      unfold Stored at stored
      rw [shaped] at stored
      obtain ⟨known, before, collects, _⟩ := stored
      obtain ⟨other, total, all, again, reshaped, full⟩ :=
        law.firing none group ⟨frame, held, runs, inside⟩
      cases found.symm.trans again
      rw [shaped] at reshaped
      cases reshaped
      exact ⟨known, before, collects, fun _ => full⟩
    · intro id other different stored
      exact stored_turn view _ frame _ id other (law.stored id other stored) rfl rfl runs rfl rfl
        (fun threaded => threaded)
  | leave frame _ _ runs threaded =>
    apply drop_all view
    intro another known different stored
    exact stored_turn view _ frame _ another known (law.stored another known stored) rfl rfl
      runs rfl rfl (fun same => absurd (Option.some.inj (same.symm.trans threaded)) different)
  | die frame _ _ runs threaded same _ found running =>
    apply put_all view
    · have stored := law.stored _ _ found
      unfold Stored at stored
      rw [running] at stored
      exact ⟨same, stored.2⟩
    · intro other known different stored
      exact stored_turn view _ frame _ other known (law.stored other known stored) rfl rfl
        runs rfl rfl (fun alive => absurd (Option.some.inj (alive.symm.trans threaded)) different)
  | delete _ _ _ runs unthreaded _ handles =>
    apply drop_all view
    intro other known different stored
    refine stored_frame view _ other known (law.stored other known stored) rfl rfl ?_ ?_
    · intro _ threaded
      simp [fiber, runs, unthreaded] at threaded
    · intro _ same
      simp only [current, runs, Option.bind_some, handles, Option.some.injEq] at same
      exact absurd same.symm different
  | rest frame runs unthreaded _ undone =>
    intro id context stored
    refine stored_frame view _ id context (law.stored id context stored) rfl rfl ?_ ?_
    · intro _ threaded
      simp [fiber, runs, unthreaded] at threaded
    · intro dead handled
      have handles : frame.ctx = some id := by simpa [current, runs] using handled
      have unfinished := undone id context handles stored
      rw [dead] at unfinished
      cases unfinished

theorem enter_cases {view : View Body} {new : Call Body} {number : Nat} {call : Call Body}
    (entered : (view.enter new).ledger number = some call) :
    number = view.calls + 1 ∧ call = new ∨ view.ledger number = some call := by
  by_cases same : number = view.calls + 1
  · subst same
    exact Or.inl ⟨rfl, (Option.some.inj (by simpa [View.enter] using entered)).symm⟩
  · exact Or.inr (by simpa [View.enter, same] using entered)

/-- A call of the ledger after an answer is the answered one or an old one. -/
theorem hear_cases {view : View Body} {heard : Nat} {known : Call Body} {body : Body}
    {number : Nat} {call : Call Body}
    (entered : (view.hear heard known body).ledger number = some call) :
    number = heard ∧ call = { known with answers := known.answers ++ [body] } ∨
      number ≠ heard ∧ view.ledger number = some call := by
  by_cases same : number = heard
  · subst same
    exact Or.inl ⟨rfl, (Option.some.inj (by simpa [View.hear] using entered)).symm⟩
  · exact Or.inr ⟨same, by simpa [View.hear, same] using entered⟩

/-- The contexts of open calls stay. -/
def Keeps (view next : View Body) : Prop :=
  ∀ id context call, view.find id = some context → view.ledger context.call = some call →
    call.Open → ∃ after, next.find id = some after ∧ after.call = context.call

theorem keeps_same (view next : View Body) (same : next.find = view.find) : Keeps view next :=
  fun id context _ found _ _ => ⟨context, by rw [same]; exact found, rfl⟩

theorem keeps_new {view next : View Body} {id : Nat} {context : Context Body}
    (new : view.find id = none) (put : next.find = Function.update view.find id (some context)) :
    Keeps view next := by
  intro other known call found _ _
  refine ⟨known, ?_, rfl⟩
  rw [put, Function.update_of_ne _ _ _, found]
  rintro rfl
  exact Option.some_ne_none known (found.symm.trans new)

/-- The contexts of open calls stay when one is changed and keeps its call. -/
theorem keeps_changed {view next : View Body} {id : Nat} {old context : Context Body}
    (before : view.find id = some old)
    (put : next.find = Function.update view.find id (some context))
    (same : context.call = old.call) : Keeps view next := by
  intro other known call found _ _
  rw [put]
  by_cases here : other = id
  · subst here
    cases before.symm.trans found
    exact ⟨context, Function.update_self _ _ _, same⟩
  · exact ⟨known, by rw [Function.update_of_ne here]; exact found, rfl⟩

/-- The contexts of open calls stay when one without an open call is changed or
dropped. -/
theorem keeps_closed (view next : View Body) (id : Nat) (old : Context Body)
    (value : Option (Context Body)) (before : view.find id = some old)
    (closed : ∀ call, view.ledger old.call = some call → ¬ call.Open)
    (put : next.find = Function.update view.find id value) : Keeps view next := by
  intro other known call found entered waits
  rw [put]
  by_cases here : other = id
  · subst here
    cases before.symm.trans found
    exact absurd waits (closed call entered)
  · exact ⟨known, by rw [Function.update_of_ne here]; exact found, rfl⟩

section
variable (view : View Body) (law : Law view)
include law

theorem running_closed (id : Nat) (context : Context Body)
    (found : view.find id = some context) (running : context.shape = .fiber .running) :
    view.fiber = some id ∧ view.Closed context.call := by
  have stored := law.stored id context found
  unfold Stored at stored
  rw [running] at stored
  exact stored

/-- A current context that is done has no open call. -/
theorem done_closed (frame : Frame Body) (id : Nat) (context : Context Body)
    (runs : view.frame = some frame) (handles : frame.ctx = some id)
    (found : view.find id = some context) (done : context.shape.done = true) (call : Call Body)
    (entered : view.ledger context.call = some call) : ¬ call.Open := by
  have stored := law.stored id context found
  unfold Stored at stored
  split at stored
  next shape =>
    obtain ⟨known, again, closed⟩ := (law.framed frame runs).ctx id handles
    cases found.symm.trans again
    exact (closed shape call entered).1
  next size messages finished shape =>
    obtain ⟨known, before, collects, full⟩ := stored
    cases entered.symm.trans before
    rw [shape] at done
    exact collects_closed collects (full done)
  next shape =>
    rw [shape] at done
    cases done
  next stage shape =>
    rw [shape] at done
    cases done
  next => exact (stored.2 call entered).1

/-- An old open call has its context after a move that keeps the contexts of open calls. -/
theorem keeps_waiting (next : View Body) (keeps : Keeps view next) (number : Nat)
    (call : Call Body) (entered : view.ledger number = some call) (waits : call.Open)
    (recorded : call.recorded = true) :
    ∃ context, next.find call.reqid = some context ∧ context.call = number := by
  obtain ⟨context, found, rfl⟩ := law.waiting number call entered waits recorded
  exact keeps call.reqid context call found entered waits

/-- Every move keeps the contexts of open calls. -/
theorem move_keeps (quiet : Prop) (next : View Body) (move : Move quiet view next) :
    Keeps view next := by
  cases move with
  | record _ _ _ _ new | enter _ _ _ _ _ _ _ new => exact keeps_new new rfl
  | wake _ _ _ _ _ _ _ _ _ _ found | collect _ _ _ _ _ _ _ _ _ _ _ _ found
  | complete _ _ _ _ _ _ _ _ _ _ _ _ _ found | gathered _ _ _ _ _ _ _ _ found
  | die _ _ _ _ _ _ _ found =>
    exact keeps_changed found rfl rfl
  | suspend _ call _ _ _ found running | leave _ _ _ _ _ _ _ found running =>
    exact keeps_closed view _ _ _ _ found
      (fun call entered => ((running_closed view law _ _ found running).2 call entered).1) rfl
  | delete frame id context runs _ _ handles found done =>
    exact keeps_closed view _ _ _ _ found
      (fun call entered => done_closed view law frame id context runs handles found done call
        entered) rfl
  | _ => exact keeps_same view _ rfl

end

/-- How a move can change the ledger: not at all, by one new call, or by one answer to an
open call. A new call is unanswered and has the root of the frame, and it has a context
unless it is a scatter whose id was given up. -/
inductive LedgerChange (view next : View Body) : Prop
  | same (ledger : next.ledger = view.ledger)
  | entered (call : Call Body) (unanswered : call.answers = []) (rooted : call.root = view.root)
      (stored : call.recorded = true →
        ∃ context, next.find call.reqid = some context ∧ context.call = view.calls + 1)
      (given : call.recorded = false → call.scatter = true ∧ call.reqid ∈ next.abandoned)
      (calls : next.calls = view.calls + 1) (ledger : next.ledger = (view.enter call).ledger)
  | heard (number : Nat) (call : Call Body) (body : Body)
      (entered : view.ledger number = some call) (waits : call.Open)
      (ledger : next.ledger = (view.hear number call body).ledger)

/-- Every move changes the ledger in one of these ways. -/
theorem move_ledger {quiet : Prop} {view next : View Body} (move : Move quiet view next) :
    LedgerChange view next := by
  cases move with
  | record _ _ call _ _ _ recorded unanswered rooted =>
    exact .entered call unanswered rooted (fun _ => ⟨_, Function.update_self _ _ _, rfl⟩)
      (fun unrecorded => by rw [recorded] at unrecorded; cases unrecorded) rfl rfl
  | lose call _ unrecorded scattered unanswered rooted =>
    exact .entered call unanswered rooted
      (fun recorded => by rw [unrecorded] at recorded; cases recorded)
      (fun _ => ⟨scattered, List.mem_cons_self⟩) rfl rfl
  | suspend _ call _ _ _ _ _ waits unanswered rooted =>
    exact .entered call unanswered rooted (fun _ => ⟨_, Function.update_self _ _ _, rfl⟩)
      (fun unrecorded => by rw [waits.recorded] at unrecorded; cases unrecorded) rfl rfl
  | hearPlain number call body _ _ _ entered waits
  | wake number call body _ _ _ _ entered waits | miss number call body entered waits
  | collect number call body _ _ _ _ _ _ _ entered waits
  | complete number call body _ _ _ _ _ _ _ _ entered waits =>
    exact .heard number call body entered waits rfl
  | _ => exact .same rfl

theorem move_calls {quiet : Prop} {view next : View Body} (move : Move quiet view next) :
    view.calls ≤ next.calls := by
  cases move with
  | record | lose | suspend | skip => exact Nat.le_succ _
  | _ => exact Nat.le_refl _

theorem move_abandoned {quiet : Prop} {view next : View Body} (move : Move quiet view next)
    {id : Nat} (given : id ∈ view.abandoned) : id ∈ next.abandoned := by
  cases move with
  | lose => exact List.mem_cons_of_mem _ given
  | _ => exact given

section
variable (quiet : Prop) (view next : View Body) (move : Move quiet view next) (law : Law view)
include move law

/-- Every move keeps the numbers of calls. -/
theorem move_numbered (number : Nat) (call : Call Body)
    (entered : next.ledger number = some call) :
    0 < number ∧ number ≤ next.calls ∧ call.answers.length ≤ call.size := by
  have later := move_calls move
  have old : ∀ known, view.ledger number = some known →
      0 < number ∧ number ≤ next.calls ∧ known.answers.length ≤ known.size := by
    intro known before
    obtain ⟨positive, bounded, fits⟩ := law.numbered number known before
    exact ⟨positive, by omega, fits⟩
  cases move_ledger move with
  | same ledger => exact old call (ledger ▸ entered)
  | entered new unanswered _ _ _ _ ledger =>
    obtain ⟨rfl, rfl⟩ | before := enter_cases (ledger ▸ entered)
    · exact ⟨by omega, by omega, by rw [unanswered]; exact Nat.zero_le _⟩
    · exact old call before
  | heard heard known body before waits ledger =>
    obtain ⟨rfl, rfl⟩ | ⟨-, other⟩ := hear_cases (ledger ▸ entered)
    · obtain ⟨positive, bounded, _⟩ := old known before
      refine ⟨positive, bounded, ?_⟩
      rw [List.length_append]
      exact waits
    · exact old call other

/-- Every move keeps a context for every open call that was recorded. -/
theorem move_waiting (number : Nat) (call : Call Body)
    (entered : next.ledger number = some call) (waits : call.Open)
    (recorded : call.recorded = true) :
    ∃ context, next.find call.reqid = some context ∧ context.call = number := by
  have old := keeps_waiting view law next (move_keeps view law quiet next move)
  cases move_ledger move with
  | same ledger => exact old number call (ledger ▸ entered) waits recorded
  | entered new _ _ stored _ _ ledger =>
    obtain ⟨rfl, rfl⟩ | before := enter_cases (ledger ▸ entered)
    · exact stored recorded
    · exact old number call before waits recorded
  | heard heard known body before open_ ledger =>
    obtain ⟨rfl, rfl⟩ | ⟨-, other⟩ := hear_cases (ledger ▸ entered)
    · exact old number known before open_ recorded
    · exact old number call other waits recorded

/-- Every move keeps the ids of unrecorded calls given up. -/
theorem move_lost (number : Nat) (call : Call Body) (entered : next.ledger number = some call)
    (unrecorded : call.recorded = false) :
    call.scatter = true ∧ call.reqid ∈ next.abandoned := by
  have old : ∀ known, view.ledger number = some known → known.recorded = false →
      known.scatter = true ∧ known.reqid ∈ next.abandoned := by
    intro known before missing
    obtain ⟨scattered, given⟩ := law.lost number known before missing
    exact ⟨scattered, move_abandoned move given⟩
  cases move_ledger move with
  | same ledger => exact old call (ledger ▸ entered) unrecorded
  | entered new _ _ _ given _ ledger =>
    obtain ⟨rfl, rfl⟩ | before := enter_cases (ledger ▸ entered)
    · exact given unrecorded
    · exact old call before unrecorded
  | heard heard known body before _ ledger =>
    obtain ⟨rfl, rfl⟩ | ⟨-, other⟩ := hear_cases (ledger ▸ entered)
    · exact old known before unrecorded
    · exact old call other unrecorded

/-- How a move can change the contexts: not at all, by storing one under an id that was
not given up, or by dropping one. A plain context is only stored under a new id, the
context that is stored for the fiber of the frame runs, and the frame does not go on with
a context that is dropped. -/
inductive ContextChange (view next : View Body) : Prop
  | same (find : next.find = view.find)
  | stored (id : Nat) (context : Context Body)
      (find : next.find = Function.update view.find id (some context))
      (usable : id ∉ view.abandoned) (stamp : context.call ≤ next.calls)
      (plain : context.shape = .plain → view.find id = none)
      (thread : ∀ frame, next.frame = some frame → frame.fiber = some id →
        context.shape = .fiber .running)
  | dropped (id : Nat) (find : next.find = Function.update view.find id none)
      (handled : ∀ frame, next.frame = some frame →
        frame.ctx ≠ some id ∧ frame.fiber ≠ some id)

omit move in
theorem found_usable (id : Nat) (context : Context Body) (found : view.find id = some context) :
    id ∉ view.abandoned := by
  intro given
  exact Option.some_ne_none context (found.symm.trans (law.absent id given))

omit move in
theorem threaded_running (frame : Frame Body) (id : Nat) (context : Context Body)
    (runs : view.frame = some frame) (threaded : frame.fiber = some id)
    (found : view.find id = some context) : context.shape = .fiber .running := by
  obtain ⟨known, again, running⟩ := ((law.framed frame runs).fiber id threaded).1
  cases found.symm.trans again
  exact running

/-- Every move changes the contexts in one of these ways. -/
theorem move_contexts : ContextChange view next := by
  cases move with
  | record _ _ _ _ new usable =>
    refine .stored _ _ rfl usable (Nat.le_refl _) (fun _ => new) ?_
    intro after goes threaded
    obtain ⟨context, found, _⟩ := ((law.framed after goes).fiber _ threaded).1
    exact absurd (found.symm.trans new) (Option.some_ne_none context)
  | suspend _ _ _ _ _ found =>
    refine .stored _ _ rfl (found_usable view law _ _ found) (Nat.le_refl _)
      (fun shaped => by cases shaped) ?_
    rintro after ⟨⟩ again
    cases again
  | enter _ _ _ _ _ _ _ new usable =>
    exact .stored _ _ rfl usable (Nat.zero_le _) (fun _ => new) (fun _ _ _ => rfl)
  | wake _ _ _ _ _ _ _ _ _ _ found =>
    exact .stored _ _ rfl (found_usable view law _ _ found) (law.stamped _ _ found :)
      (fun shaped => by cases shaped) (fun _ _ _ => rfl)
  | collect _ _ _ _ _ _ _ _ _ _ _ _ found =>
    refine .stored _ _ rfl (found_usable view law _ _ found) (law.stamped _ _ found :)
      (fun shaped => by cases shaped) ?_
    intro after goes threaded
    cases threaded_running view law after _ _ goes threaded found
  | complete _ _ _ frame _ _ _ _ runs _ _ _ _ found =>
    refine .stored _ _ rfl (found_usable view law _ _ found) (law.stamped _ _ found :)
      (fun shaped => by cases shaped) ?_
    rintro after ⟨⟩ threaded
    cases threaded_running view law frame _ _ runs threaded found
  | gathered frame _ _ _ _ _ runs _ found shaped =>
    refine .stored _ _ rfl (found_usable view law _ _ found) (law.stamped _ _ found :)
      (fun shaped => by cases shaped) ?_
    rintro after ⟨⟩ threaded
    have running := threaded_running view law frame _ _ runs threaded found
    rw [shaped] at running
    cases running
  | die _ _ _ _ _ _ _ found =>
    refine .stored _ _ rfl (found_usable view law _ _ found) (law.stamped _ _ found :)
      (fun shaped => by cases shaped) ?_
    rintro after ⟨⟩ again
    cases again
  | leave _ id _ _ _ other =>
    refine .dropped id rfl ?_
    rintro after ⟨⟩
    exact ⟨other, (Option.some_ne_none _).symm⟩
  | delete _ id =>
    refine .dropped id rfl ?_
    rintro after ⟨⟩
  | _ => exact .same rfl

/-- Every move keeps the stamps of contexts in the range of the numbers. -/
theorem move_stamped (id : Nat) (context : Context Body)
    (found : next.find id = some context) : context.call ≤ next.calls := by
  have later := move_calls move
  have old : ∀ other known, view.find other = some known → known.call ≤ next.calls :=
    fun other known before => Nat.le_trans (law.stamped other known before) later
  cases move_contexts quiet view next move law with
  | same find => exact old id context (find ▸ found)
  | stored stored new find _ stamp =>
    exact put_all view stored new (fun _ known => known.call ≤ next.calls) stamp
      (fun other known _ before => old other known before) id context (find ▸ found)
  | dropped dropped find =>
    exact drop_all view dropped (fun _ known => known.call ≤ next.calls)
      (fun other known _ before => old other known before) id context (find ▸ found)

/-- No move stores a context under an id that was given up. -/
theorem move_absent (id : Nat) (given : id ∈ next.abandoned) : next.find id = none := by
  by_cases before : id ∈ view.abandoned
  · have absent := law.absent id before
    cases move_contexts quiet view next move law with
    | same find => rw [find, absent]
    | stored _ _ find usable =>
      rw [find, Function.update_of_ne _ _ _, absent]
      rintro rfl
      exact usable before
    | dropped dropped find =>
      rw [find]
      by_cases same : id = dropped
      · rw [same, Function.update_self]
      · rw [Function.update_of_ne same, absent]
  · cases move with
    | lose _ new =>
      obtain rfl | old := List.mem_cons.mp given
      · exact new
      · exact absurd old before
    | _ => exact absurd given before

end

theorem firing_put (view next : View Body) (id : Nat) (value : Option (Context Body))
    (find : next.find = Function.update view.find id value) (group : Nat)
    (firing : view.Firing group) (different : group ≠ id) : next.Firing group := by
  obtain ⟨context, size, messages, found, shaped, full⟩ := firing
  exact ⟨context, size, messages, by rw [find, Function.update_of_ne different]; exact found,
    shaped, full⟩

theorem firing_ne {view : View Body} {id : Nat} {context : Context Body}
    (found : view.find id = some context)
    (other : ∀ size messages, context.shape ≠ .group size messages false) {group : Nat}
    (firing : view.Firing group) : group ≠ id := by
  rintro rfl
  obtain ⟨known, size, messages, again, shaped, _⟩ := firing
  cases found.symm.trans again
  exact other size messages shaped

theorem firing_new {view : View Body} {id : Nat} (new : view.find id = none) {group : Nat}
    (firing : view.Firing group) : group ≠ id := by
  rintro rfl
  obtain ⟨context, _, _, found, _⟩ := firing
  exact Option.some_ne_none context (found.symm.trans new)

/-- The id of an open call is not that of a group that fires. -/
theorem firing_open (view : View Body) (law : Law view) (number : Nat) (call : Call Body)
    (initiator : Option (Message Body)) (size : Nat) (messages : List Body) (done : Bool)
    (entered : view.ledger number = some call) (waits : call.Open)
    (found : view.find call.reqid = some ⟨initiator, .group size messages done, number⟩)
    (group : Nat) (firing : view.Firing group) : group ≠ call.reqid := by
  rintro rfl
  obtain ⟨context, total, all, again, shaped, full⟩ := firing
  cases found.symm.trans again
  cases shaped
  obtain ⟨known, before, collects, _⟩ := law.stored _ _ found
  cases entered.symm.trans before
  exact collects_closed collects full waits

/-- A suspended fiber after a context changed was one before, if the change did not
suspend it. -/
theorem holder_put {view next : View Body} {id : Nat} {value : Option (Context Body)}
    (find : next.find = Function.update view.find id value)
    (awake : ∀ context stage, value = some context →
      context.shape ≠ .fiber (.suspend stage))
    {fiber group : Nat} (holder : next.Holder (some fiber) group) :
    fiber ≠ id ∧ view.Holder (some fiber) group := by
  obtain ⟨context, held, found, shaped⟩ := holder
  rw [find] at found
  by_cases same : fiber = id
  · subst same
    rw [Function.update_self] at found
    exact absurd shaped (awake context _ found)
  · rw [Function.update_of_ne same] at found
    exact ⟨same, context, held, found, shaped⟩

/-- How a move can change who is in which gather callback: those who are there were there
before; the frame enters one where nobody was; a holder goes on as another; or the frame
leaves one. -/
inductive HolderChange (view next : View Body) : Prop
  | kept (firing : ∀ group, view.Firing group → next.Firing group)
      (holders : ∀ holder group, next.Holder holder group → view.Holder holder group)
  | began (group : Nat) (ready : next.Firing group) (empty : ∀ holder, ¬ view.Holder holder group)
      (firing : ∀ group, view.Firing group → next.Firing group)
      (holders : ∀ holder other, next.Holder holder other →
        view.Holder holder other ∨ holder = none ∧ other = group)
  | moved (source target : Option Nat)
      (firing : ∀ group, view.Firing group → next.Firing group)
      (holders : ∀ holder group, next.Holder holder group →
        view.Holder holder group ∧ holder ≠ source ∨
          holder = target ∧ view.Holder source group)
  | ended (group : Nat) (held : view.Holder none group)
      (firing : ∀ other, other ≠ group → view.Firing other → next.Firing other)
      (holders : ∀ holder other, next.Holder holder other →
        view.Holder holder other ∧ holder ≠ none)

theorem holder_outside {next : View Body} {after : Frame Body} (group : Nat)
    (goes : next.frame = some after) (outside : after.stage = .interface) :
    ¬ next.Holder none group := by
  rintro ⟨known, held, again, inside⟩
  cases goes.symm.trans again
  rw [outside] at inside
  cases inside

section
variable (quiet : Prop) (view next : View Body) (move : Move quiet view next) (law : Law view)
include move law

/-- Every move changes the holders in one of these ways. -/
theorem move_holders : HolderChange view next := by
  cases move with
  | record _ _ _ _ new _ _ _ _ fits =>
    refine .kept (fun group firing => firing_put view _ _ _ rfl group firing
      (firing_new new firing)) ?_
    rintro (_ | fiber) group holder
    · exact holder
    · refine (holder_put rfl ?_ holder).2
      rintro context stage ⟨⟩ suspended
      rcases fits with ⟨rfl, _⟩ | ⟨rfl, _⟩ <;> cases suspended
  | arrive | hearPlain | hearGroup =>
    refine .kept (fun _ firing => firing) ?_
    rintro (_ | fiber) group holder
    · exact absurd holder (holder_outside group rfl rfl)
    · exact holder
  | enter _ _ _ _ _ _ outside new =>
    refine .kept (fun group firing => firing_put view _ _ _ rfl group firing
      (firing_new new firing)) ?_
    rintro (_ | fiber) group holder
    · exact absurd holder (holder_outside group rfl outside)
    · refine (holder_put rfl ?_ holder).2
      rintro context stage ⟨⟩ suspended
      cases suspended
  | collect number call _ _ initiator size messages done _ _ entered waits found =>
    refine .kept (fun group firing => firing_put view _ _ _ rfl group firing
      (firing_open view law number call initiator size messages done entered waits found group
        firing)) ?_
    rintro (_ | fiber) group holder
    · exact holder
    · refine (holder_put rfl ?_ holder).2
      rintro context stage ⟨⟩ suspended
      cases suspended
  | complete number call body _ initiator size messages done _ _ _ entered waits found ready =>
    have apart := firing_open view law number call initiator size messages done entered waits found
    refine .began call.reqid ?_ (fun holder held => apart _ (law.firing holder _ held) rfl)
      (fun group firing => firing_put view _ _ _ rfl group firing (apart group firing)) ?_
    · obtain ⟨known, before, collects, finished⟩ := law.stored _ _ found
      cases entered.symm.trans before
      have unfinished : done = false := by
        rw [Bool.eq_false_iff]
        intro complete
        exact collects_closed collects (finished complete) waits
      subst unfinished
      exact ⟨_, size, messages ++ [body], Function.update_self _ _ _, rfl, ready⟩
    · rintro (_ | fiber) group holder
      · obtain ⟨known, held, again, inside⟩ := holder
        cases again
        cases inside
        exact Or.inr ⟨rfl, rfl⟩
      · refine Or.inl (holder_put rfl ?_ holder).2
        rintro context stage ⟨⟩ suspended
        cases suspended
  | wake _ call _ _ _ stage _ _ _ _ found =>
    refine .moved (some call.reqid) none (fun group firing => firing_put view _ _ _ rfl group firing
      (firing_ne found (fun _ _ shaped => by cases shaped) firing)) ?_
    rintro (_ | fiber) group holder
    · obtain ⟨known, held, again, inside⟩ := holder
      cases again
      exact Or.inr ⟨rfl, _, held, found, by rw [← inside]⟩
    · have before := holder_put rfl
        (by rintro context stage ⟨⟩ suspended; cases suspended) holder
      exact Or.inl ⟨before.2, fun same => before.1 (Option.some.inj same)⟩
  | suspend frame call _ runs _ found running =>
    refine .moved none (some call.reqid) (fun group firing => firing_put view _ _ _ rfl group firing
      (firing_ne found (fun _ _ shaped => by rw [running] at shaped; cases shaped)
        firing)) ?_
    rintro (_ | fiber) group holder
    · exact absurd holder (holder_outside group rfl rfl)
    · obtain ⟨known, held, again, shaped⟩ := holder
      by_cases same : fiber = call.reqid
      · subst same
        cases (put_self (view.enter call) _ _).symm.trans again
        have inside : frame.stage = .gather group held := by simpa using shaped
        exact Or.inr ⟨rfl, frame, held, runs, inside⟩
      · exact Or.inl ⟨⟨known, held, (Function.update_of_ne same _ _).symm.trans again, shaped⟩,
          Option.some_ne_none _⟩
  | gathered frame group held context _ _ runs inside =>
    refine .ended group ⟨frame, held, runs, inside⟩ (fun other different firing =>
      firing_put view _ _ _ rfl other firing different) ?_
    rintro (_ | fiber) other holder
    · exact absurd holder (holder_outside other rfl rfl)
    · refine ⟨(holder_put rfl ?_ holder).2, Option.some_ne_none _⟩
      rintro context stage ⟨⟩ suspended
      cases suspended
  | leave _ _ _ _ _ _ outside found running =>
    refine .kept (fun group firing => firing_put view _ _ _ rfl group firing
      (firing_ne found (fun _ _ shaped => by rw [running] at shaped; cases shaped)
        firing)) ?_
    rintro (_ | fiber) group holder
    · exact absurd holder (holder_outside group rfl outside)
    · exact (holder_put rfl (fun _ _ none_ => by cases none_) holder).2
  | die _ _ context _ _ _ outside found running =>
    refine .kept (fun group firing => firing_put view _ _ _ rfl group firing
      (firing_ne found (fun _ _ shaped => by rw [running] at shaped; cases shaped)
        firing)) ?_
    rintro (_ | fiber) group holder
    · exact absurd holder (holder_outside group rfl outside)
    · refine (holder_put rfl ?_ holder).2
      rintro context stage ⟨⟩ suspended
      cases suspended
  | delete _ _ _ _ _ _ _ found done =>
    refine .kept (fun group firing => firing_put view _ _ _ rfl group firing
      (firing_ne found (fun _ _ shaped => by rw [shaped] at done; cases done)
        firing)) ?_
    rintro (_ | fiber) group holder
    · obtain ⟨known, held, again, inside⟩ := holder
      cases again
    · exact (holder_put rfl (fun _ _ none_ => by cases none_) holder).2
  | rest =>
    refine .kept (fun _ firing => firing) ?_
    rintro (_ | fiber) group holder
    · obtain ⟨known, held, again, inside⟩ := holder
      cases again
    · exact holder
  | _ => exact .kept (fun _ firing => firing) (fun _ _ holder => holder)

/-- Every move keeps complete the groups of the gather callbacks that are running. -/
theorem move_firing (holder : Option Nat) (group : Nat) (held : next.Holder holder group) :
    next.Firing group := by
  cases move_holders quiet view next move law with
  | kept firing holders => exact firing group (law.firing holder group (holders holder group held))
  | began _ ready _ firing holders =>
    obtain old | ⟨-, rfl⟩ := holders holder group held
    · exact firing group (law.firing holder group old)
    · exact ready
  | moved source _ firing holders =>
    obtain ⟨old, -⟩ | ⟨-, old⟩ := holders holder group held
    · exact firing group (law.firing holder group old)
    · exact firing group (law.firing source group old)
  | ended _ inside firing holders =>
    obtain ⟨old, suspended⟩ := holders holder group held
    apply firing group _ (law.firing holder group old)
    rintro rfl
    exact suspended (law.alone holder none group old inside)

/-- Every move keeps the holders alone. -/
theorem move_alone (holder other : Option Nat) (group : Nat) (held : next.Holder holder group)
    (again : next.Holder other group) : holder = other := by
  cases move_holders quiet view next move law with
  | kept _ holders =>
    exact law.alone holder other group (holders holder group held) (holders other group again)
  | began _ _ empty _ holders =>
    obtain old | ⟨rfl, rfl⟩ := holders holder group held
    · obtain old' | ⟨rfl, rfl⟩ := holders other group again
      · exact law.alone holder other group old old'
      · exact absurd old (empty holder)
    · obtain old' | ⟨rfl, -⟩ := holders other group again
      · exact absurd old' (empty other)
      · rfl
  | moved source _ _ holders =>
    obtain ⟨old, different⟩ | ⟨rfl, old⟩ := holders holder group held
    · obtain ⟨old', -⟩ | ⟨rfl, old'⟩ := holders other group again
      · exact law.alone holder other group old old'
      · exact absurd (law.alone holder source group old old') different
    · obtain ⟨old', different⟩ | ⟨rfl, -⟩ := holders other group again
      · exact absurd (law.alone other source group old' old) different
      · rfl
  | ended _ _ _ holders =>
    exact law.alone holder other group (holders holder group held).1 (holders other group again).1

end

/-- A number without an open call stays so when a call is entered under the next number. -/
theorem closed_enter {view : View Body} (law : Law view) (call : Call Body) {id : Nat}
    {context : Context Body} (found : view.find id = some context)
    (closed : view.Closed context.call) : (view.enter call).Closed context.call := by
  intro known entered
  rw [enter_other view law call id context found] at entered
  exact closed known entered

/-- A number without an open call stays so when an open call hears an answer. -/
theorem closed_hear {view : View Body} {heard : Nat} {call : Call Body} (body : Body)
    (entered : view.ledger heard = some call) (waits : call.Open) {number : Nat}
    (closed : view.Closed number) : (view.hear heard call body).Closed number := by
  intro known after
  obtain ⟨rfl, -⟩ | ⟨-, before⟩ := hear_cases after
  · exact absurd waits (closed call entered).1
  · exact closed known before

section
variable (quiet : Prop) (view next : View Body) (move : Move quiet view next) (law : Law view)
include move law

/-- A context without an open call has none after a move. -/
theorem move_closed (id : Nat) (context : Context Body) (found : view.find id = some context)
    (closed : view.Closed context.call) : next.Closed context.call := by
  unfold Closed
  cases move_ledger move with
  | same ledger =>
    rw [ledger]
    exact closed
  | entered call _ _ _ _ _ ledger =>
    rw [ledger]
    exact closed_enter law call found closed
  | heard _ _ body entered waits ledger =>
    rw [ledger]
    exact closed_hear body entered waits closed

/-- A frame that goes on has its context. -/
theorem goes_ctx (frame after : Frame Body) (runs : view.frame = some frame)
    (goes : next.frame = some after) (same : after.ctx = frame.ctx) (id : Nat)
    (handles : after.ctx = some id) :
    ∃ context, next.find id = some context ∧
      (context.shape = .plain → next.Closed context.call) := by
  obtain ⟨context, found, closed⟩ := (law.framed frame runs).ctx id (same.symm.trans handles)
  have kept : context.shape = .plain → next.Closed context.call := fun plain =>
    move_closed quiet view next move law id context found (closed plain)
  cases move_contexts quiet view next move law with
  | same find => exact ⟨context, by rw [find]; exact found, kept⟩
  | stored stored new find _ _ plain =>
    rw [find]
    by_cases here : id = stored
    · subst here
      refine ⟨new, Function.update_self _ _ _, ?_⟩
      intro shaped
      exact absurd (found.symm.trans (plain shaped)) (Option.some_ne_none context)
    · exact ⟨context, by rw [Function.update_of_ne here]; exact found, kept⟩
  | dropped _ find handled =>
    refine ⟨context, ?_, kept⟩
    rw [find, Function.update_of_ne _, found]
    rintro rfl
    exact (handled after goes).1 handles

/-- A frame that goes on has its fiber. -/
theorem goes_fiber (frame after : Frame Body) (runs : view.frame = some frame)
    (goes : next.frame = some after) (sync : next.sync = view.sync)
    (message : after.message = frame.message) (same : after.fiber = frame.fiber) (id : Nat)
    (threaded : after.fiber = some id) :
    (∃ context, next.find id = some context ∧ context.shape = .fiber .running) ∧
      ∃ message, after.message = some message ∧ next.sync message.target.intf = true := by
  obtain ⟨⟨context, found, running⟩, synchronous⟩ :=
    (law.framed frame runs).fiber id (same.symm.trans threaded)
  rw [sync, message]
  refine ⟨?_, synchronous⟩
  cases move_contexts quiet view next move law with
  | same find => exact ⟨context, by rw [find]; exact found, running⟩
  | stored stored new find _ _ _ thread =>
    rw [find]
    by_cases here : id = stored
    · subst here
      exact ⟨new, Function.update_self _ _ _, thread after goes threaded⟩
    · exact ⟨context, by rw [Function.update_of_ne here]; exact found, running⟩
  | dropped _ find handled =>
    refine ⟨context, ?_, running⟩
    rw [find, Function.update_of_ne _, found]
    rintro rfl
    exact (handled after goes).2 threaded

/-- Every move keeps what its frame relies on. -/
theorem move_framed (after : Frame Body) (goes : next.frame = some after) :
    next.Framed after := by
  have turn := goes_ctx quiet view next move law
  have thread := goes_fiber quiet view next move law
  cases move with
  | arrive =>
    cases goes
    constructor <;> (intro id none_; cases none_)
  | hearPlain number call body _ _ _ entered waits _ found =>
    cases goes
    constructor
    · rintro id ⟨⟩
      refine ⟨_, found, ?_⟩
      intro _ known heard
      obtain ⟨again, before, single⟩ := law.stored _ _ found
      cases entered.symm.trans before
      cases (hear_self view number call body).symm.trans heard
      exact ⟨waits_closed body single waits, single.single⟩
    · intro id none_
      cases none_
  | hearGroup _ _ _ context _ _ _ _ _ _ found shaped =>
    cases goes
    constructor
    · rintro id ⟨⟩
      refine ⟨context, found, ?_⟩
      intro plain
      rw [shaped] at plain
      cases plain
    · intro id none_
      cases none_
  | wake _ _ _ message _ _ _ _ _ _ _ synchronous =>
    cases goes
    constructor
    · rintro id ⟨⟩
      exact ⟨_, Function.update_self _ _ _, fun plain => by cases plain⟩
    · rintro id ⟨⟩
      exact ⟨⟨_, Function.update_self _ _ _, rfl⟩, message, rfl, synchronous⟩
  | enter frame _ message runs _ handles _ _ _ synchronous =>
    cases goes
    constructor
    · exact turn frame _ runs rfl rfl
    · rintro other ⟨⟩
      exact ⟨⟨_, Function.update_self _ _ _, rfl⟩, message, handles, synchronous⟩
  | complete _ _ _ frame _ _ _ _ runs | gathered frame _ _ _ _ _ runs =>
    cases goes
    exact ⟨turn frame _ runs rfl rfl, thread frame _ runs rfl rfl rfl rfl⟩
  | suspend frame _ _ runs | leave frame id _ runs | die frame id _ runs =>
    cases goes
    exact ⟨turn frame _ runs rfl rfl, fun id none_ => by cases none_⟩
  | delete | rest => cases goes
  | _ => exact ⟨turn after after goes goes rfl, thread after after goes goes rfl rfl rfl⟩

/-- No move gives a context to a request or scatter message. -/
theorem move_opened (after : Frame Body) (message : Message Body)
    (goes : next.frame = some after) (handles : after.message = some message)
    (calls : message.isCall = true) : after.ctx = none := by
  cases move with
  | arrive =>
    cases goes
    rfl
  | hearPlain _ _ _ _ _ _ _ _ answer | hearGroup _ _ _ _ _ _ _ _ _ answer
  | wake _ _ _ _ _ _ _ _ _ answer =>
    cases goes
    cases handles
    exact absurd calls (by rw [answer]; decide)
  | enter frame _ _ runs | complete _ _ _ frame _ _ _ _ runs | suspend frame _ _ runs
  | gathered frame _ _ _ _ _ runs | leave frame _ _ runs | die frame _ _ runs =>
    cases goes
    exact law.opened frame message runs handles calls
  | delete | rest => cases goes
  | _ => exact law.opened after message goes handles calls

/-- Every move keeps the law. -/
theorem move_law : Law next where
  numbered := move_numbered quiet view next move law
  stamped := move_stamped quiet view next move law
  stored := move_stored quiet view next move law
  waiting := move_waiting quiet view next move law
  lost := move_lost quiet view next move law
  absent := move_absent quiet view next move law
  framed := move_framed quiet view next move law
  opened := move_opened quiet view next move law
  firing := move_firing quiet view next move law
  alone := move_alone quiet view next move law

end

/-- Each suspended fiber waits for the answer to an open call. -/
def Awaiting (view : View Body) : Prop :=
  ∀ id context, view.find id = some context → ∀ stage, context.shape = .fiber (.suspend stage) →
    ∃ call, view.ledger context.call = some call ∧ call.Open

/-- Every move leaves suspended fibers with open calls.

Proof: a move stores at most one context. It is that of a suspended fiber only when the
move has just made the call, and the answered call of a move that hears one has its
context under the id of the stored one. -/
theorem move_awaiting {quiet : Prop} {view next : View Body} (move : Move quiet view next)
    (law : Law view) (awaiting : view.Awaiting) : next.Awaiting := by
  have still (id : Nat) (context : Context Body) (found : view.find id = some context)
      (ledger : next.ledger context.call = view.ledger context.call) (stage : Stage Body)
      (suspended : context.shape = .fiber (.suspend stage)) :
      ∃ call, next.ledger context.call = some call ∧ call.Open := by
    rw [ledger]
    exact awaiting id context found stage suspended
  cases move with
  | record _ _ call _ _ _ _ _ _ fits =>
    apply put_all view
    · rintro stage ⟨⟩
      rcases fits with ⟨impossible, -⟩ | ⟨impossible, -⟩ <;> cases impossible
    · intro id context different found
      exact still id context found (enter_other view law call id context found)
  | lose call =>
    exact fun id context found =>
      still id context found (enter_other view law call id context found)
  | hearPlain number call body _ _ _ entered waits _ found =>
    intro id context stored stage suspended
    have different : id ≠ call.reqid := by
      rintro rfl
      cases found.symm.trans stored
      cases suspended
    exact still id context stored
      (hear_other view law number call body entered waits id context different stored) stage
      suspended
  | wake number call body _ _ _ _ entered waits
  | collect number call body _ _ _ _ _ _ _ entered waits
  | complete number call body _ _ _ _ _ _ _ _ entered waits =>
    apply put_all view
    · exact nofun
    · intro id context different stored
      exact still id context stored
        (hear_other view law number call body entered waits id context different stored)
  | miss number call body entered waits unrecorded =>
    intro id context stored
    have different : id ≠ call.reqid := by
      rintro rfl
      have absent := lost_absent view law number call entered unrecorded
      exact Option.some_ne_none context (stored.symm.trans absent)
    exact still id context stored
      (hear_other view law number call body entered waits id context different stored)
  | suspend _ call _ _ _ _ _ waits unanswered =>
    apply put_all view
    · intro stage suspended
      refine ⟨call, enter_self view call, ?_⟩
      rw [Call.Open, unanswered, waits.once]
      exact Nat.zero_lt_one
    · intro id known different stored
      exact still id known stored (enter_other view law call id known stored)
  | enter | gathered | die =>
    apply put_all view
    · exact nofun
    · exact fun id context _ found => still id context found rfl
  | leave | delete =>
    apply drop_all view
    exact fun id context _ found => still id context found rfl
  | _ => exact fun id context found => still id context found rfl

end Mola.Requests.View
