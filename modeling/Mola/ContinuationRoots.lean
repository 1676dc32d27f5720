import Mola.ContinuationOutputs

/-!
# Initiators are roots, and gather callbacks are prompt

The root of a call is the request or scatter message on whose behalf it was made. The
actor does not know it: it copies initiators from contexts and from the current message.
Every move keeps the copies equal to the roots, so a returned value answers the root.

When no gather callback is suspended, a complete group is the current context, and it is
done as soon as the frame is back in the interface. Such a group is deleted at the end of
the turn.
-/

namespace Mola.Requests.View

universe u
variable {Body : Type u}

/-- A context on behalf of a root: it has the root as initiator, and so has the gather
callback that is suspended in it. -/
structure Serves (context : Context Body) (root : Message Body) : Prop where
  initiator : context.initiator = some root
  held : ∀ group held, context.shape = .fiber (.suspend (.gather group held)) → held = some root

/-- A frame on behalf of a root: what it starts, its gather callback and its fiber have
the root as initiator. -/
structure Turn (view : View Body) (frame : Frame Body) (root : Message Body) : Prop where
  initiator : view.initiator frame = some root
  held : ∀ group held, frame.stage = .gather group held → held = some root
  fiber : ∀ id, frame.fiber = some id → (view.find id).bind Context.initiator = some root

/-- The roots of the turn, of the calls and of the saved rights are requests or scatter
messages. -/
structure Called (view : View Body) : Prop where
  turn : ∀ root, view.root = some root → root.isCall = true
  calls : ∀ number call root, view.ledger number = some call → call.root = some root →
    root.isCall = true
  saved : ∀ handle root, view.savedRoots handle = some root → root.isCall = true

/-- Initiators are roots, and returned values answer roots. -/
structure Rooted (view : View Body) : Prop where
  contexts : ∀ id context call root, view.find id = some context →
    view.ledger context.call = some call → call.root = some root → Serves context root
  turn : ∀ frame root, view.frame = some frame → view.root = some root → view.Turn frame root
  saved : ∀ handle saved root, view.saved handle = some saved →
    view.savedRoots handle = some root → saved.initiator = some root
  replies : ∀ reply root, (reply, root) ∈ view.replies → Answers reply root

theorem serves_awake (context : Context Body) (root : Message Body) (shape : Shape Body)
    (call : Nat) (awake : ∀ stage, shape ≠ .fiber (.suspend stage))
    (initiator : context.initiator = some root) : Serves ⟨context.initiator, shape, call⟩ root :=
  ⟨initiator, fun _ _ suspended => absurd suspended (awake _)⟩

/-- A frame stays on behalf of its root when its context and its fiber keep their
initiators, and it goes on or returns to the interface. -/
theorem turn_kept {view next : View Body} {frame after : Frame Body} {root : Message Body}
    (turn : view.Turn frame root) (ctx : after.ctx = frame.ctx)
    (message : after.message = frame.message)
    (fiber : ∀ id, after.fiber = some id → frame.fiber = some id)
    (stage : after.stage = frame.stage ∨ after.stage = .interface)
    (same : ∀ id, frame.ctx = some id ∨ after.fiber = some id →
      (next.find id).bind Context.initiator = (view.find id).bind Context.initiator) :
    next.Turn after root := by
  constructor
  · have initiator := turn.initiator
    unfold View.initiator at *
    rw [ctx, message]
    cases handles : frame.ctx with rw [handles] at initiator
    | none =>
      exact initiator
    | some id =>
      exact (same id (Or.inl handles)).trans initiator
  · intro group held inside
    rcases stage with stage | stage
    · exact turn.held group held (stage.symm.trans inside)
    · rw [stage] at inside
      cases inside
  · intro id threaded
    exact (same id (Or.inr threaded)).trans (turn.fiber id (fiber id threaded))

theorem turn_stage {view : View Body} {frame : Frame Body} {root : Message Body} (group : Nat)
    {held : Option (Message Body)} (own : held = some root) (turn : view.Turn frame root) :
    view.Turn { frame with stage := .gather group held } root := by
  refine ⟨turn.initiator, fun other message inside => ?_, turn.fiber⟩
  injection inside with _ same
  exact same ▸ own

section
variable (view next : View Body) (law : Law view)

theorem initiator_new (id : Nat) (context : Context Body) (new : view.find id = none)
    (find : next.find = Function.update view.find id (some context)) (other : Nat)
    (known : Context Body) (found : view.find other = some known) :
    (next.find other).bind Context.initiator = (view.find other).bind Context.initiator := by
  have different : other ≠ id := by
    rintro rfl
    exact Option.some_ne_none known (found.symm.trans new)
  rw [find, Function.update_of_ne different]

/-- Changing a context keeps its initiator. -/
theorem initiator_changed {id : Nat} {old context : Context Body}
    (found : view.find id = some old)
    (find : next.find = Function.update view.find id (some context))
    (same : context.initiator = old.initiator) (other : Nat) :
    (next.find other).bind Context.initiator = (view.find other).bind Context.initiator := by
  rw [find]
  by_cases here : other = id
  · subst here
    rw [Function.update_self, found]
    exact same
  · rw [Function.update_of_ne here]

include law

theorem framed_found (frame : Frame Body) (runs : view.frame = some frame) (id : Nat)
    (either : frame.ctx = some id ∨ frame.fiber = some id) :
    ∃ context, view.find id = some context := by
  rcases either with handles | threaded
  · obtain ⟨context, found, _⟩ := (law.framed frame runs).ctx id handles
    exact ⟨context, found⟩
  · obtain ⟨context, found, _⟩ := ((law.framed frame runs).fiber id threaded).1
    exact ⟨context, found⟩

end

/-- Every root stays a request or scatter message. -/
theorem move_called {quiet : Prop} {view next : View Body} (move : Move quiet view next)
    (called : Called view) : Called next where
  turn := by
    intro root own
    cases move with
    | arrive message =>
      have whose : (if message.isCall = true then some message else none) = some root := own
      split at whose
      next calls => exact Option.some.inj whose ▸ calls
      next => cases whose
    | hearPlain number call _ _ _ _ entered | hearGroup number call _ _ _ _ _ _ entered
    | wake number call _ _ _ _ _ entered | miss number call _ entered =>
      exact called.calls number call root entered own
    | _ => exact called.turn root own
  calls := by
    intro number call root entered own
    cases move_ledger move with
    | same ledger => exact called.calls number call root (ledger ▸ entered) own
    | entered new _ whose _ _ calls ledger =>
      obtain ⟨rfl, rfl⟩ | before := enter_cases (ledger ▸ entered)
      · exact called.turn root (whose.symm.trans own)
      · exact called.calls number call root before own
    | heard heard known body before _ ledger =>
      obtain ⟨rfl, rfl⟩ | ⟨-, old⟩ := hear_cases (ledger ▸ entered)
      · exact called.calls number known root before own
      · exact called.calls number call root old own
  saved := by
    intro handle root own
    cases move with
    | save _ new =>
      by_cases same : handle = new
      · subst same
        have turn : Function.update view.savedRoots handle view.root handle = some root := own
        rw [Function.update_self] at turn
        exact called.turn root turn
      · exact called.saved handle root ((Function.update_of_ne same _ _).symm.trans own)
    | _ => exact called.saved handle root own

section
variable (quiet : Prop) (view next : View Body) (move : Move quiet view next)
  (rooted : Rooted view)
include move rooted

/-- Every saved right keeps the root of the turn that saved it. -/
theorem move_saved (handle : Nat) (saved : Saved Body) (root : Message Body)
    (held : next.saved handle = some saved) (whose : next.savedRoots handle = some root) :
    saved.initiator = some root := by
  cases move with
  | save frame new right runs own =>
    by_cases same : handle = new
    · subst same
      have stored : Function.update view.saved handle (some right) handle = some saved := held
      have turn : Function.update view.savedRoots handle view.root handle = some root := whose
      rw [Function.update_self] at stored turn
      cases stored
      exact own.trans (rooted.turn frame root runs turn).initiator
    · exact rooted.saved handle saved root ((Function.update_of_ne same _ _).symm.trans held)
        ((Function.update_of_ne same _ _).symm.trans whose)
  | replySaved used =>
    by_cases same : handle = used
    · subst same
      have gone : Function.update view.saved handle none handle = some saved := held
      rw [Function.update_self] at gone
      cases gone
    · exact rooted.saved handle saved root ((Function.update_of_ne same _ _).symm.trans held) whose
  | _ => exact rooted.saved handle saved root held whose

/-- Every returned value answers its root. -/
theorem move_replies (reply root : Message Body) (sent : (reply, root) ∈ next.replies) :
    Answers reply root := by
  cases move with
  | reply frame _ initiator _ runs whose turn built =>
    obtain before | now := List.mem_append.mp sent
    · exact rooted.replies reply root before
    · obtain ⟨rfl, rfl⟩ := Prod.mk.inj (List.mem_singleton.mp now)
      have serves := rooted.turn frame root runs turn
      rcases whose with whose | ⟨group, inside⟩
      · cases whose.symm.trans serves.initiator
        exact built
      · cases serves.held group _ inside
        exact built
  | replySaved used right _ _ held own built =>
    obtain before | now := List.mem_append.mp sent
    · exact rooted.replies reply root before
    · obtain ⟨turn, whose, same⟩ := Option.map_eq_some_iff.mp (Option.mem_toList.mp now)
      obtain ⟨rfl, rfl⟩ := Prod.mk.inj same
      have saved := rooted.saved used right turn held whose
      cases own.symm.trans saved
      exact built
  | _ => exact rooted.replies reply root sent

variable (law : Law view)
include law

/-- A context that was there serves the root of its call. -/
theorem move_serves (id : Nat) (context : Context Body) (call : Call Body) (root : Message Body)
    (found : view.find id = some context) (entered : next.ledger context.call = some call)
    (whose : call.root = some root) : Serves context root := by
  cases move_ledger move with
  | same ledger => exact rooted.contexts id context call root found (ledger ▸ entered) whose
  | entered new _ _ _ _ _ ledger =>
    rw [ledger, enter_other view law new id context found] at entered
    exact rooted.contexts id context call root found entered whose
  | heard heard known body before _ ledger =>
    obtain ⟨same, rfl⟩ | ⟨-, old⟩ :=
      hear_cases (ledger ▸ entered)
    · exact rooted.contexts id context known root found (same ▸ before) whose
    · exact rooted.contexts id context call root found old whose

/-- Every move leaves each context on behalf of the root of its call. -/
theorem move_served : ∀ id context, next.find id = some context → ∀ call root,
    next.ledger context.call = some call → call.root = some root → Serves context root := by
  have old := move_serves quiet view next move rooted law
  cases move with
  | record frame _ new runs _ _ _ _ whose fits =>
    refine put_all view _ _ _ ?_ (fun id context _ found call root => old id context call root found)
    intro call root entered own
    cases (enter_self view new).symm.trans entered
    have turn := rooted.turn frame root runs (whose.symm.trans own)
    refine ⟨turn.initiator, fun group held suspended => ?_⟩
    rcases fits with ⟨rfl, -⟩ | ⟨rfl, -⟩ <;> cases suspended
  | suspend frame new context runs threaded found _ _ _ whose =>
    refine put_all view _ _ _ ?_ (fun id context _ found call root => old id context call root found)
    intro call root entered own
    cases (enter_self view new).symm.trans entered
    have turn := rooted.turn frame root runs (whose.symm.trans own)
    have initiator := turn.fiber _ threaded
    rw [found] at initiator
    refine ⟨initiator, fun group held suspended => ?_⟩
    injection suspended with suspended
    injection suspended with suspended
    exact turn.held group held suspended
  | wake heard _ _ _ initiator stage _ entered _ _ found =>
    refine put_all view _ _ _ ?_ (fun id context _ found call root => old id context call root found)
    intro call root entered own
    exact serves_awake ⟨initiator, .fiber (.suspend stage), heard⟩ root _ _ nofun
      (old _ _ call root found entered own).initiator
  | enter _ id =>
    refine put_all view _ _ _ ?_ (fun id context _ found call root => old id context call root found)
    intro call root entered own
    have positive := (law.numbered 0 call entered).1
    omega
  | collect heard _ _ _ initiator size messages done _ _ entered _ found
  | complete heard _ _ _ initiator size messages done _ _ _ entered _ found =>
    refine put_all view _ _ _ ?_ (fun id context _ found call root => old id context call root found)
    intro call root entered own
    exact serves_awake ⟨initiator, .group size messages done, heard⟩ root _ _ nofun
      (old _ _ call root found entered own).initiator
  | gathered _ _ _ context _ _ _ _ found | die _ id context _ _ _ _ found =>
    refine put_all view _ _ _ ?_ (fun id context _ found call root => old id context call root found)
    intro call root entered own
    exact serves_awake context root _ _ nofun (old _ _ call root found entered own).initiator
  | leave | delete =>
    exact drop_all view _ _ (fun id context _ found call root => old id context call root found)
  | _ => exact fun id context found call root => old id context call root found

/-- Every move leaves the frame on behalf of the root of the turn. -/
theorem move_turn (after : Frame Body) (root : Message Body) (goes : next.frame = some after)
    (whose : next.root = some root) : next.Turn after root := by
  have found := framed_found view law
  cases move with
  | arrive message =>
    obtain rfl := Option.some.inj goes
    have own : (if message.isCall = true then some message else none) = some root := whose
    split at own
    next => exact ⟨own, nofun, nofun⟩
    next => cases own
  | hearPlain _ call _ _ initiator _ entered _ _ found =>
    obtain rfl := Option.some.inj goes
    have serves := rooted.contexts _ _ call root found entered whose
    refine ⟨?_, nofun, nofun⟩
    exact (congrArg (Option.bind · Context.initiator) found).trans serves.initiator
  | hearGroup _ call _ _ _ _ _ _ entered _ found _ own =>
    obtain rfl := Option.some.inj goes
    have serves := rooted.contexts _ _ call root found (own ▸ entered) whose
    refine ⟨?_, nofun, nofun⟩
    exact (congrArg (Option.bind · Context.initiator) found).trans serves.initiator
  | wake heard call _ _ initiator stage _ entered _ _ found =>
    obtain rfl := Option.some.inj goes
    have serves := rooted.contexts _ _ call root found entered whose
    have initiator : ((view.put call.reqid ⟨initiator, .fiber .running, heard⟩).find
        call.reqid).bind Context.initiator = some root := by
      rw [put_self]
      exact serves.initiator
    refine ⟨initiator, fun group held inside => ?_, fun id threaded => ?_⟩
    · obtain rfl : stage = .gather group held := inside
      exact serves.held group held rfl
    · obtain rfl := Option.some.inj threaded
      exact initiator
  | record frame _ _ runs new =>
    obtain rfl := Option.some.inj (runs.symm.trans goes)
    refine turn_kept (rooted.turn frame root runs whose) rfl rfl
      (fun _ => id) (Or.inl rfl) (fun id either => ?_)
    obtain ⟨known, found⟩ := found frame runs id either
    exact initiator_new view _ _ _ new rfl id known found
  | enter frame id _ runs _ _ _ new =>
    obtain rfl := Option.some.inj goes
    have turn := rooted.turn frame root runs whose
    have kept : ((view.put id ⟨view.initiator frame, .fiber .running, 0⟩).go
        (some { frame with fiber := some id })).Turn frame root := by
      refine turn_kept turn rfl rfl (fun _ same => same) (Or.inl rfl)
        (fun other either => ?_)
      obtain ⟨known, found⟩ := found frame runs other either
      exact initiator_new view _ _ _ new rfl other known found
    refine ⟨kept.initiator, kept.held, fun other threaded => ?_⟩
    obtain rfl := Option.some.inj threaded
    exact (congrArg (Option.bind · Context.initiator) (put_self view id _)).trans turn.initiator
  | collect _ _ _ frame _ _ _ _ runs _ _ _ stored =>
    obtain rfl := Option.some.inj (runs.symm.trans goes)
    exact turn_kept (rooted.turn frame root runs whose) rfl rfl
      (fun _ => id) (Or.inl rfl)
      (fun id _ => initiator_changed _ _ stored rfl (by rfl) id)
  | complete _ _ _ frame initiator _ _ _ runs handles _ _ _ stored =>
    obtain rfl := Option.some.inj goes
    have turn := rooted.turn frame root runs whose
    have own := turn.initiator
    unfold View.initiator at own
    rw [handles] at own
    dsimp only at own
    rw [stored] at own
    refine turn_stage _ own (turn_kept turn rfl rfl
      (fun _ => id) (Or.inl rfl)
      (fun id _ => initiator_changed _ _ stored rfl (by rfl) id))
  | suspend frame _ _ runs _ stored =>
    obtain rfl := Option.some.inj goes
    exact turn_kept (rooted.turn frame root runs whose) rfl rfl nofun
      (Or.inr rfl) (fun id _ => initiator_changed _ _ stored rfl (by rfl) id)
  | gathered frame _ _ _ _ _ runs _ stored =>
    obtain rfl := Option.some.inj goes
    exact turn_kept (rooted.turn frame root runs whose) rfl rfl
      (fun _ => id) (Or.inr rfl)
      (fun id _ => initiator_changed _ _ stored rfl (by rfl) id)
  | die frame id _ runs _ _ _ stored =>
    obtain rfl := Option.some.inj goes
    exact turn_kept (rooted.turn frame root runs whose) rfl rfl nofun
      (Or.inl rfl) (fun id _ => initiator_changed _ _ stored rfl (by rfl) id)
  | leave frame id _ runs threaded other =>
    obtain rfl := Option.some.inj goes
    refine turn_kept (rooted.turn frame root runs whose) rfl rfl nofun
      (Or.inl rfl) ?_
    rintro kept (handles | threaded)
    · have different : kept ≠ id := by
        rintro rfl
        exact other handles
      exact congrArg (Option.bind · Context.initiator) (Function.update_of_ne different _ _)
    · cases threaded
  | miss _ _ _ _ _ _ rests =>
    rw [show view.frame = some after from goes] at rests
    cases rests
  | delete | rest => cases goes
  | _ =>
    have turn := rooted.turn after root goes whose
    exact ⟨turn.initiator, turn.held, turn.fiber⟩

theorem move_rooted : Rooted next where
  contexts id context call root found :=
    move_served quiet view next move rooted law id context found call root
  turn := move_turn quiet view next move rooted law
  saved := move_saved quiet view next move rooted
  replies := move_replies quiet view next move rooted

end

/-- A group that has all its answers. -/
def Full (context : Context Body) : Prop :=
  ∃ size messages done, context.shape = .group size messages done ∧ messages.length = size

/-- A complete group is the current context, and it is done unless its gather callback
runs. No gather callback is suspended. -/
structure Prompt (view : View Body) : Prop where
  complete : ∀ id context, view.find id = some context → Full context →
    ∃ frame, view.frame = some frame ∧ frame.ctx = some id ∧
      (frame.stage = .interface → context.shape.done = true)
  staged : ∀ frame group held, view.frame = some frame → frame.stage = .gather group held →
    frame.ctx = some group
  awake : ∀ fiber group, ¬ view.Holder (some fiber) group

section
variable (quiet : Prop) (view next : View Body) (move : Move quiet view next)
  (prompt : Prompt view)
include move prompt

/-- Every move keeps a complete group current until it is done. -/
theorem move_complete (holds : quiet) : ∀ id context, next.find id = some context →
    Full context → ∃ frame, next.frame = some frame ∧ frame.ctx = some id ∧
      (frame.stage = .interface → context.shape.done = true) := by
  have old := prompt.complete
  -- outside a turn there is no complete group
  have resting : view.frame = none → ∀ id context, view.find id = some context →
      ¬ Full context := by
    intro rests id context found full
    obtain ⟨frame, runs, -⟩ := old id context found full
    exact Option.some_ne_none frame (runs.symm.trans rests)
  -- in a turn a complete group is the current one
  have carried : ∀ frame, view.frame = some frame → ∀ id context, view.find id = some context →
      Full context → frame.ctx = some id ∧
        (frame.stage = .interface → context.shape.done = true) := by
    intro frame runs id context found full
    obtain ⟨known, again, handled⟩ := old id context found full
    cases runs.symm.trans again
    exact handled
  have current : ∀ frame here, view.frame = some frame → frame.ctx = some here →
      ∀ id context, id ≠ here → view.find id = some context → ¬ Full context := by
    intro frame here runs handles id context different found full
    have own := (carried frame runs id context found full).1
    exact different (Option.some.inj (own.symm.trans handles))
  cases move with
  | arrive _ rests | hearPlain _ _ _ _ _ rests | hearGroup _ _ _ context _ _ _ rests =>
    exact fun id context found full => absurd full (resting rests id context found)
  | wake _ _ _ _ _ _ rests =>
    refine put_all view _ _ _ ?_
      (fun id context _ found full => absurd full (resting rests id context found))
    rintro ⟨size, messages, done, shaped, -⟩
    cases shaped
  | record _ _ _ _ _ _ _ _ _ fits =>
    refine put_all view _ _ _ ?_ (fun id context _ found full => old id context found full)
    rintro ⟨size, messages, done, shaped, full⟩
    rcases fits with ⟨rfl, -⟩ | ⟨rfl, -, some_⟩
    · cases shaped
    · cases shaped
      rw [← full] at some_
      cases some_
  | enter frame _ _ runs | die frame _ context runs =>
    refine put_all view _ _ _ ?_ ?_
    · rintro ⟨size, messages, done, shaped, -⟩
      cases shaped
    · exact fun other context _ found full =>
        ⟨_, rfl, carried frame runs other context found full⟩
  | collect _ _ _ _ _ size messages done _ _ _ _ found unready =>
    refine put_all view _ _ _ ?_ (fun id context _ found full => old id context found full)
    rintro ⟨size, messages, done, shaped, full⟩
    cases shaped
    exact absurd full unready
  | complete _ _ _ frame _ _ _ _ runs handles =>
    refine put_all view _ _ _ ?_ (fun id context different found full =>
      absurd full (current frame _ runs handles id context different found))
    exact fun _ => ⟨_, rfl, handles, nofun⟩
  | suspend frame _ context runs _ found _ _ _ _ _ outside =>
    refine put_all view _ _ _ ?_ ?_
    · rintro ⟨size, messages, done, shaped, -⟩
      cases shaped
    · intro other context _ found full
      obtain ⟨own, done⟩ := carried frame runs other context found full
      exact ⟨_, rfl, own, fun _ => done (outside holds)⟩
  | gathered frame group held context _ _ runs inside =>
    have handles := prompt.staged frame group held runs inside
    refine put_all view _ _ _ ?_ (fun id context different found full =>
      absurd full (current frame group runs handles id context different found))
    exact fun _ => ⟨_, rfl, handles, fun _ => rfl⟩
  | leave frame _ context runs =>
    refine drop_all view _ _ ?_
    intro other context _ found full
    exact ⟨_, rfl, carried frame runs other context found full⟩
  | delete frame id context runs _ _ handles =>
    exact drop_all view _ _ (fun other context different found full =>
      absurd full (current frame id runs handles other context different found))
  | rest frame runs _ outside undone =>
    intro id context found full
    obtain ⟨own, done⟩ := carried frame runs id context found full
    exact absurd (done outside) (by rw [undone id context own found]; decide)
  | _ => exact old

/-- Every move keeps the gather callback that runs that of the current context. -/
theorem move_staged (after : Frame Body) (group : Nat) (held : Option (Message Body))
    (goes : next.frame = some after) (inside : after.stage = .gather group held) :
    after.ctx = some group := by
  cases move with
  | arrive | hearPlain | hearGroup | suspend | gathered =>
    cases goes
    cases inside
  | wake _ call _ _ _ stage _ _ _ _ found =>
    cases goes
    obtain rfl : stage = .gather group held := inside
    exact absurd ⟨_, held, found, rfl⟩ (prompt.awake call.reqid group)
  | complete _ _ _ _ _ _ _ _ _ handles =>
    cases goes
    injection inside with same _
    exact same ▸ handles
  | enter frame _ _ runs | leave frame _ _ runs | die frame _ _ runs =>
    cases goes
    exact prompt.staged frame group held runs inside
  | delete | rest => cases goes
  | _ => exact prompt.staged after group held goes inside

/-- No move of a quiet actor suspends a gather callback. -/
theorem move_awake (holds : quiet) (fiber group : Nat) : ¬ next.Holder (some fiber) group := by
  have old : ∀ id context, view.find id = some context → ∀ held,
      context.shape ≠ .fiber (.suspend (.gather group held)) :=
    fun id context found held suspended => prompt.awake id group ⟨context, held, found, suspended⟩
  suffices all : ∀ id context, next.find id = some context → ∀ held,
      context.shape ≠ .fiber (.suspend (.gather group held)) by
    rintro ⟨context, held, found, suspended⟩
    exact all fiber context found held suspended
  cases move with
  | record _ _ _ _ _ _ _ _ _ fits =>
    refine put_all view _ _ _ ?_ (fun id context _ => old id context)
    rcases fits with ⟨rfl, -⟩ | ⟨rfl, -⟩ <;> exact nofun
  | suspend _ _ _ _ _ _ _ _ _ _ _ outside =>
    refine put_all view _ _ _ ?_ (fun id context _ => old id context)
    rw [outside holds]
    exact nofun
  | wake | enter | collect | complete | gathered | die =>
    exact put_all view _ _ _ nofun (fun id context _ => old id context)
  | leave | delete => exact drop_all view _ _ (fun id context _ => old id context)
  | _ => exact old

theorem move_prompt (holds : quiet) : Prompt next where
  complete := move_complete quiet view next move prompt holds
  staged := move_staged quiet view next move prompt
  awake := move_awake quiet view next move prompt holds

end

end Mola.Requests.View
