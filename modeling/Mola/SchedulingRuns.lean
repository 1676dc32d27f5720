import Mola.MailboxContents
import Mola.Runs
import Mola.Scheduling

/-!
# Runs of a scheduled actor

An actor that is created on demand starts BLOCKED with no run-queue entry. Along
every run it has one token when its mailbox is not BLOCKED and none when it is:
a deliverer that owes an entry, an entry, or an execution. Two workers never
execute it at once. With batches below 2^32 items the mark is also exact about
the contents, so no message waits in an actor that nobody will run.

An actor that is started with its module has an entry while its mailbox is still
BLOCKED. A delivery that finds this mark adds a second entry. Without such a
delivery the entries and executions number at most one.
-/

namespace Mola.SchedulingRuns

open Chains Mailbox Runs Scheduling Tallies

universe u v w

/-- The token law of an actor that is created on demand. -/
def OnDemand (tokens : Tokens) : Prop :=
  tokens.resuming + tokens.busy = if tokens.blocked then 0 else 1

/-- The token law of an actor that is started with its module, as long as nobody
takes the BLOCKED mark from under an entry or an execution. -/
def Autostart (tokens : Tokens) : Prop :=
  if tokens.blocked then tokens.resuming = 0 ∧ tokens.busy ≤ 1
  else tokens.resuming + tokens.busy = 1

/-- Every move keeps the law of an actor that is created on demand. Its token
cannot leave a BLOCKED mailbox, because there is none. -/
theorem onDemand_moves {before after : Tokens} (moves : before.Moves after)
    (law : OnDemand before) : OnDemand after := by
  cases moves with
  | stay => exact law
  | unblock | block =>
    simp only [OnDemand, if_true, Bool.false_eq_true, if_false] at law ⊢
    omega
  | resume =>
    simp only [OnDemand] at law ⊢
    omega
  | leave =>
    simp only [OnDemand, if_true] at law ⊢
    omega

/-- A move that does not unblock a busy actor keeps the law of an actor that is
started with its module. -/
theorem autostart_moves {before after : Tokens} (moves : before.Moves after)
    (quiet : before.blocked = true → after.blocked = false → before.busy = 0)
    (law : Autostart before) : Autostart after := by
  cases moves with
  | stay => exact law
  | unblock _ busy =>
    have unused : busy = 0 := quiet rfl rfl
    simp only [Autostart, if_true, Bool.false_eq_true, if_false] at law ⊢
    omega
  | resume blocked =>
    cases blocked with
    | true => simp [Autostart] at law
    | false =>
      simp only [Autostart, Bool.false_eq_true, if_false] at law ⊢
      omega
  | block =>
    simp only [Autostart, if_true, Bool.false_eq_true, if_false] at law ⊢
    omega
  | leave =>
    simp only [Autostart, if_true] at law ⊢
    omega

variable {Item : Type u} [DecidableEq Item] {Thread : Type v} [DecidableEq Thread]
  {Id : Type w} [DecidableEq Id]

/-- What a worker's position says about the mailbox: past the entry of a call the
private lists are empty, and only an item is exchanged for EMPTY. -/
def Agrees (mailbox : Mailbox Item) : Worker Item → Prop
  | .load _ => mailbox.numInque = 0
  | .exchange _ seen => mailbox.numInque = 0 ∧ ∃ first, seen = .item first
  | .blockLoad => mailbox.numInque = 0
  | .blockExchange => mailbox.numInque = 0
  | .aborted => False
  | _ => True

/-- The contents of the mailbox of a scheduled actor, and what the positions of its
workers and the BLOCKED mark say about them. -/
structure Contents (reply : Item → Bool) (state : State Item Thread Id)
    (stacked : List Item) (queued : Nat → List Item) : Prop where
  sound : Sound 2 (getMsgPriority reply) state.mailbox state.allocated
    (Deliverer.call ∘ state.deliverers) stacked queued
  height : state.onStack = stacked.length
  position : ∀ worker, Agrees state.mailbox (state.workers worker)
  drained : state.mailbox.stack = .blocked → state.mailbox.numInque = 0

/-- The condition on a step: a worker's exchange finds fewer than 2^32 items on the
stack. -/
def shortBatch (state : State Item Thread Id) : Action Item Thread Id → Bool
  | .work worker _ =>
      match state.workers worker with
      | .exchange _ _ => decide (state.onStack < 2 ^ 32)
      | _ => true
  | _ => true

section
variable {threshold : Nat} {reply : Item → Bool} {state next : State Item Thread Id}
  {stacked : List Item} {queued : Nat → List Item}

omit [DecidableEq Item] in
theorem getMsgPriority_bounded (reply : Item → Bool) (item : Item) :
    getMsgPriority reply item < 2 := by
  unfold getMsgPriority
  split <;> decide

omit [DecidableEq Item] [DecidableEq Thread] [DecidableEq Id] in
theorem createInstance_contents (reply : Item → Bool) (lastp : Nat) (links : Item → Option Item)
    (entries : Nat) :
    Contents reply (createInstance lastp links entries : State Item Thread Id) [] (fun _ => []) where
  sound := sound_create 2 (getMsgPriority reply) lastp links
  height := rfl
  position := fun _ => trivial
  drained := fun _ => rfl

omit [DecidableEq Item] in
/-- The position of a worker is about the private fields only. -/
theorem agrees_counter (before after : Mailbox Item) (worker : Worker Item)
    (same : after.numInque = before.numInque) (agrees : Agrees before worker) :
    Agrees after worker := by
  cases worker with
  | load | blockLoad | blockExchange => exact same.trans agrees
  | exchange => exact ⟨same.trans agrees.1, agrees.2⟩
  | aborted => exact agrees
  | _ => trivial

omit [DecidableEq Id] in
/-- The steps of a delivering thread keep the contents, up to the item that its
exchange publishes. -/
theorem deliver_contents {thread : Thread}
    (contents : Contents reply state stacked queued)
    (taken : deliverStep state thread (state.deliverers thread) = some next) :
    ∃ stacked', Contents reply next stacked' queued := by
  obtain ⟨sound, height, agrees, drained⟩ := contents
  cases position : state.deliverers thread with
  | resume =>
    simp only [position, deliverStep] at taken
    cases taken
    have unchanged : Function.update (Deliverer.call ∘ state.deliverers) thread .idle =
        Deliverer.call ∘ state.deliverers :=
      Function.update_eq_self_iff.mpr (by simp [position, Deliverer.call])
    refine ⟨stacked, ?_, height, agrees, drained⟩
    simp only [move, Function.comp_update, Deliverer.call, unchanged]
    exact sound
  | enqueue call =>
    cases call with
    | idle => simp [position, deliverStep] at taken
    | load item =>
      obtain ⟨after, loaded, sameStack, sameCount, linked⟩ :=
        sound_load sound thread item (by simp [position, Deliverer.call])
      simp only [position, deliverStep, loaded] at taken
      cases taken
      refine ⟨stacked, ?_, height, fun worker => agrees_counter _ _ _ sameCount (agrees worker), ?_⟩
      · simpa only [move, Function.comp_update, Deliverer.call] using linked
      · intro blocked
        exact sameCount.trans (drained (sameStack.symm.trans blocked))
    | exchange item seen =>
      rcases sound_exchange sound thread item seen (by simp [position, Deliverer.call]) with
        ⟨failed, _, again⟩ | ⟨_, exchanged, published⟩
      · simp only [position, deliverStep, failed] at taken
        cases taken
        refine ⟨stacked, ?_, height, agrees, drained⟩
        simpa only [move, Function.comp_update, Deliverer.call] using again
      · simp only [position, deliverStep, exchanged] at taken
        cases taken
        refine ⟨item :: stacked, ?_, by simp [height], agrees, by simp⟩
        simp only [move, Function.comp_update]
        convert published using 2
        split <;> rfl

omit [DecidableEq Item] in
theorem agrees_loop (mailbox : Mailbox Item) (round : Nat) :
    Agrees mailbox (loop threshold round) := by
  unfold loop
  split <;> trivial

omit [DecidableEq Item] [DecidableEq Thread] in
/-- Moving a worker to a position that agrees with the mailbox keeps the contents. -/
theorem place_contents (worker : Id) (position : Worker Item)
    (contents : Contents reply state stacked queued)
    (agrees : Agrees state.mailbox position) :
    Contents reply (place state worker position) stacked queued := by
  refine ⟨contents.sound, contents.height, ?_, contents.drained⟩
  intro other
  by_cases same : other = worker
  · subst same
    simpa only [place, Function.update_self] using agrees
  · simpa only [place, Function.update_of_ne same] using contents.position other

omit [DecidableEq Item] in
/-- When the other workers are idle, only the moved worker must agree with the new
mailbox. -/
theorem agrees_alone {mailbox : Mailbox Item} {workers : Id → Worker Item} {worker : Id}
    {position : Worker Item} (alone : ∀ other, other ≠ worker → workers other = .idle)
    (agrees : Agrees mailbox position) (each : Id) :
    Agrees mailbox (Function.update workers worker position each) := by
  by_cases same : each = worker
  · subst same
    rwa [Function.update_self]
  · rw [Function.update_of_ne same, alone each same]
    trivial

section
variable [Fintype Thread] [Fintype Id]

omit [DecidableEq Thread] in
/-- Under the token law an executing worker is alone and its mailbox is not
BLOCKED. -/
theorem onDemand_alone (law : OnDemand (tokens state)) (worker : Id)
    (inside : (state.workers worker).executing = 1) :
    state.mailbox.stack ≠ .blocked ∧ ∀ other, other ≠ worker → state.workers other = .idle := by
  have counted := weight_le_tally Worker.executing state.workers worker
  have open_ : isBlocked state.mailbox = false := by
    cases mark : isBlocked state.mailbox with
    | false => rfl
    | true =>
      simp only [OnDemand, tokens, mark, if_true] at law
      omega
  simp only [OnDemand, tokens, open_, Bool.false_eq_true, if_false] at law
  refine ⟨by simpa [isBlocked] using open_, ?_⟩
  intro other different
  have weightless := weight_alone Worker.executing state.workers worker other different
    (by omega) (by omega)
  cases position : state.workers other with
  | idle => rfl
  | _ => simp [position, Worker.executing] at weightless

omit [DecidableEq Thread] [Fintype Thread] [Fintype Id] in
/-- Entering `dequeue` frees the first private item, or goes on to the load. -/
theorem dequeue_contents {worker : Id} (round : Nat)
    (contents : Contents reply state stacked queued)
    (unblocked : state.mailbox.stack ≠ .blocked)
    (alone : ∀ other, other ≠ worker → state.workers other = .idle) :
    ∃ queued', Contents reply (settle state worker round (dequeueEnter 2 state.mailbox).2
      (dequeueEnter 2 state.mailbox).1) stacked queued' := by
  by_cases positive : 0 < state.mailbox.numInque
  · obtain ⟨first, rest, queued', after, _, _, entered, sameStack, sound⟩ :=
      sound_enter contents.sound positive
    rw [entered]
    refine ⟨queued', sound, contents.height, agrees_alone alone trivial, ?_⟩
    intro blocked
    exact absurd (sameStack.symm.trans blocked) unblocked
  · have none_left : state.mailbox.numInque = 0 := by omega
    rw [(dequeueEnter_empty contents.sound.consistent none_left).1]
    exact ⟨queued, place_contents worker (.load round) contents none_left⟩

omit [DecidableEq Thread] [Fintype Thread] [Fintype Id] in
/-- The load of `dequeue` remembers an item or ends the message loop. -/
theorem dequeueLoad_contents (worker : Id) (round : Nat)
    (contents : Contents reply state stacked queued)
    (none_left : state.mailbox.numInque = 0) :
    Contents reply (settle state worker round state.mailbox (dequeueLoad state.mailbox))
      stacked queued := by
  cases pointer : state.mailbox.stack with
  | closed => exact absurd pointer contents.sound.unclosed
  | item first =>
    simp only [dequeueLoad, pointer]
    exact place_contents worker (.exchange round (.item first)) contents ⟨none_left, first, rfl⟩
  | _ =>
    simp only [dequeueLoad, pointer]
    exact place_contents worker .isBlocked contents trivial

omit [DecidableEq Thread] [Fintype Thread] [Fintype Id] in
/-- The exchange of `dequeue` takes a short batch and frees its first item, or
fails and loads again. -/
theorem dequeueExchange_contents {worker : Id} (round : Nat) {fuel : Nat} {first : Item}
    {moved : List Item} {fetch : Fetch Item} {mailbox : Mailbox Item}
    (contents : Contents reply state stacked queued)
    (alone : ∀ other, other ≠ worker → state.workers other = .idle)
    (none_left : state.mailbox.numInque = 0) (short : state.onStack < 2 ^ 32)
    (exchanged : dequeueExchange 2 (getMsgPriority reply) fuel state.mailbox (.item first) =
      some (moved, fetch, mailbox)) :
    ∃ stacked' queued', Contents reply { settle state worker round mailbox fetch with
      onStack := if moved = [] then state.onStack else 0 } stacked' queued' := by
  by_cases current : state.mailbox.stack = .item first
  · obtain ⟨served, rest, queued', rfl, nonempty, rfl, _, _, _, emptied, sound⟩ :=
      sound_taken contents.sound (getMsgPriority_bounded reply)
        none_left current (contents.height ▸ short) exchanged
    refine ⟨[], queued', sound, by simp [nonempty], agrees_alone alone trivial, ?_⟩
    intro blocked
    exact absurd (emptied.symm.trans blocked) (by simp)
  · simp only [dequeueExchange, current, if_false, Option.some.injEq, Prod.mk.injEq] at exchanged
    obtain ⟨rfl, rfl, rfl⟩ := exchanged
    obtain ⟨sound, _, agreed, drained⟩ := place_contents worker (.load round) contents none_left
    exact ⟨stacked, queued, sound, by simpa using contents.height, agreed, drained⟩

omit [DecidableEq Thread] in
/-- The steps of the only executing worker keep the contents, with the items that
its call of `dequeue` moved or freed. -/
theorem work_contents {worker : Id} {fuel : Nat} (law : OnDemand (tokens state))
    (contents : Contents reply state stacked queued)
    (short : shortBatch state (.work worker fuel))
    (taken : workStep threshold reply fuel state worker (state.workers worker) = some next) :
    ∃ stacked' queued', Contents reply next stacked' queued' := by
  have alone := onDemand_alone law worker
  have agrees := contents.position worker
  have moved : ∀ position : Worker Item, Agrees state.mailbox position →
      ∀ (runq : Nat) (startup : Bool),
        Contents reply { place state worker position with runq := runq, startup := startup }
          stacked queued := by
    intro position agreed runq startup
    obtain ⟨sound, height, agreed, drained⟩ := place_contents worker position contents agreed
    exact ⟨sound, height, agreed, drained⟩
  cases position : state.workers worker with
  | idle =>
    rw [position] at taken
    simp only [workStep, Option.ite_none_right_eq_some, Option.some.injEq] at taken
    obtain ⟨_, rfl⟩ := taken
    exact ⟨stacked, queued, moved .start trivial _ _⟩
  | start | invoke =>
    simp only [position, workStep] at taken
    cases taken
    exact ⟨stacked, queued, moved _ (agrees_loop _ _) _ _⟩
  | next round =>
    simp only [position, workStep] at taken
    cases taken
    obtain ⟨unblocked, idle⟩ := alone (by rw [position]; rfl)
    exact ⟨stacked, dequeue_contents round contents unblocked idle⟩
  | load round =>
    simp only [position, workStep] at taken
    cases taken
    rw [position] at agrees
    exact ⟨stacked, queued, dequeueLoad_contents worker round contents agrees⟩
  | exchange round =>
    rw [position] at agrees
    obtain ⟨none_left, first, rfl⟩ := agrees
    cases exchanged : dequeueExchange 2 (getMsgPriority reply) fuel state.mailbox (.item first) with
    | none => simp [position, workStep, exchanged] at taken
    | some =>
      simp only [position, workStep, exchanged] at taken
      cases taken
      have bound : state.onStack < 2 ^ 32 := by
        simpa [shortBatch, position] using short
      exact dequeueExchange_contents round
        contents (alone (by rw [position]; rfl)).2 none_left bound exchanged
  | isBlocked =>
    simp only [position, workStep] at taken
    split at taken <;> obtain rfl := Option.some.inj taken
    · exact ⟨stacked, queued, moved .idle trivial _ _⟩
    · refine ⟨stacked, queued, moved _ ?_ _ _⟩
      by_cases positive : 0 < state.mailbox.numInque
      · simp [tryBlockEnter, positive, Agrees]
      · have none_left : state.mailbox.numInque = 0 := by omega
        simp [tryBlockEnter, none_left, Agrees]
  | blockLoad =>
    simp only [position, workStep] at taken
    cases taken
    rw [position] at agrees
    refine ⟨stacked, queued, moved _ ?_ _ _⟩
    by_cases vacant : state.mailbox.stack = .empty
    · simpa [tryBlockLoad, vacant, Agrees] using agrees
    · simp [tryBlockLoad, vacant, Agrees]
  | blockExchange =>
    rw [position] at agrees
    by_cases vacant : state.mailbox.stack = .empty
    · simp only [position, workStep, tryBlockExchange, vacant, if_true] at taken
      cases taken
      exact ⟨stacked, queued, sound_block contents.sound vacant, contents.height,
        agrees_alone (alone (by rw [position]; rfl)).2 trivial, fun _ => agrees⟩
    · simp only [position, workStep, tryBlockExchange, vacant, if_false,
        Option.some.injEq] at taken
      subst taken
      exact ⟨stacked, queued, moved .blockLoad agrees _ _⟩
  | requeue =>
    simp only [position, workStep] at taken
    cases taken
    exact ⟨stacked, queued, moved .idle trivial _ _⟩
  | aborted => simp [position, workStep] at taken

/-- Every step keeps the token law and, when its batch is short, the contents. -/
theorem step_contents {action : Action Item Thread Id}
    (kept : OnDemand (tokens state) ∧ ∃ stacked queued, Contents reply state stacked queued)
    (short : shortBatch state action)
    (taken : step threshold reply state action = some next) :
    OnDemand (tokens next) ∧ ∃ stacked queued, Contents reply next stacked queued := by
  obtain ⟨law, stacked, queued, contents⟩ := kept
  have unmarked : ∀ worker, Unmarked (state.workers worker) := by
    intro worker round pending
    have agrees := contents.position worker
    rw [pending] at agrees
    obtain ⟨_, first, impossible⟩ := agrees
    exact absurd impossible (by simp)
  refine ⟨onDemand_moves (step_moves action unmarked taken).1 law, ?_⟩
  cases action with
  | call thread item =>
    simp only [step, Option.ite_none_right_eq_some, Option.some.injEq] at taken
    obtain ⟨⟨_, fresh⟩, rfl⟩ := taken
    refine ⟨stacked, queued, ?_, contents.height, contents.position, contents.drained⟩
    simp only [move, Function.comp_update, Deliverer.call]
    exact sound_call contents.sound thread fresh
  | deliver =>
    obtain ⟨stacked', after⟩ := deliver_contents contents taken
    exact ⟨stacked', queued, after⟩
  | work => exact work_contents law contents short taken

end

end

section
variable [Fintype Thread] [Fintype Id]

/-- The deliverers that owe an entry, the entries and the executions of an actor. -/
def tokenCount (state : State Item Thread Id) : Nat :=
  (tokens state).resuming + (tokens state).busy

/-- No lost wakeup and no double execution: one token exactly when the mailbox is
not BLOCKED, at most one executing worker, and a token whenever a message waits. -/
structure Scheduled (reply : Item → Bool) (state : State Item Thread Id) : Prop where
  unblocked : state.mailbox.stack ≠ .blocked → tokenCount state = 1
  blocked : state.mailbox.stack = .blocked → tokenCount state = 0
  alone : ∀ one other, (state.workers one).executing = 1 →
    (state.workers other).executing = 1 → one = other
  attended : ∃ stacked queued,
    Represents (getMsgPriority reply) state.mailbox stacked queued ∧
      (stacked ≠ [] ∨ held 2 queued ≠ [] → tokenCount state = 1)

omit [DecidableEq Thread] in
/-- The token law with exact contents is the whole property. -/
theorem contents_scheduled {reply : Item → Bool} {state : State Item Thread Id}
    {stacked : List Item} {queued : Nat → List Item} (law : OnDemand (tokens state))
    (contents : Contents reply state stacked queued) : Scheduled reply state := by
  have open_ : state.mailbox.stack ≠ .blocked → tokenCount state = 1 := by
    intro unblocked
    have mark : (tokens state).blocked = false := by simp [tokens, isBlocked, unblocked]
    simpa only [tokenCount, OnDemand, mark, Bool.false_eq_true, if_false] using law
  refine ⟨open_, ?_, ?_, stacked, queued, contents.sound.consistent.toRepresents, ?_⟩
  · intro blocked
    have mark : (tokens state).blocked = true := by simp [tokens, isBlocked, blocked]
    simpa only [tokenCount, OnDemand, mark, if_true] using law
  · intro one other inside alsoInside
    by_contra different
    have idle := (onDemand_alone law one inside).2 other (fun same => different same.symm)
    simp [idle, Worker.executing] at alsoInside
  · intro waiting
    apply open_
    intro blocked
    have unstacked : stacked = [] :=
      represents_unstacked _ _ _ _ contents.sound.consistent.toRepresents (by simp [blocked, linkTo])
    have unheld : held 2 queued = [] := by
      have counted := contents.sound.consistent.counted
      rw [contents.drained blocked] at counted
      exact List.length_eq_zero_iff.mp counted.symm
    rcases waiting with nonempty | nonempty
    · exact nonempty unstacked
    · exact nonempty unheld

/-- Every run with short batches of an actor that is created on demand keeps the
token law and the contents. -/
theorem run_contents {threshold : Nat} {reply : Item → Bool} {lastp : Nat}
    {links : Item → Option Item} {schedule : List (Action Item Thread Id)}
    {final : State Item Thread Id}
    (short : Along (step threshold reply) (fun state action => shortBatch state action)
      (createInstance lastp links 0) schedule)
    (executed : run (step threshold reply) (createInstance lastp links 0) schedule = some final) :
    OnDemand (tokens final) ∧ ∃ stacked queued, Contents reply final stacked queued := by
  have start : OnDemand (tokens (createInstance lastp links 0 : State Item Thread Id)) := by
    rw [tokens_createInstance]
    rfl
  exact run_preserves (step threshold reply) (fun state action => shortBatch state action)
    (fun state => OnDemand (tokens state) ∧ ∃ stacked queued, Contents reply state stacked queued)
    (fun _ action _ kept allowed taken => step_contents kept allowed taken)
    (createInstance lastp links 0) final schedule
    ⟨start, [], fun _ => [], createInstance_contents reply lastp links 0⟩ short executed

/-- An actor that is created on demand is scheduled in every state of every run
whose batches are short, for every threshold, and whatever its memory held. -/
theorem run_scheduled (threshold : Nat) (reply : Item → Bool) (lastp : Nat)
    (links : Item → Option Item) (schedule : List (Action Item Thread Id))
    (final : State Item Thread Id)
    (short : Along (step threshold reply) (fun state action => shortBatch state action)
      (createInstance lastp links 0) schedule)
    (executed : run (step threshold reply) (createInstance lastp links 0) schedule = some final) :
    Scheduled reply final := by
  obtain ⟨law, stacked, queued, contents⟩ :=
    run_contents short executed
  exact contents_scheduled law contents

end

/-- One message is delivered, executed, and leaves the actor BLOCKED again. -/
def serveOne : List (Action Nat Unit Bool) :=
  [.call () 7, .deliver (), .deliver (), .deliver ()] ++ List.replicate 9 (.work true 1)

/-- The actor that served one message is scheduled: it is BLOCKED and nobody holds
its token. -/
theorem run_scheduled_one :
    ∃ final, run (step 1 (fun _ => false)) (createInstance 0 (fun _ => none) 0) serveOne =
        some final ∧
      final.mailbox.stack = .blocked ∧ Scheduled (fun _ => false) final := by
  have completes : (run (step 1 (fun _ => false)) (createInstance 0 (fun _ => none) 0)
      serveOne).isSome := by decide
  exact ⟨Option.get _ completes, (Option.some_get completes).symm, by decide +revert,
    run_scheduled 1 (fun _ => false) 0 (fun _ => none) serveOne _ (by decide)
      (Option.some_get completes).symm⟩

/-- One thread delivers one message, pays its entry, and then delivers the given
number of further messages. -/
def fill : Nat → List (Action Nat Unit Unit)
  | 0 => [.call () 0, .deliver (), .deliver (), .deliver ()]
  | count + 1 => fill count ++ [.call () (count + 1), .deliver (), .deliver ()]

/-- The worker takes all messages at once and runs until it leaves. -/
def strand (count : Nat) : List (Action Nat Unit Unit) :=
  fill count ++ List.replicate 9 (.work () (count + 1))

/-- A delivery to a mailbox that is not BLOCKED, and that no other thread disturbs,
publishes its message in three steps. -/
theorem deliver_undisturbed {threshold : Nat} {reply : Item → Bool} {state : State Item Thread Id}
    {stacked : List Item} {queued : Nat → List Item} {thread : Thread} {item : Item}
    (contents : Contents reply state stacked queued) (unblocked : state.mailbox.stack ≠ .blocked)
    (calling : state.deliverers thread = .enqueue .idle) (fresh : item ∉ state.allocated) :
    ∃ mailbox,
      run (step threshold reply) state [.call thread item, .deliver thread, .deliver thread] =
        some { state with
          mailbox := mailbox
          allocated := item :: state.allocated
          onStack := state.onStack + 1 } ∧
      mailbox.stack = .item item ∧ mailbox.numInque = state.mailbox.numInque ∧
      Contents reply { state with
          mailbox := mailbox
          allocated := item :: state.allocated
          onStack := state.onStack + 1 } (item :: stacked) queued := by
  have called := sound_call contents.sound thread fresh
  obtain ⟨linked, loaded, sameStack, sameCount, sound⟩ :=
    sound_load called thread item (Function.update_self ..)
  rcases sound_exchange sound thread item state.mailbox.stack (Function.update_self ..) with
    ⟨_, moved, _⟩ | ⟨_, exchanged, published⟩
  · exact absurd sameStack moved
  · have restored : Function.update state.deliverers thread (.enqueue .idle) = state.deliverers :=
      Function.update_eq_self_iff.mpr calling.symm
    have restoredCalls : Function.update (Deliverer.call ∘ state.deliverers) thread .idle =
        Deliverer.call ∘ state.deliverers :=
      Function.update_eq_self_iff.mpr (by simp [calling, Deliverer.call])
    simp only [Function.update_idem, restoredCalls] at published
    refine ⟨{ linked with stack := .item item }, ?_, rfl, sameCount, published,
      by simp [contents.height],
      fun worker => agrees_counter _ _ _ sameCount (contents.position worker), by simp⟩
    simp [run, step, deliverStep, move, calling, fresh, loaded, exchanged, restored, unblocked]

/-- Filling the mailbox leaves every message on the stack, one entry in the run
queue, and everybody idle. -/
theorem fill_run (count : Nat) :
    ∃ state stacked queued,
      run (step 1 (fun _ => false)) (createInstance 0 (fun _ => none) 0) (fill count) =
        some state ∧
      Contents (fun _ => false) state stacked queued ∧
      stacked.length = count + 1 ∧ state.mailbox.stack = .item count ∧
      state.mailbox.numInque = 0 ∧ state.runq = 1 ∧ state.workers () = .idle ∧
      state.deliverers () = .enqueue .idle ∧ ∀ item ∈ state.allocated, item ≤ count := by
  induction count with
  | zero =>
    have completes : (run (step 1 (fun _ => false)) (createInstance 0 (fun _ => none) 0)
        (fill 0)).isSome := by decide
    have executed := (Option.some_get completes).symm
    obtain ⟨_, stacked, queued, contents⟩ :=
      run_contents (by decide) executed
    refine ⟨_, stacked, queued, executed, contents, contents.height.symm, rfl, rfl, rfl, rfl, rfl,
      ?_⟩
    intro item member
    have only : item ∈ [0] := member
    simp at only
    omega
  | succ count inductionHypothesis =>
    obtain ⟨state, stacked, queued, filled, contents, height, pointer, counter, entry, idle,
      calling, below⟩ := inductionHypothesis
    have fresh : count + 1 ∉ state.allocated := fun member =>
      absurd (below (count + 1) member) (by omega)
    obtain ⟨mailbox, published, top, sameCounter, kept⟩ :=
      deliver_undisturbed contents (by simp [pointer]) calling fresh
    refine ⟨_, (count + 1) :: stacked, queued, ?_, kept, by simp [height], top,
      sameCounter.trans counter, entry, idle, calling, ?_⟩
    · rw [fill, run_append _ _ state _ _ filled]
      exact published
    · intro item member
      rcases List.mem_cons.mp member with rfl | earlier
      · omega
      · have := below item earlier
        omega

/-- Stranding a multiple of 2^32 messages: the worker takes them all, finds its
counter at zero, and blocks the mailbox with every message still inside. -/
theorem strand_run (count : Nat) (wraps : (count + 1) % 2 ^ 32 = 0) :
    ∃ final, run (step 1 (fun _ => false)) (createInstance 0 (fun _ => none) 0) (strand count) =
        some final ∧
      final.mailbox.stack = .blocked ∧ final.mailbox.headers 1 ≠ none := by
  obtain ⟨state, stacked, queued, filled, contents, height, pointer, counter, entry, idle, _, _⟩ :=
    fill_run count
  obtain ⟨after, taken, counted, emptied, kept⟩ :=
    dequeueExchange_wraps 2
      contents.sound.consistent.toRepresents counter pointer (height ▸ wraps) height.le
  have entered : dequeueEnter 2 state.mailbox = (.load, state.mailbox) := by
    simp [dequeueEnter, counter]
  have loaded : dequeueLoad state.mailbox = .exchange (.item count) := by
    simp [dequeueLoad, pointer]
  have reloaded : dequeueLoad after = .returned none := by
    simp [dequeueLoad, emptied]
  have nonempty : stacked ≠ [] := List.ne_nil_of_length_pos (by omega)
  obtain ⟨item, member⟩ := List.exists_mem_of_ne_nil stacked nonempty
  refine ⟨{ state with
      mailbox := { after with stack := .blocked }
      workers := Function.update state.workers () .idle
      runq := 0
      startup := false
      onStack := 0 }, ?_, rfl, kept item member⟩
  rw [strand, run_append _ _ state _ _ filled]
  simp [run, step, workStep, idle, entry, place, settle, loop, entered, fetched, freed, loaded,
    taken, nonempty, reloaded, isBlocked, emptied, tryBlockEnter, counted, tryBlockLoad,
    tryBlockExchange]

/-- An actor with 2^32 messages in one batch is not scheduled: it ends BLOCKED with
messages inside, and no token will ever run it. -/
theorem strand_not_scheduled :
    ∃ final, run (step 1 (fun _ => false)) (createInstance 0 (fun _ => none) 0)
        (strand (2 ^ 32 - 1)) = some final ∧
      ¬ Scheduled (fun _ => false) final := by
  obtain ⟨final, executed, blocked, waiting⟩ := strand_run (2 ^ 32 - 1) (by decide)
  refine ⟨final, executed, ?_⟩
  intro scheduled
  obtain ⟨stacked, queued, represented, attended⟩ := scheduled.attended
  have nonempty : held 2 queued ≠ [] := by
    intro vacant
    have unqueued : queued 1 = [] := (held_eq_nil 2 queued).mp vacant 1 (by decide)
    have chained := represented.queues.chained 1
    rw [unqueued] at chained
    exact waiting chained
  have one := attended (Or.inr nonempty)
  have none_ := scheduled.blocked blocked
  omega

section
variable [Fintype Thread] [Fintype Id]

/-- The condition on a delivery: it does not take the BLOCKED mark from an actor
that has a run-queue entry or is being executed. -/
def quiet (state : State Item Thread Id) : Action Item Thread Id → Bool
  | .deliver thread =>
      match state.deliverers thread with
      | .enqueue (.exchange _ .blocked) =>
          decide (state.mailbox.stack = .blocked → (tokens state).busy = 0)
      | _ => true
  | _ => true

/-- An actor that is started with its module has at most one run-queue entry or
execution in every state of every run whose deliveries are quiet. -/
theorem run_single (threshold : Nat) (reply : Item → Bool) (lastp : Nat)
    (links : Item → Option Item) (schedule : List (Action Item Thread Id))
    (final : State Item Thread Id)
    (permitted : Along (step threshold reply) (fun state action => quiet state action)
      (createInstance lastp links 1) schedule)
    (executed : run (step threshold reply) (createInstance lastp links 1) schedule = some final) :
    final.runq + tally Worker.executing final.workers ≤ 1 := by
  have start : Autostart (tokens (createInstance lastp links 1 : State Item Thread Id)) := by
    rw [tokens_createInstance]
    exact ⟨rfl, le_rfl⟩
  obtain ⟨law, _⟩ := run_preserves (step threshold reply) (fun state action => quiet state action)
    (fun state => Autostart (tokens state) ∧ ∀ worker, Unmarked (state.workers worker))
    (fun state action next kept allowed taken => by
      obtain ⟨law, unmarked⟩ := kept
      obtain ⟨moves, unblocks⟩ := step_moves action unmarked taken
      refine ⟨autostart_moves moves ?_ law,
        step_unmarked unmarked taken⟩
      intro before after
      obtain ⟨thread, item, rfl, pending⟩ := unblocks before after
      have blocked : state.mailbox.stack = .blocked := by
        simpa [tokens, isBlocked] using before
      simpa [quiet, pending, blocked] using allowed)
    (createInstance lastp links 1) final schedule
    ⟨start, fun _ => by simp [createInstance, Unmarked]⟩ permitted executed
  unfold Autostart at law
  split at law
  · exact law.2
  · change (tokens final).busy ≤ 1
    omega

end

/-- The first run of the actor ends before a message is delivered and executed. -/
def startThenServe : List (Action Nat Unit Bool) :=
  List.replicate 5 (.work true 1) ++ serveOne

/-- Starting quietly keeps the entries and executions at one or below. -/
theorem run_single_quiet :
    ∃ final, run (step 1 (fun _ => false)) (createInstance 0 (fun _ => none) 1) startThenServe =
        some final ∧
      final.runq + tally Worker.executing final.workers ≤ 1 := by
  have completes : (run (step 1 (fun _ => false)) (createInstance 0 (fun _ => none) 1)
      startThenServe).isSome := by decide
  exact ⟨Option.get _ completes, (Option.some_get completes).symm,
    run_single 1 (fun _ => false) 0 (fun _ => none) startThenServe _ (by decide)
      (Option.some_get completes).symm⟩

/-- A message is delivered to an actor that is still waiting for its first run. -/
def deliverEarly : List (Action Nat Unit Unit) :=
  [.call () 7, .deliver (), .deliver (), .deliver ()]

/-- The early delivery finds the mailbox BLOCKED and adds a second entry. Two
workers may then take the actor at once. -/
theorem deliverEarly_twice :
    ∃ final, run (step 1 (fun _ => false)) (createInstance 0 (fun _ => none) 1) deliverEarly =
        some final ∧
      ¬ final.runq + tally Worker.executing final.workers ≤ 1 := by
  have completes : (run (step 1 (fun _ => false)) (createInstance 0 (fun _ => none) 1)
      deliverEarly).isSome := by decide
  exact ⟨Option.get _ completes, (Option.some_get completes).symm, by decide +revert⟩

end Mola.SchedulingRuns
