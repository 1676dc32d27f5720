import Mola.RequestOrigins

/-!
# Request ids stay with their owner

Actors exchange requests, scatter messages and answers. A message is in the pool from its
dispatch until its target takes it, and targets take messages in any order. An answer in
the pool that has a request id answers a request or scatter message of its target, with
the id that the target took for it.

The actor of a message's target receives it; how a target address is resolved is not part
of this module. Locks and subscriptions, which the node manager answers, are left out.
-/

namespace Mola.Requests

universe u
variable {Body : Type u}

/-- The actors, the messages in flight, and all messages that were ever dispatched. -/
structure Network (Body : Type u) where
  actors : Nat → Actor Body
  pool : List (Message Body)
  sent : List (Message Body)

/-- The messages that the effects of a step put on their way. -/
def emitted (effects : List (Effect Body)) : List (Message Body) :=
  effects.filterMap fun
    | .sent message => some message
    | .replied _ message => some message
    | _ => none

/-- An action of one actor. What it dispatches joins a pool. -/
def actIn (network : Network Body) (index : Nat) (act : Act Body) (pool : List (Message Body)) :
    Option (Network Body) :=
  (step (network.actors index) act).map fun (after, effects) =>
    { actors := Function.update network.actors index after
      pool := pool ++ emitted effects
      sent := network.sent ++ emitted effects }

/-- One step of the network: an actor takes a message for it from the pool, or its
callback goes on. -/
def turn [DecidableEq Body] (network : Network Body) (event : Nat × Act Body) :
    Option (Network Body) :=
  match event.2 with
  | .receive message =>
      if message ∈ network.pool ∧ message.target.actor = event.1 then
        actIn network event.1 event.2 (network.pool.erase message)
      else none
  | .lock _ => none
  | _ => actIn network event.1 event.2 network.pool

/-- All actors in their init callbacks. -/
def launch (intf : Nat → Nat) (sync : Nat → Nat → Bool) : Network Body where
  actors := fun index => create ⟨index, intf index⟩ (sync index)
  pool := []
  sent := []

/-- An answer is the reply to a request: it goes to the sender of the request, with its
id, from the actor that the request was sent to. -/
def RepliesTo (answer request : Message Body) : Prop :=
  request.isCall = true ∧ request.sender = answer.target ∧ request.reqid = answer.reqid ∧
    request.call = answer.call ∧ request.target.actor = answer.sender.actor

/-- Every answer in flight with a request id is the reply to a message that its target
dispatched, and has an id that the target took. -/
def Owned (network : Network Body) : Prop :=
  ∀ answer ∈ network.pool, answer.isCall = false → answer.reqid ≠ 0 →
    (∃ request ∈ network.sent, RepliesTo answer request) ∧
      answer.reqid ∈ (network.actors answer.target.actor).issued

/-- A message that an actor can answer: one without a request id, or a request or scatter
message that was dispatched to the actor. -/
def Answerable (sent : List (Message Body)) (index : Nat) (message : Message Body) : Prop :=
  message.reqid = 0 ∨ message.isCall = true ∧ message ∈ sent ∧ message.target.actor = index

/-- The actors remember messages that they can answer only, requests have ids of their
senders, and answers are replies to requests. -/
structure Attributed (network : Network Body) : Prop where
  pooled : network.pool ⊆ network.sent
  named : ∀ index, (network.actors index).self.actor = index
  clean : ∀ index, Clean (Answerable network.sent index) (network.actors index)
  requests : ∀ request ∈ network.sent, request.isCall = true → request.reqid ≠ 0 →
    request.reqid ∈ (network.actors request.sender.actor).issued
  answers : ∀ answer ∈ network.sent, answer.isCall = false → answer.reqid ≠ 0 →
    ∃ request ∈ network.sent, RepliesTo answer request

variable {network : Network Body}

theorem Attributed.owned (attributed : Attributed network) :
    Owned network := by
  intro answer flies kind numbered
  obtain ⟨request, among, replies⟩ :=
    attributed.answers answer (attributed.pooled flies) kind numbered
  have own := attributed.requests request among replies.1 (replies.2.2.1 ▸ numbered)
  rw [replies.2.1, replies.2.2.1] at own
  exact ⟨⟨request, among, replies⟩, own⟩

/-- A message that a step dispatched stands for a traced effect. -/
theorem emitted_traced {safe : Message Body → Prop} {self : Address} {issued : List Nat}
    {effects : List (Effect Body)} (traced : ∀ effect ∈ effects, effect.Traced safe self issued)
    {message : Message Body} (among : message ∈ emitted effects) :
    (Effect.sent message).Traced safe self issued ∨
      ∃ source, (Effect.replied source message).Traced safe self issued := by
  obtain ⟨effect, found, same⟩ := List.mem_filterMap.mp among
  have trace := traced effect found
  cases effect with
  | sent =>
    cases same
    exact Or.inl trace
  | replied source =>
    cases same
    exact Or.inr ⟨source, trace⟩
  | _ => cases same

/-- A traced step of one actor keeps the network attributed. -/
theorem Attributed.step (attributed : Attributed network) (index : Nat) (after : Actor Body)
    (effects : List (Effect Body)) (pool : List (Message Body)) (known : pool ⊆ network.sent)
    (tracks : Tracks (Answerable network.sent index) (network.actors index) (after, effects)) :
    Attributed
      { actors := Function.update network.actors index after
        pool := pool ++ emitted effects
        sent := network.sent ++ emitted effects } := by
  have issued : ∀ other, (network.actors other).issued ⊆
      (Function.update network.actors index after other).issued :=
    (Function.forall_update_iff network.actors fun other actor =>
      (network.actors other).issued ⊆ actor.issued).mpr
      ⟨tracks.issued, fun _ _ => List.Subset.refl _⟩
  have weaker : ∀ other message, Answerable network.sent other message →
      Answerable (network.sent ++ emitted effects) other message := by
    rintro other message (zero | ⟨call, among, target⟩)
    · exact Or.inl zero
    · exact Or.inr ⟨call, List.mem_append_left _ among, target⟩
  have name := attributed.named index
  constructor
  · exact List.append_subset.mpr ⟨fun message among => List.mem_append_left _ (known among),
      fun message among => List.mem_append_right _ among⟩
  · refine (Function.forall_update_iff network.actors fun other actor =>
      actor.self.actor = other).mpr ⟨?_, fun other _ => attributed.named other⟩
    rw [tracks.self]
    exact name
  · exact (Function.forall_update_iff network.actors fun other actor =>
      Clean (Answerable (network.sent ++ emitted effects) other) actor).mpr
      ⟨tracks.clean.mono (weaker index),
        fun other _ => (attributed.clean other).mono (weaker other)⟩
  · intro request among call numbered
    dsimp only
    rcases List.mem_append.mp among with old | new
    · exact issued _ (attributed.requests request old call numbered)
    · rcases emitted_traced tracks.effects new with ⟨-, sender, own⟩ | ⟨_, _, _, answer, -⟩
      · rw [sender, name, Function.update_self]
        exact own.resolve_left numbered
      · exact absurd (call.symm.trans answer) (by decide)
  · intro answer among kind numbered
    rcases List.mem_append.mp among with old | new
    · obtain ⟨request, sent, replies⟩ := attributed.answers answer old kind numbered
      exact ⟨request, List.mem_append_left _ sent, replies⟩
    · rcases emitted_traced tracks.effects new with ⟨call, -⟩ | ⟨_, request, own, _, reqid,
        sender, target, number⟩
      · exact absurd (call.symm.trans kind) (by decide)
      · rcases own with zero | ⟨call, sent, addressed⟩
        · exact absurd (reqid.trans zero) numbered
        · refine ⟨request, List.mem_append_left _ sent, call, target.symm, reqid.symm, number.symm,
            ?_⟩
          rw [addressed, sender, name]

/-- A network is attributed at its start. -/
theorem launch_attributed (intf : Nat → Nat) (sync : Nat → Nat → Bool) :
    Attributed (launch intf sync : Network Body) where
  pooled := List.nil_subset _
  named _ := rfl
  clean index := by
    refine ⟨nofun, nofun, ?_⟩
    intro frame runs
    obtain rfl := Status.running.inj runs
    exact ⟨trivial, nofun, nofun, nofun, fun absent => absurd rfl absent⟩
  requests := nofun
  answers := nofun

/-- An actor that acts keeps the network attributed. -/
theorem actIn_attributed (attributed : Attributed network) (index : Nat) (act : Act Body)
    (usual : keepsOrigins (network.actors index) act = true)
    (unlocked : ∀ returnIntf, act ≠ .lock returnIntf)
    (received : ∀ message, act = .receive message → message ∈ network.pool ∧
      message.target.actor = index)
    (pool : List (Message Body)) (known : pool ⊆ network.sent) (next : Network Body)
    (acted : actIn network index act pool = some next) : Attributed next := by
  obtain ⟨⟨after, effects⟩, stepped, rfl⟩ := Option.map_eq_some_iff.mp acted
  apply attributed.step index after effects pool known
  apply step_tracks (attributed.clean index) act usual unlocked ?_ _ stepped
  intro message same own
  obtain ⟨flies, addressed⟩ := received message same
  rcases own with call | zero
  · exact Or.inr ⟨call, attributed.pooled flies, addressed⟩
  · exact Or.inl zero

section
variable [DecidableEq Body]

/-- A step of the network keeps it attributed. -/
theorem turn_attributed {network next : Network Body} (attributed : Attributed network)
    {event : Nat × Act Body} (usual : keepsOrigins (network.actors event.1) event.2 = true)
    (turned : turn network event = some next) : Attributed next := by
  obtain ⟨index, act⟩ := event
  unfold turn at turned
  cases act with
  | receive message =>
    dsimp only at turned
    split at turned
    · rename_i available
      apply actIn_attributed attributed index (.receive message) usual nofun ?_
        (network.pool.erase message) ?_ next turned
      · intro other same
        cases same
        exact available
      · exact List.Subset.trans List.erase_subset attributed.pooled
    · cases turned
  | lock => cases turned
  | _ =>
    exact actIn_attributed attributed index _ usual nofun nofun network.pool attributed.pooled
      next turned

/-- In every run in which no value is returned for a gather message and no response
without a context starts anything that is recorded, request ids stay with their
owners. -/
theorem run_owned (intf : Nat → Nat) (sync : Nat → Nat → Bool)
    (schedule : List (Nat × Act Body)) (final : Network Body)
    (allowed : Runs.Along turn
      (fun network event => keepsOrigins (network.actors event.1) event.2 = true)
      (launch intf sync) schedule)
    (executed : Runs.run turn (launch intf sync) schedule = some final) : Owned final := by
  apply Attributed.owned
  apply Runs.run_preserves turn _ Attributed ?_ _ final schedule (launch_attributed intf sync)
    allowed executed
  intro network event next attributed usual turned
  exact turn_attributed attributed usual turned

end

/-- Actor 0 scatters one message to actor 1, which asks actor 2 before it answers. -/
def nestedAcross : List (Nat × Act Nat) :=
  [(0, .scatter 3 [some ⟨⟨1, 2⟩, 8, true⟩]), (0, .finish none), (1, .finish none),
    (1, .receive ⟨.scatter, 1, ⟨0, 3⟩, ⟨1, 2⟩, 1, 8⟩), (1, .send ⟨2, 5⟩ (some 4) 9 .kept),
    (1, .finish none), (2, .finish none), (2, .receive ⟨.request, 1, ⟨1, 4⟩, ⟨2, 5⟩, 1, 9⟩),
    (2, .finish (some 20)), (1, .receive ⟨.response, 1, ⟨2, 0⟩, ⟨1, 4⟩, 1, 20⟩),
    (1, .finish (some 30))]

theorem nestedAcross_completes :
    (Runs.run turn (launch (fun _ => 0) fun _ _ => false) nestedAcross).isSome := by
  decide +kernel

/-- The answer to the scatter is in flight, with the id of actor 0. -/
theorem run_owned_nested :
    ∃ final, Runs.run turn (launch (fun _ => 0) fun _ _ => false) nestedAcross = some final ∧
      final.pool = [⟨.gather, 1, ⟨1, 0⟩, ⟨0, 3⟩, 1, 30⟩] ∧ Owned final := by
  refine ⟨Option.get _ nestedAcross_completes, (Option.some_get _).symm, ?_, ?_⟩
  · decide +kernel
  · apply run_owned (fun _ => 0) (fun _ _ => false) nestedAcross
    · decide +kernel
    · exact (Option.some_get _).symm

/-- The interface that handles a gather message of actor 0 returns a value. -/
def returnedForGather : List (Nat × Act Nat) :=
  [(0, .scatter 3 [some ⟨⟨1, 2⟩, 8, true⟩]), (0, .finish none), (1, .finish none),
    (1, .receive ⟨.scatter, 1, ⟨0, 3⟩, ⟨1, 2⟩, 1, 8⟩), (1, .finish (some 5)),
    (0, .receive ⟨.gather, 1, ⟨1, 0⟩, ⟨0, 3⟩, 1, 5⟩), (0, .gatherReturn none),
    (0, .finish (some 7))]

theorem returnedForGather_completes :
    (Runs.run turn (launch (fun _ => 0) fun _ _ => false) returnedForGather).isSome := by
  decide +kernel

/-- The value goes to actor 1 with the request id of actor 0, which actor 1 never took. -/
theorem gather_value_misowned :
    ∃ final, Runs.run turn (launch (fun _ => 0) fun _ _ => false) returnedForGather =
        some final ∧
      final.pool = [⟨.response, 1, ⟨0, 0⟩, ⟨1, 0⟩, 1, 7⟩] ∧ (final.actors 1).issued = [] ∧
      ¬ Owned final := by
  refine ⟨Option.get _ returnedForGather_completes, (Option.some_get _).symm, ?_, ?_, ?_⟩
  · decide +kernel
  · decide +kernel
  · intro owned
    obtain ⟨-, own⟩ := owned ⟨.response, 1, ⟨0, 0⟩, ⟨1, 0⟩, 1, 7⟩ (by decide +kernel) rfl
      (Nat.succ_ne_zero 0)
    revert own
    decide +kernel

end Mola.Requests
