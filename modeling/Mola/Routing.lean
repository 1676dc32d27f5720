import Mola.Runs
import Mathlib.Logic.Function.Basic
import Mathlib.Tactic.Common
import Mathlib.Algebra.Order.Ring.Nat

/-!
# Routing messages to the instances of a module

A module keeps its actors in a map from instance ids. `dispatch` looks up the
instance that a message asks for, creates it when the map has none, and rewrites
the target of the message. An actor that exits erases its own key from the map.

An actor id is built from four positional words. `create_instance` passes the
wildcard where the constructor expects the instance and the instance where it
expects the interface. Every actor therefore has the wildcard for its instance
id, every insertion uses that one key, and a lookup of any other id misses. The
routing law holds for a sequence of calls exactly when all of them ask for the
wildcard instance and for interfaces that fit their field.

The lock of the module makes each call one step. Delivery to the mailbox and the
private data of an actor are not modelled here.
-/

namespace Mola

/-- The packed id of an actor: two words and two half-word bit fields. -/
structure ActorID where
  dnodeId : UInt32
  dmoduleId : UInt16
  dintfId : UInt16
  dinstId : UInt32
deriving DecidableEq

namespace ActorID

/-- The wildcard id. -/
def any : UInt32 := 0x0000ffff

/-- The constructor. Its arguments are node, module, instance and interface; the
second and the last are truncated to their fields. -/
def make (nid mid iid ifid : UInt32) : ActorID where
  dnodeId := nid
  dmoduleId := mid.toUInt16
  dintfId := ifid.toUInt16
  dinstId := iid

/-- The instance field. -/
def instanceId (id : ActorID) : UInt32 := id.dinstId

/-- The interface field, widened to a word. -/
def intfId (id : ActorID) : UInt32 := id.dintfId.toUInt32

/-- Overwrite the interface field with a truncated word. -/
def setIntfId (id : ActorID) (ifId : UInt32) : ActorID := { id with dintfId := ifId.toUInt16 }

/-- Truncation to the interface field keeps exactly the words that fit. -/
theorem setIntfId_exact (id : ActorID) (ifId : UInt32) :
    (id.setIntfId ifId).intfId = ifId ↔ ifId.toNat < 2 ^ 16 := by
  rw [← UInt32.toNat_inj]
  simp only [intfId, setIntfId, UInt16.toNat_toUInt32, UInt32.toNat_toUInt16]
  constructor
  · intro same
    rw [← same]
    exact Nat.mod_lt _ (by decide)
  · exact Nat.mod_eq_of_lt

end ActorID

namespace Routing

open Runs

/-- An actor object: its address identifies it, its id is fixed at construction. -/
structure Actor where
  address : Nat
  id : ActorID
deriving DecidableEq

/-- The fields of a module that routing uses, with the actors that have not exited.
Addresses are handed out in order of construction. -/
structure Module where
  nodeId : UInt32
  mId : UInt32
  instMap : UInt32 → Option Actor
  live : List Actor
  created : Nat

/-- Insertion into the map keeps an entry that is already there. -/
def emplace (map : UInt32 → Option Actor) (key : UInt32) (actor : Actor) :
    UInt32 → Option Actor :=
  match map key with
  | some _ => map
  | none => Function.update map key (some actor)

/-- Construct an actor for an instance id and insert it under the key that its id
names. -/
def createInstance (module : Module) (instId : UInt32) : Actor × Module :=
  let newId := ActorID.make module.nodeId module.mId ActorID.any instId
  let infant : Actor := ⟨module.created, newId⟩
  (infant, { module with
    instMap := emplace module.instMap newId.instanceId infant
    live := infant :: module.live
    created := module.created + 1 })

/-- Find the actor of an instance id, or create it. -/
def selectOrCreateActorInstance (module : Module) (instId : UInt32) : Actor × Module :=
  match module.instMap instId with
  | some actor => (actor, module)
  | none => createInstance module instId

/-- The actor that receives a message, and the target that is written into it. -/
def dispatch (module : Module) (instId intfId : UInt32) : Actor × ActorID × Module :=
  let (actor, after) := selectOrCreateActorInstance module instId
  (actor, actor.id.setIntfId intfId, after)

/-- The destructor of an actor erases the key that its id names. -/
def onRemoveInstance (module : Module) (actor : Actor) : Module :=
  { module with
    instMap := Function.update module.instMap actor.id.instanceId none
    live := module.live.filter (fun other => other ≠ actor) }

/-- What happened: a message for an instance and an interface was delivered to an
actor with a rewritten target, or an actor exited. -/
inductive Event where
  | delivered (instId intfId : UInt32) (actor : Actor) (target : ActorID)
  | exited (actor : Actor)
deriving DecidableEq

/-- A module with its history, newest event first. -/
structure System where
  module : Module
  history : List Event

/-- A call of `dispatch`, or the exit of a live actor. -/
inductive Operation where
  | dispatch (instId intfId : UInt32)
  | exit (actor : Actor)
deriving DecidableEq

/-- A module without instances. -/
def start (nodeId mId : UInt32) : System where
  module := ⟨nodeId, mId, fun _ => none, [], 0⟩
  history := []

/-- One call. Only a live actor exits. -/
def step (system : System) : Operation → Option System
  | .dispatch instId intfId =>
      let (actor, target, after) := dispatch system.module instId intfId
      some ⟨after, .delivered instId intfId actor target :: system.history⟩
  | .exit actor =>
      if actor ∈ system.module.live then
        some ⟨onRemoveInstance system.module actor, .exited actor :: system.history⟩
      else none

/-- The routing law of a history: messages for one instance reach one actor as long
as it has not exited, messages for different instances reach different actors,
the actor has the instance id that was asked for, and the target carries that id
and the interface that was asked for. -/
structure Routes (history : List Event) : Prop where
  same : ∀ later between earlier instId intfId other actor second target rewritten,
    history = later ++ .delivered instId other second rewritten ::
      (between ++ .delivered instId intfId actor target :: earlier) →
    .exited actor ∉ between → second = actor
  distinct : ∀ instId intfId actor target otherId other second rewritten,
    .delivered instId intfId actor target ∈ history →
    .delivered otherId other second rewritten ∈ history →
    instId ≠ otherId → actor.address ≠ second.address
  named : ∀ instId intfId actor target, .delivered instId intfId actor target ∈ history →
    actor.id.instanceId = instId
  targeted : ∀ instId intfId actor target, .delivered instId intfId actor target ∈ history →
    target.instanceId = instId ∧ target.intfId = intfId

/-- A call that asks for the wildcard instance and an interface that fits. -/
def Wildcard : Operation → Prop
  | .dispatch instId intfId => instId = ActorID.any ∧ intfId.toNat < 2 ^ 16
  | .exit _ => True

/-- What every run keeps: each actor in the map and each actor that received a
message has the wildcard instance id, and each target is that id with the
truncated interface. -/
structure Uniform (system : System) : Prop where
  mapped : ∀ key actor, system.module.instMap key = some actor →
    actor.id.instanceId = ActorID.any
  received : ∀ instId intfId actor target,
    .delivered instId intfId actor target ∈ system.history →
      actor.id.instanceId = ActorID.any ∧ target = actor.id.setIntfId intfId

/-- An entry after an insertion was there before or is the inserted actor. -/
theorem emplace_cases {map : UInt32 → Option Actor} {key other : UInt32} {actor found : Actor}
    (present : emplace map key actor other = some found) :
    map other = some found ∨ found = actor := by
  unfold emplace at present
  cases occupied : map key with simp only [occupied] at present
  | some =>
    exact Or.inl present
  | none =>
    by_cases here : other = key
    · subst here
      rw [Function.update_self] at present
      exact Or.inr (Option.some.inj present).symm
    · rw [Function.update_of_ne here] at present
      exact Or.inl present

/-- A call of `dispatch` reaches an actor of the map or a new one, and leaves a map
of actors with the wildcard instance id. -/
theorem select_uniform {module : Module} (instId : UInt32)
    (mapped : ∀ key actor, module.instMap key = some actor → actor.id.instanceId = ActorID.any) :
    (selectOrCreateActorInstance module instId).1.id.instanceId = ActorID.any ∧
      ∀ key actor, (selectOrCreateActorInstance module instId).2.instMap key = some actor →
        actor.id.instanceId = ActorID.any := by
  unfold selectOrCreateActorInstance
  cases found : module.instMap instId with
  | some actor => exact ⟨mapped instId actor found, mapped⟩
  | none =>
    refine ⟨rfl, ?_⟩
    intro key actor present
    rcases emplace_cases present with old | rfl
    · exact mapped key actor old
    · rfl

/-- Every call keeps the uniform ids. -/
theorem step_uniform {system next : System} {operation : Operation}
    (uniform : Uniform system) (taken : step system operation = some next) : Uniform next := by
  cases operation with
  | dispatch instId =>
    cases taken
    obtain ⟨identified, mapped⟩ := select_uniform instId uniform.mapped
    refine ⟨mapped, ?_⟩
    intro asked interface actor target member
    rcases List.mem_cons.mp member with newest | older
    · cases newest
      exact ⟨identified, rfl⟩
    · exact uniform.received asked interface actor target older
  | exit leaving =>
    simp only [step, Option.ite_none_right_eq_some, Option.some.injEq] at taken
    obtain ⟨_, rfl⟩ := taken
    refine ⟨?_, ?_⟩
    · intro key actor present
      by_cases here : key = leaving.id.instanceId
      · subst here
        simp [onRemoveInstance] at present
      · simp only [onRemoveInstance, Function.update_of_ne here] at present
        exact uniform.mapped key actor present
    · intro asked interface actor target member
      rcases List.mem_cons.mp member with newest | older
      · cases newest
      · exact uniform.received asked interface actor target older

/-- Every call adds one event, and a call of `dispatch` adds its own. -/
theorem step_history (system next : System) (operation : Operation)
    (taken : step system operation = some next) :
    ∃ event, next.history = event :: system.history ∧
      ∀ instId intfId, operation = .dispatch instId intfId →
        ∃ actor target, event = .delivered instId intfId actor target := by
  cases operation with
  | dispatch =>
    cases taken
    refine ⟨_, rfl, ?_⟩
    rintro _ _ ⟨⟩
    exact ⟨_, _, rfl⟩
  | exit =>
    simp only [step, Option.ite_none_right_eq_some, Option.some.injEq] at taken
    obtain ⟨_, rfl⟩ := taken
    refine ⟨_, rfl, ?_⟩
    rintro _ _ ⟨⟩

/-- Every call of `dispatch` in a run has its delivery in the history. The induction
is on the schedule; an event is never removed. -/
theorem run_history (operations : List Operation) (system final : System)
    (executed : run step system operations = some final) :
    (∀ event ∈ system.history, event ∈ final.history) ∧
      ∀ instId intfId, .dispatch instId intfId ∈ operations →
        ∃ actor target, .delivered instId intfId actor target ∈ final.history := by
  induction operations generalizing system with
  | nil =>
    cases executed
    exact ⟨fun _ member => member, fun _ _ member => by simp at member⟩
  | cons operation rest inductionHypothesis =>
    obtain ⟨next, taken, following⟩ := (run_cons step system final operation rest).mp executed
    obtain ⟨event, extended, own⟩ := step_history system next operation taken
    obtain ⟨kept, delivered⟩ := inductionHypothesis next following
    refine ⟨?_, ?_⟩
    · intro old member
      exact kept old (extended ▸ List.mem_cons_of_mem event member)
    · intro instId intfId member
      rcases List.mem_cons.mp member with here | later
      · obtain ⟨actor, target, rfl⟩ := own instId intfId here.symm
        exact ⟨actor, target, kept _ (extended ▸ List.mem_cons_self)⟩
      · exact delivered instId intfId later

/-- What a run of wildcard calls keeps: a live actor is the one in the map, and so
is the actor of the last delivery that has not exited since. -/
structure Steady (system : System) : Prop where
  living : ∀ actor ∈ system.module.live, system.module.instMap ActorID.any = some actor
  current : ∀ between earlier instId intfId actor target,
    system.history = between ++ .delivered instId intfId actor target :: earlier →
    .exited actor ∉ between → system.module.instMap ActorID.any = some actor
  asked : ∀ instId intfId actor target, .delivered instId intfId actor target ∈ system.history →
    instId = ActorID.any ∧ intfId.toNat < 2 ^ 16
  same : ∀ later between earlier instId intfId other actor second target rewritten,
    system.history = later ++ .delivered instId other second rewritten ::
      (between ++ .delivered instId intfId actor target :: earlier) →
    .exited actor ∉ between → second = actor

/-- A wildcard call of `dispatch` reaches the actor under the wildcard key, which a
miss has just put there. -/
theorem select_wildcard {module : Module}
    (living : ∀ actor ∈ module.live, module.instMap ActorID.any = some actor) :
    ∃ actor after, selectOrCreateActorInstance module ActorID.any = (actor, after) ∧
      after.instMap ActorID.any = some actor ∧
      (∀ other, module.instMap ActorID.any = some other → other = actor) ∧
      ∀ other ∈ after.live, other = actor := by
  unfold selectOrCreateActorInstance
  cases found : module.instMap ActorID.any with
  | some actor =>
    refine ⟨actor, module, rfl, found, fun other same => (Option.some.inj same).symm, ?_⟩
    intro other member
    exact Option.some.inj ((living other member).symm.trans found)
  | none =>
    refine ⟨_, _, rfl, ?_, fun other impossible => by simp at impossible, ?_⟩
    · change emplace module.instMap ActorID.any _ ActorID.any = _
      simp [emplace, found]
    · intro other member
      rcases List.mem_cons.mp member with rfl | old
      · rfl
      · have := (living other old).symm.trans found
        simp at this

/-- Wildcard calls keep the steady state. -/
theorem step_steady {system next : System} {operation : Operation} (steady : Steady system)
    (wildcard : Wildcard operation)
    (taken : step system operation = some next) : Steady next := by
  cases operation with
  | dispatch =>
    obtain ⟨rfl, fits⟩ := wildcard
    obtain ⟨actor, after, selected, present, kept, only⟩ :=
      select_wildcard steady.living
    simp only [step, dispatch, selected] at taken
    cases taken
    refine ⟨?_, ?_, ?_, ?_⟩
    · intro other member
      rw [only other member]
      exact present
    · intro between earlier asked interface other target split_ unexited
      cases between with
      | nil =>
        cases split_
        exact present
      | cons _ between =>
        obtain ⟨_, rest⟩ := List.cons.inj split_
        have before := steady.current between earlier asked interface other target rest
          (fun member => unexited (List.mem_cons_of_mem _ member))
        rw [kept other before]
        exact present
    · intro asked interface other target member
      rcases List.mem_cons.mp member with newest | older
      · cases newest
        exact ⟨rfl, fits⟩
      · exact steady.asked asked interface other target older
    · intro later between earlier asked interface another first second target rewritten split_
        unexited
      cases later with
      | nil =>
        obtain ⟨newest, rest⟩ := List.cons.inj split_
        cases newest
        exact (kept first (steady.current between earlier _ interface first target rest
          unexited)).symm
      | cons _ later =>
        exact steady.same later between earlier asked interface another first second target
          rewritten (List.cons.inj split_).2 unexited
  | exit leaving =>
    simp only [step, Option.ite_none_right_eq_some, Option.some.injEq] at taken
    obtain ⟨alive, rfl⟩ := taken
    have mapped := steady.living leaving alive
    refine ⟨?_, ?_, ?_, ?_⟩
    · intro other member
      simp only [onRemoveInstance, List.mem_filter, decide_eq_true_eq] at member
      have same := Option.some.inj ((steady.living other member.1).symm.trans mapped)
      exact absurd same member.2
    · intro between earlier asked interface other target split_ unexited
      cases between with
      | nil => cases split_
      | cons _ between =>
        obtain ⟨rfl, rest⟩ := List.cons.inj split_
        have before := steady.current between earlier asked interface other target rest
          (fun member => unexited (List.mem_cons_of_mem _ member))
        have same : leaving = other := Option.some.inj (mapped.symm.trans before)
        exact absurd (same ▸ List.mem_cons_self) unexited
    · intro asked interface other target member
      rcases List.mem_cons.mp member with newest | older
      · cases newest
      · exact steady.asked asked interface other target older
    · intro later between earlier asked interface another first second target rewritten split_
        unexited
      cases later with
      | nil => cases split_
      | cons _ later =>
        exact steady.same later between earlier asked interface another first second target
          rewritten (List.cons.inj split_).2 unexited

theorem run_uniform {nodeId mId : UInt32} {operations : List Operation} {final : System}
    (executed : run step (start nodeId mId) operations = some final) : Uniform final :=
  run_invariant step Uniform
    (fun system operation next uniform taken => step_uniform uniform taken)
    (start nodeId mId) final operations ⟨by simp [start], by simp [start]⟩ executed

theorem run_steady {operations : List Operation} {system final : System}
    (steady : Steady system) (wildcard : ∀ operation ∈ operations, Wildcard operation)
    (executed : run step system operations = some final) : Steady final :=
  run_preserves step (fun _ operation => Wildcard operation) Steady
    (fun system operation next steady wildcard taken =>
      step_steady steady wildcard taken)
    system final operations steady (along_actions step Wildcard system operations wildcard)
    executed

/-- The routing law holds of a sequence of calls exactly when every call asks for
the wildcard instance and for an interface that fits its field.

Proof: every delivery reaches an actor with the wildcard instance id, so a call for
another instance contradicts the law at its own delivery, and an interface that
does not fit is truncated in the target. Conversely, under wildcard calls the map
holds the one actor that serves the wildcard until it exits. -/
theorem routes_iff (nodeId mId : UInt32) (operations : List Operation) (final : System)
    (executed : run step (start nodeId mId) operations = some final) :
    Routes final.history ↔ ∀ operation ∈ operations, Wildcard operation := by
  have uniform := run_uniform executed
  constructor
  · intro routes operation member
    cases operation with
    | exit => trivial
    | dispatch instId intfId =>
      obtain ⟨actor, target, delivered⟩ :=
        (run_history operations (start nodeId mId) final executed).2 instId intfId member
      obtain ⟨identified, rewritten⟩ := uniform.received instId intfId actor target delivered
      have named := routes.named instId intfId actor target delivered
      have targeted := (routes.targeted instId intfId actor target delivered).2
      rw [rewritten] at targeted
      exact ⟨named.symm.trans identified, (ActorID.setIntfId_exact actor.id intfId).mp targeted⟩
  · intro wildcard
    have steady := run_steady
      ⟨by simp [start], by simp [start], by simp [start], by simp [start]⟩ wildcard executed
    refine ⟨steady.same, ?_, ?_, ?_⟩
    · intro instId intfId actor target otherId other second rewritten one two different
      have first := (steady.asked instId intfId actor target one).1
      have other := (steady.asked otherId other second rewritten two).1
      exact absurd (first.trans other.symm) different
    · intro instId intfId actor target delivered
      rw [(steady.asked instId intfId actor target delivered).1]
      exact (uniform.received instId intfId actor target delivered).1
    · intro instId intfId actor target delivered
      obtain ⟨rfl, fits⟩ := steady.asked instId intfId actor target delivered
      obtain ⟨identified, rfl⟩ := uniform.received _ intfId actor target delivered
      exact ⟨identified, (ActorID.setIntfId_exact actor.id intfId).mpr fits⟩

/-- Two wildcard messages with an exit between them. -/
def wildcardCalls : List Operation :=
  [.dispatch ActorID.any 1, .exit ⟨0, ActorID.make 7 2 ActorID.any ActorID.any⟩,
    .dispatch ActorID.any 2]

/-- The wildcard calls are routed by the law. -/
theorem routes_iff_wildcard :
    ∃ final, run step (start 7 2) wildcardCalls = some final ∧
      (Routes final.history ↔ ∀ operation ∈ wildcardCalls, Wildcard operation) := by
  have completes : (run step (start 7 2) wildcardCalls).isSome := by decide
  exact ⟨Option.get _ completes, (Option.some_get completes).symm,
    routes_iff 7 2 wildcardCalls _ (Option.some_get completes).symm⟩

/-- Two messages for instance 3 reach two different actors, neither of which has the
instance id 3. -/
theorem dispatch_three_misrouted :
    ∃ final, run step (start 7 2) [.dispatch 3 1, .dispatch 3 1] = some final ∧
      ¬ Routes final.history := by
  have completes : (run step (start 7 2) [.dispatch 3 1, .dispatch 3 1]).isSome := by decide
  have delivered : .delivered 3 1 ⟨0, ActorID.make 7 2 ActorID.any 3⟩
      ((ActorID.make 7 2 ActorID.any 3).setIntfId 1) ∈ (Option.get _ completes).history := by
    decide +revert
  refine ⟨Option.get _ completes, (Option.some_get completes).symm, ?_⟩
  intro routes
  have identified := routes.named 3 1 _ _ delivered
  exact absurd identified (by decide)

end Routing

end Mola
