import Mola.Places
import Mola.Runs
import Mathlib.Data.List.Perm.Basic
import Mathlib.Data.List.Nodup

/-!
# The asynchronous lock

A caller of `acquire` passes a callback, which runs when the lock is its own. A call that
finds the lock acquired leaves its callback in a queue. A release takes the first callback
from the queue, drops the spin lock, and only then calls it; the callback calls `acquire`
again and may find that another caller was faster.

A step is one critical section of the spin lock: a call of `acquire`, a release up to its
hand-over, or the second `acquire` of a hand-over. The holder calls `release` after its
callback has returned; inside the callback the spin lock is still held.

The engine of a single node keeps one such lock for each zone and id, and makes it at the
first call.
-/

namespace Mola.AsyncLocks

universe u v
variable {Call : Type u} [DecidableEq Call]

/-- The fields of the lock but the spin lock, which is held for a whole step. -/
structure AsyncLock (Callback : Type u) where
  acquired : Bool
  waitQue : List Callback

/-- A new lock is free. -/
def create : AsyncLock Call := ⟨false, []⟩

/-- `acquire`, and whether the callback runs now. -/
def acquire (lock : AsyncLock Call) (callback : Call) : AsyncLock Call × Bool :=
  if lock.acquired then ({ lock with waitQue := lock.waitQue ++ [callback] }, false)
  else ({ lock with acquired := true }, true)

/-- `release` up to its hand-over, and the callback that it calls then. -/
def release (lock : AsyncLock Call) : AsyncLock Call × Option Call :=
  (⟨false, lock.waitQue.tail⟩, lock.waitQue.head?)

/-- A lock with the calls of `acquire` that were made, those whose callbacks ran, those
between their callback and their release, and those that a release is handing over. -/
structure State (Call : Type u) where
  lock : AsyncLock Call
  handing : List Call
  asked : List Call
  served : List Call
  holders : List Call

/-- A new call, the release of a holder, or the second `acquire` of a hand-over. -/
inductive Action (Call : Type u) where
  | acquire (call : Call)
  | release (call : Call)
  | retry (call : Call)

/-- A lock that was not used yet. -/
def start : State Call where
  lock := create
  handing := []
  asked := []
  served := []
  holders := []

/-- A call takes the spin lock in `acquire`. -/
def attempt (state : State Call) (call : Call) : State Call :=
  match acquire state.lock call with
  | (lock, true) =>
      { state with
        lock := lock
        served := state.served ++ [call]
        holders := call :: state.holders }
  | (lock, false) => { state with lock := lock }

/-- One step. A call is made once, and only a holder releases. -/
def step (state : State Call) : Action Call → Option (State Call)
  | .acquire call =>
      if call ∈ state.asked then none
      else some (attempt { state with asked := state.asked ++ [call] } call)
  | .retry call =>
      if call ∈ state.handing then
        some (attempt { state with handing := state.handing.erase call } call)
      else none
  | .release call =>
      if call ∈ state.holders then
        some { state with
          lock := (release state.lock).1
          handing := (release state.lock).2.toList ++ state.handing
          holders := state.holders.erase call }
      else none

/-- What the lock promises: one caller at most is between its callback and its release; a
callback runs once at most; a call that was not served waits in the queue or is being
handed over; and a free lock that is not being handed over has an empty queue. -/
structure Fair (state : State Call) : Prop where
  exclusive : state.holders.length ≤ 1
  once : state.served.Nodup
  kept : ∀ call ∈ state.asked, call ∉ state.served →
    call ∈ state.lock.waitQue ∨ call ∈ state.handing
  drained : state.lock.acquired = false → state.handing = [] → state.lock.waitQue = []

/-- The account behind the promises: every call is in exactly one place, and the lock is
acquired as long as there is a holder. -/
structure Accounted (state : State Call) : Prop where
  distinct : state.asked.Nodup
  places : state.asked.Perm (state.served ++ (state.lock.waitQue ++ state.handing))
  held : state.holders.length = if state.lock.acquired then 1 else 0
  waiting : state.lock.acquired = false → state.handing = [] → state.lock.waitQue = []

omit [DecidableEq Call] in
/-- The account gives the promises. -/
theorem Accounted.fair {state : State Call} (accounted : Accounted state) : Fair state where
  exclusive := by
    rw [accounted.held]
    split <;> omega
  once := by
    have distinct := accounted.places.nodup_iff.mp accounted.distinct
    exact (List.nodup_append.mp distinct).1
  kept := by
    intro call asked unserved
    have placed := accounted.places.mem_iff.mp asked
    exact List.mem_append.mp ((List.mem_append.mp placed).resolve_left unserved)
  drained := accounted.waiting

omit [DecidableEq Call] in
theorem start_accounted : Accounted (start : State Call) where
  distinct := List.nodup_nil
  places := List.Perm.refl _
  held := rfl
  waiting _ _ := rfl

omit [DecidableEq Call] in
/-- A call that is in no place yet is put in one by an attempt. -/
theorem attempt_accounted (state : State Call) (call : Call) (distinct : state.asked.Nodup)
    (places : state.asked.Perm
      (call :: (state.served ++ (state.lock.waitQue ++ state.handing))))
    (held : state.holders.length = if state.lock.acquired then 1 else 0) :
    Accounted (attempt state call) := by
  cases acquired : state.lock.acquired with
  | true =>
    simp only [attempt, acquire, acquired, if_true]
    refine ⟨distinct, ?_, ?_, ?_⟩
    · refine places.trans (List.perm_middle.symm.trans (List.Perm.append_left _ ?_))
      rw [List.append_assoc]
      exact List.perm_middle.symm
    · rw [held, acquired]
    · exact nofun
  | false =>
    simp only [attempt, acquire, acquired, Bool.false_eq_true, if_false]
    refine ⟨distinct, ?_, ?_, nofun⟩
    · rw [List.append_assoc]
      exact places.trans List.perm_middle.symm
    · rw [List.length_cons, held, acquired]
      rfl

/-- A step keeps the account. -/
theorem step_accounted (state : State Call) (action : Action Call) (next : State Call)
    (accounted : Accounted state) (taken : step state action = some next) : Accounted next := by
  cases action with simp only [step] at taken
  | acquire call =>
    split at taken <;> cases taken
    rename_i new
    apply attempt_accounted
    · exact List.nodup_append.mpr ⟨accounted.distinct, List.nodup_singleton call, by
        intro old asked other same
        rw [List.mem_singleton.mp same]
        exact fun equal => new (equal ▸ asked)⟩
    · exact (List.perm_append_singleton call state.asked).trans (accounted.places.cons call)
    · exact accounted.held
  | retry =>
    split at taken <;> cases taken
    rename_i handed
    apply attempt_accounted
    · exact accounted.distinct
    · have moved := List.perm_cons_erase handed
      refine accounted.places.trans ?_
      rw [← List.append_assoc, ← List.append_assoc]
      exact (List.Perm.append_left _ moved).trans List.perm_middle
    · exact accounted.held
  | release =>
    split at taken <;> cases taken
    rename_i holds
    have single : state.holders.length = 1 := by
      have positive := List.length_pos_of_mem holds
      have held := accounted.held
      split at held
      · exact held
      · omega
    refine ⟨accounted.distinct, ?_, ?_, ?_⟩
    · refine accounted.places.trans (List.Perm.append_left _ ?_)
      cases queue : state.lock.waitQue with
      | nil => simp [release, queue]
      | cons =>
        simp only [release, queue, List.head?_cons, Option.toList_some, List.tail_cons,
          List.cons_append, List.nil_append]
        exact List.perm_middle.symm
    · rw [List.length_erase_of_mem holds, single]
      rfl
    · intro _ none
      cases queue : state.lock.waitQue with
      | nil => simp [release, queue]
      | cons => simp [release, queue] at none

/-- In every run the promises of the lock hold. -/
theorem run_fair (schedule : List (Action Call)) (final : State Call)
    (executed : Runs.run step start schedule = some final) : Fair final :=
  (Runs.run_invariant step Accounted step_accounted start final schedule start_accounted
    executed).fair

/-- Three callers: the second and third wait, the first releases, and a fourth takes the
lock before the second is back. -/
def overtaken : List (Action Nat) :=
  [.acquire 1, .acquire 2, .acquire 3, .release 1, .acquire 4, .retry 2, .release 4]

theorem overtaken_completes : (Runs.run step start overtaken).isSome := by
  decide +kernel

/-- The second caller is again in the queue, and the third is being handed the lock. -/
theorem run_fair_overtaken :
    ∃ final, Runs.run step start overtaken = some final ∧ final.served = [1, 4] ∧
      final.lock.waitQue = [2] ∧ final.handing = [3] ∧ Fair final := by
  refine ⟨Option.get _ overtaken_completes, (Option.some_get _).symm, ?_, ?_, ?_, ?_⟩
  · decide +kernel
  · decide +kernel
  · decide +kernel
  · exact run_fair overtaken _ (Option.some_get _).symm

section
variable {Zone : Type v} [DecidableEq Zone]

/-- The lock that an action of the engine of a single node is about, among its locks by
zone and id. `lock` makes it at its first use; `unlock` asserts that it is there. -/
def opened (locks : Zone × Nat → Option (State Call)) (key : Zone × Nat) :
    Action Call → Option (State Call)
  | .acquire _ => some ((locks key).getD start)
  | _ => locks key

/-- `lock` and `unlock` of the engine, and the second `acquire` of a hand-over. -/
def engineStep (locks : Zone × Nat → Option (State Call)) (event : (Zone × Nat) × Action Call) :
    Option (Zone × Nat → Option (State Call)) :=
  ((opened locks event.1 event.2).bind fun state => step state event.2).map fun next =>
    Function.update locks event.1 (some next)

omit [DecidableEq Call] [DecidableEq Zone] in
/-- The lock that an action is about has its account. -/
theorem opened_accounted {locks : Zone × Nat → Option (State Call)}
    (accounted : ∀ key state, locks key = some state → Accounted state) {key : Zone × Nat}
    {action : Action Call} {state : State Call} (found : opened locks key action = some state) :
    Accounted state := by
  cases action with
  | acquire =>
    cases found
    cases known : locks key with
    | none => exact start_accounted
    | some old => exact accounted key old known
  | release | retry => exact accounted key state found

/-- In every run of the engine the promises hold for each of its locks. -/
theorem engine_fair (schedule : List ((Zone × Nat) × Action Call))
    (final : Zone × Nat → Option (State Call))
    (executed : Runs.run engineStep (fun _ => none) schedule = some final) (key : Zone × Nat)
    (state : State Call) (found : final key = some state) : Fair state := by
  suffices all : ∀ key state, final key = some state → Accounted state from (all key state found).fair
  apply Runs.run_invariant engineStep
    (fun locks => ∀ key state, locks key = some state → Accounted state) ?_ _ final schedule
    (fun _ state missing => absurd missing.symm (Option.some_ne_none state)) executed
  intro locks event next accounted taken key state found
  obtain ⟨after, stepped, rfl⟩ := Option.map_eq_some_iff.mp taken
  obtain ⟨before, known, moved⟩ := Option.bind_eq_some_iff.mp stepped
  obtain ⟨rfl, new⟩ | ⟨-, older⟩ := (Places.update_place ..).mp found
  · obtain rfl := Option.some.inj new
    exact step_accounted before event.2 after (opened_accounted accounted known)
      moved
  · exact accounted key state older

/-- Two zones have a lock with the same id, and one lock is handed over. -/
def twoZones : List ((Nat × Nat) × Action Nat) :=
  [((0, 7), .acquire 1), ((0, 7), .acquire 2), ((1, 7), .acquire 1), ((0, 7), .release 1)]

theorem engine_fair_two_zones :
    ∃ final state, Runs.run engineStep (fun _ => none) twoZones = some final ∧
      final (0, 7) = some state ∧ state.handing = [2] ∧ Fair state :=
  ⟨_, _, rfl, rfl, rfl, engine_fair twoZones _ rfl (0, 7) _ rfl⟩

end

end Mola.AsyncLocks
