import Mola.WorkStealRuns
import Mathlib.Data.Nat.ModEq

/-!
# What the steps of the work-stealing scheduler count

A call of `enqueue` lets exactly one task enter and ends idle, and a call of `dequeue`
that ends idle returns exactly one. A step of a thread therefore changes the numbers of
tasks that entered and were returned by what can be read off its position before and
after. The number beside the global queue counts its tasks, apart from those that calls
of `global_enqueue` have not counted yet, modulo 2^64.
-/

namespace Mola.WorkSteal

open Rings Tallies

universe u v
variable {Item : Type u} {Id : Type v}

/-- The operation that a position belongs to. -/
inductive Phase where
  | idle
  | enqueue
  | dequeue
  | search
  | global
  | steal
  | fault
deriving DecidableEq

/-- The operation of a thread. -/
def phase : Position Item Id → Phase
  | .idle => .idle
  | .enqueueHead _ | .enqueueTail .. | .enqueueWrite .. | .enqueueStore .. | .moveCopy ..
  | .moveExchange .. | .moveGlobal _ => .enqueue
  | .dequeueHead | .dequeueTail .. | .dequeueRead .. | .dequeueExchange .. => .dequeue
  | .search => .search
  | .globalLoad | .globalLock => .global
  | .grabHead _ | .grabTail .. | .grabCopy .. | .grabExchange .. | .stealHead .. | .stealTail ..
  | .stealWrite .. | .stealStore .. => .steal
  | .fault => .fault

variable (position : Position Item Id)

theorem phase_idle (idle : phase position = .idle) :
    position = .idle := by
  cases position with
  | idle => rfl
  | _ => cases idle

theorem phase_search (searches : phase position = .search) :
    position = .search := by
  cases position with
  | search => rfl
  | _ => cases searches

/-- A call of `enqueue` whose task has entered and that has not ended. -/
def entering : Position Item Id → Nat
  | .moveGlobal _ => 1
  | _ => 0

theorem entering_zero (other : phase position ≠ .enqueue) :
    entering position = 0 := by
  cases position with
  | moveGlobal => exact absurd rfl other
  | _ => rfl

/-- A call that has ended. -/
def finished : Phase → Nat
  | .idle => 1
  | _ => 0

/-- The number of the global queue, with the calls that have not counted their task. -/
structure GlobalCounted (state : State Item Id) : Prop where
  small : state.globalNum < 2 ^ 64
  counted : state.globalNum + state.uncounted ≡ state.global.length [MOD 2 ^ 64]

theorem globalCounted_same (state next : State Item Id) (global : next.global = state.global)
    (number : next.globalNum = state.globalNum) (uncounted : next.uncounted = state.uncounted)
    (counted : GlobalCounted state) : GlobalCounted next := by
  constructor
  · rw [number]
    exact counted.small
  · rw [number, uncounted, global]
    exact counted.counted

section
variable [DecidableEq Id]

/-- What a step of one thread does to the positions and the global queue. -/
structure Moved (state next : State Item Id) (id : Id) (position : Position Item Id) : Prop where
  threads : next.threads = Function.update state.threads id position
  uncounted : next.uncounted = state.uncounted
  counted : GlobalCounted state → GlobalCounted next

variable {state : State Item Id} {id : Id} {position : Position Item Id} {capacity : Nat}

theorem moved_touch {next : State Item Id}
    (threads : next.threads = Function.update state.threads id position)
    (global : next.global = state.global) (number : next.globalNum = state.globalNum)
    (uncounted : next.uncounted = state.uncounted) : Moved state next id position :=
  ⟨threads, uncounted, globalCounted_same state next global number uncounted⟩

/-- What a step of a thread counts, by the operation that the thread is in. -/
inductive Counts (state next : State Item Id) (before after : Position Item Id) : Prop where
  | fault (failed : phase after = .fault)
  | enqueue (operation : phase before = .enqueue) (returned : next.returned = state.returned)
      (reached : phase after = .enqueue ∨ phase after = .idle)
      (entered : next.enqueued.length + entering before =
        state.enqueued.length + entering after + finished (phase after))
  | dequeue (operation : phase before = .dequeue ∨ phase before = .global ∨ phase before = .steal)
      (enqueued : next.enqueued = state.enqueued)
      (reached : phase after = phase before ∨ phase after = .idle ∨ phase after = .search)
      (left : next.returned.length = state.returned.length + finished (phase after))

omit [DecidableEq Id] in
/-- A thief goes on. -/
theorem Counts.steals {next : State Item Id} {before after : Position Item Id}
    (operation : phase before = .steal) (reached : phase after = .steal)
    (enqueued : next.enqueued = state.enqueued) (returned : next.returned = state.returned) :
    Counts state next before after :=
  .dequeue (Or.inr (Or.inr operation)) enqueued (Or.inl (reached.trans operation.symm))
    (by rw [returned, reached]; rfl)

/-- A step of `enqueue`: the task enters when the call ends or when the overflow path
detaches it. -/
theorem enqueueStep_counts {next : State Item Id}
    (taken : enqueueStep capacity state id position = some next) :
    ∃ after, Moved state next id after ∧ Counts state next position after := by
  cases position with
  | enqueueTail =>
    simp only [enqueueStep] at taken
    split at taken <;> cases taken
    · exact ⟨_, moved_touch rfl rfl rfl rfl, .enqueue rfl rfl (Or.inl rfl) rfl⟩
    · refine ⟨_, moved_touch rfl rfl rfl rfl, ?_⟩
      unfold moving
      split <;> exact .enqueue rfl rfl (Or.inl rfl) rfl
  | enqueueHead | enqueueWrite =>
    cases taken
    exact ⟨_, moved_touch rfl rfl rfl rfl, .enqueue rfl rfl (Or.inl rfl) rfl⟩
  | enqueueStore =>
    cases taken
    refine ⟨.idle, moved_touch rfl rfl rfl rfl, .enqueue rfl rfl (Or.inr rfl) ?_⟩
    simp [entering, phase, finished]
  | moveCopy =>
    simp only [enqueueStep] at taken
    split at taken <;> cases taken
    · refine ⟨_, moved_touch rfl rfl rfl rfl, ?_⟩
      unfold moving
      split <;> exact .enqueue rfl rfl (Or.inl rfl) rfl
    · exact ⟨_, moved_touch rfl rfl rfl rfl, .fault rfl⟩
  | moveExchange =>
    simp only [enqueueStep] at taken
    split at taken <;> cases taken
    · refine ⟨_, moved_touch rfl rfl rfl rfl, ?_⟩
      split
      · exact .enqueue rfl rfl (Or.inl rfl) (by simp [entering, phase, finished])
      · exact .fault rfl
    · exact ⟨_, moved_touch rfl rfl rfl rfl, .enqueue rfl rfl (Or.inl rfl) rfl⟩
  | moveGlobal temp =>
    cases taken
    refine ⟨.idle, ⟨rfl, rfl, ?_⟩, .enqueue rfl rfl (Or.inr rfl) rfl⟩
    rintro ⟨-, counted⟩
    refine ⟨Nat.mod_lt _ (by decide), ?_⟩
    have longer := counted.add_right temp.length
    rw [Nat.add_right_comm] at longer
    rw [List.length_append]
    exact ((Nat.mod_modEq _ _).add_right _).trans longer
  | _ => cases taken

/-- A step of `dequeue` on the own ring or of `global_dequeue`. -/
theorem dequeueStep_counts {next : State Item Id}
    (taken : dequeueStep capacity state id position = some next) :
    ∃ after, Moved state next id after ∧ Counts state next position after := by
  cases position with simp only [dequeueStep] at taken
  | dequeueTail =>
    split at taken <;> cases taken
    · exact ⟨_, moved_touch rfl rfl rfl rfl,
        .dequeue (Or.inl rfl) rfl (Or.inr (Or.inr rfl)) rfl⟩
    · exact ⟨_, moved_touch rfl rfl rfl rfl, .dequeue (Or.inl rfl) rfl (Or.inl rfl) rfl⟩
  | dequeueHead | dequeueRead =>
    cases taken
    exact ⟨_, moved_touch rfl rfl rfl rfl, .dequeue (Or.inl rfl) rfl (Or.inl rfl) rfl⟩
  | dequeueExchange =>
    split at taken <;> cases taken
    · exact ⟨.idle, moved_touch rfl rfl rfl rfl,
        .dequeue (Or.inl rfl) rfl (Or.inr (Or.inl rfl)) List.length_append⟩
    · exact ⟨_, moved_touch rfl rfl rfl rfl, .dequeue (Or.inl rfl) rfl (Or.inl rfl) rfl⟩
  | globalLoad =>
    split at taken <;> cases taken
    · exact ⟨_, moved_touch rfl rfl rfl rfl,
        .dequeue (Or.inr (Or.inl rfl)) rfl (Or.inr (Or.inr rfl)) rfl⟩
    · exact ⟨_, moved_touch rfl rfl rfl rfl,
        .dequeue (Or.inr (Or.inl rfl)) rfl (Or.inl rfl) rfl⟩
  | globalLock =>
    split at taken <;> cases taken
    · exact ⟨_, moved_touch rfl rfl rfl rfl,
        .dequeue (Or.inr (Or.inl rfl)) rfl (Or.inr (Or.inr rfl)) rfl⟩
    · rename_i task rest same
      refine ⟨.idle, ⟨rfl, rfl, ?_⟩,
        .dequeue (Or.inr (Or.inl rfl)) rfl (Or.inr (Or.inl rfl)) List.length_append⟩
      rintro ⟨-, counted⟩
      refine ⟨Nat.mod_lt _ (by decide), ?_⟩
      rw [same, List.length_cons] at counted
      -- one less on both sides, with 2^64 added so that nothing is subtracted
      apply Nat.ModEq.add_right_cancel' 1
      have wrapped : state.globalNum + 2 ^ 64 - 1 + state.uncounted + 1 =
          state.globalNum + state.uncounted + 2 ^ 64 := by omega
      have reduced := ((Nat.mod_modEq (state.globalNum + 2 ^ 64 - 1) (2 ^ 64)).add_right
        state.uncounted).add_right 1
      rw [wrapped] at reduced
      exact reduced.trans (Nat.ModEq.trans (by simp [Nat.ModEq]) counted)
  | _ => cases taken

/-- A step of a thief up to its exchange. -/
theorem grabStep_counts {next : State Item Id}
    (taken : grabStep capacity state id position = some next) :
    ∃ after, Moved state next id after ∧ Counts state next position after := by
  cases position with simp only [grabStep] at taken
  | grabHead =>
    cases taken
    exact ⟨_, moved_touch rfl rfl rfl rfl, .steals rfl rfl rfl rfl⟩
  | grabTail =>
    split at taken
    · cases taken
      exact ⟨_, moved_touch rfl rfl rfl rfl,
        .dequeue (Or.inr (Or.inr rfl)) rfl (Or.inr (Or.inr rfl)) rfl⟩
    · split at taken <;> cases taken
      · exact ⟨_, moved_touch rfl rfl rfl rfl, .steals rfl rfl rfl rfl⟩
      · refine ⟨_, moved_touch rfl rfl rfl rfl, ?_⟩
        unfold grabbing
        split <;> exact .steals rfl rfl rfl rfl
  | grabCopy =>
    split at taken <;> cases taken
    · refine ⟨_, moved_touch rfl rfl rfl rfl, ?_⟩
      unfold grabbing
      split <;> exact .steals rfl rfl rfl rfl
    · exact ⟨_, moved_touch rfl rfl rfl rfl, .fault rfl⟩
  | grabExchange =>
    split at taken <;> cases taken
    · unfold detach
      dsimp only
      split
      · exact ⟨_, moved_touch rfl rfl rfl rfl, .fault rfl⟩
      · split
        · exact ⟨.idle, moved_touch rfl rfl rfl rfl,
            .dequeue (Or.inr (Or.inr rfl)) rfl (Or.inr (Or.inl rfl)) List.length_append⟩
        · exact ⟨_, moved_touch rfl rfl rfl rfl, .steals rfl rfl rfl rfl⟩
    · exact ⟨_, moved_touch rfl rfl rfl rfl, .steals rfl rfl rfl rfl⟩
  | _ => cases taken

/-- A step of the rest of `__steal`. -/
theorem stealStep_counts {next : State Item Id}
    (taken : stealStep capacity state id position = some next) :
    ∃ after, Moved state next id after ∧ Counts state next position after := by
  cases position with
  | stealHead =>
    cases taken
    exact ⟨_, moved_touch rfl rfl rfl rfl, .steals rfl rfl rfl rfl⟩
  | stealTail =>
    simp only [stealStep] at taken
    split at taken <;> cases taken
    · exact ⟨_, moved_touch rfl rfl rfl rfl, .steals rfl rfl rfl rfl⟩
    · exact ⟨_, moved_touch rfl rfl rfl rfl, .fault rfl⟩
  | stealWrite =>
    simp only [stealStep] at taken
    split at taken <;> cases taken
    · exact ⟨_, moved_touch rfl rfl rfl rfl, .fault rfl⟩
    · refine ⟨_, moved_touch rfl rfl rfl rfl, ?_⟩
      split <;> exact .steals rfl rfl rfl rfl
  | stealStore =>
    cases taken
    exact ⟨.idle, moved_touch rfl rfl rfl rfl,
      .dequeue (Or.inr (Or.inr rfl)) rfl (Or.inr (Or.inl rfl)) List.length_append⟩
  | _ => cases taken

/-- Every step of a thread moves that thread alone and counts by its operation. -/
theorem threadStep_counts {capacity : Nat} {state next : State Item Id} {id : Id}
    (taken : threadStep capacity state id = some next) :
    ∃ after, Moved state next id after ∧ Counts state next (state.threads id) after := by
  simp only [threadStep, Option.orElse_eq_orElse, Option.orElse_eq_or, Option.or_eq_some_iff]
    at taken
  rcases taken with enqueues | ⟨_, dequeues | ⟨_, grabs | ⟨_, steals⟩⟩⟩
  · exact enqueueStep_counts enqueues
  · exact dequeueStep_counts dequeues
  · exact grabStep_counts grabs
  · exact stealStep_counts steals

end

end Mola.WorkSteal
