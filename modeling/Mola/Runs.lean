import Mathlib.Logic.Basic
import Mathlib.Data.List.Basic

/-!
# Finite runs of a partial step function

A system is a state type, an action type and an executable step function that
returns `none` when an action is not enabled. A run is a finite schedule of
actions, each enabled in the state that the previous one left. The rules here
carry a property from the first state of a run to its last: one step preserves
it, hence every schedule does. A condition on the steps of a schedule is stated
about the state in which each action is taken, never about the result.

Nothing in this module mentions a particular system. Fairness, infinite runs and
the relation of a step function to a machine are outside it.
-/

namespace Mola.Runs

universe u v
variable {State : Type u} {Action : Type v}

/-- Execute a schedule from a state. A disabled action ends the execution
without a result; no later action of that schedule is consulted. -/
def run (step : State → Action → Option State) : State → List Action → Option State
  | state, [] => some state
  | state, action :: rest =>
      match step state action with
      | none => none
      | some next => run step next rest

/-- Each action of the schedule is taken in a state that allows it. A disabled
action has no successor, so nothing after it is constrained. -/
def Along (step : State → Action → Option State) (allowed : State → Action → Prop) :
    State → List Action → Prop
  | _, [] => True
  | state, action :: rest =>
      allowed state action ∧
        match step state action with
        | none => True
        | some next => Along step allowed next rest

/-- The condition along a schedule is decided by executing that schedule. -/
instance decidableAlong (step : State → Action → Option State)
    (allowed : State → Action → Prop) [∀ state action, Decidable (allowed state action)] :
    ∀ (schedule : List Action) (state : State), Decidable (Along step allowed state schedule)
  | [], _ => isTrue trivial
  | action :: rest, state =>
      match taken : step state action with
      | none => decidable_of_iff (allowed state action) (by simp [Along, taken])
      | some next =>
          have := decidableAlong step allowed rest next
          decidable_of_iff (allowed state action ∧ Along step allowed next rest)
            (by simp [Along, taken])

theorem run_cons (step : State → Action → Option State) (state final : State)
    (action : Action) (rest : List Action) :
    run step state (action :: rest) = some final ↔
      ∃ next, step state action = some next ∧ run step next rest = some final := by
  cases taken : step state action with
  | none | some => simp [run, taken]

/-- Executing a concatenated schedule passes through the state that its first
part reaches. -/
theorem run_append (step : State → Action → Option State) (state middle : State)
    (first second : List Action) (reached : run step state first = some middle) :
    run step state (first ++ second) = run step middle second := by
  induction first generalizing state with
  | nil =>
    have same : state = middle := Option.some.inj reached
    rw [same, List.nil_append]
  | cons action rest inductionHypothesis =>
    obtain ⟨next, taken, following⟩ := (run_cons step state middle action rest).mp reached
    simp only [List.cons_append, run, taken]
    exact inductionHypothesis next following

/-- A concatenated schedule that is executed reaches a state between its parts. -/
theorem run_split (step : State → Action → Option State) (state final : State)
    (first second : List Action) (executed : run step state (first ++ second) = some final) :
    ∃ middle, run step state first = some middle ∧ run step middle second = some final := by
  induction first generalizing state with
  | nil => exact ⟨state, rfl, executed⟩
  | cons action rest inductionHypothesis =>
    obtain ⟨next, taken, following⟩ := (run_cons step state final action _).mp executed
    obtain ⟨middle, reached, continues⟩ := inductionHypothesis next following
    exact ⟨middle, (run_cons step state middle action rest).mpr ⟨next, taken, reached⟩, continues⟩

/-- A property that every allowed step preserves holds at the end of every run
whose steps are all allowed. The induction is on the schedule, and the property
is carried by the state that each executed step returns. -/
theorem run_preserves (step : State → Action → Option State)
    (allowed : State → Action → Prop) (property : State → Prop)
    (preserved : ∀ state action next, property state → allowed state action →
      step state action = some next → property next)
    (state final : State) (schedule : List Action) (initial : property state)
    (permitted : Along step allowed state schedule)
    (executed : run step state schedule = some final) : property final := by
  induction schedule generalizing state with
  | nil =>
    have same : state = final := Option.some.inj executed
    exact same ▸ initial
  | cons action rest inductionHypothesis =>
    obtain ⟨next, taken, following⟩ := (run_cons step state final action rest).mp executed
    have kept : allowed state action ∧ Along step allowed next rest := by
      simpa only [Along, taken] using permitted
    exact inductionHypothesis next
      (preserved state action next initial kept.1 taken) kept.2 following

/-- A weaker condition also holds along a schedule. -/
theorem along_mono (step : State → Action → Option State)
    (allowed weaker : State → Action → Prop)
    (implies : ∀ state action, allowed state action → weaker state action) (state : State)
    (schedule : List Action) (permitted : Along step allowed state schedule) :
    Along step weaker state schedule := by
  induction schedule generalizing state with
  | nil => trivial
  | cons action _ inductionHypothesis =>
    obtain ⟨now, later⟩ := permitted
    refine ⟨implies state action now, ?_⟩
    cases taken : step state action with
    | none => trivial
    | some next =>
      rw [taken] at later
      exact inductionHypothesis next later

/-- A condition on the actions alone holds along every schedule of such actions. -/
theorem along_actions (step : State → Action → Option State) (allowed : Action → Prop)
    (state : State) (schedule : List Action) (every : ∀ action ∈ schedule, allowed action) :
    Along step (fun _ action => allowed action) state schedule := by
  induction schedule generalizing state with
  | nil => trivial
  | cons action _ inductionHypothesis =>
    refine ⟨every action List.mem_cons_self, ?_⟩
    split
    · trivial
    · exact inductionHypothesis _ fun later member => every later (List.mem_cons_of_mem _ member)

theorem along_always (step : State → Action → Option State) (state : State)
    (schedule : List Action) : Along step (fun _ _ => True) state schedule :=
  along_actions step (fun _ => True) state schedule fun _ _ => trivial

/-- The unconditional case: every step preserves the property, so every run does. -/
theorem run_invariant (step : State → Action → Option State) (property : State → Prop)
    (preserved : ∀ state action next, property state →
      step state action = some next → property next)
    (state final : State) (schedule : List Action) (initial : property state)
    (executed : run step state schedule = some final) : property final :=
  run_preserves step (fun _ _ => True) property
    (fun state action next holds _ taken => preserved state action next holds taken)
    state final schedule initial (along_always step state schedule) executed

/-- Where a step leads to a good state exactly if it is allowed and taken in one, a run ends in a
good state exactly if it starts in one and every step is allowed. The induction is on the
schedule, and the invariant is carried along. -/
theorem run_good_iff (step : State → Action → Option State)
    (allowed : State → Action → Prop) (invariant good : State → Prop)
    (preserved : ∀ state action next, invariant state →
      step state action = some next → invariant next)
    (exact_ : ∀ state action next, invariant state → step state action = some next →
      (good next ↔ good state ∧ allowed state action))
    (state final : State) (schedule : List Action) (initial : invariant state)
    (executed : run step state schedule = some final) :
    good final ↔ good state ∧ Along step allowed state schedule := by
  induction schedule generalizing state with
  | nil =>
    obtain rfl : state = final := Option.some.inj executed
    exact (and_iff_left trivial).symm
  | cons action rest inductionHypothesis =>
    obtain ⟨next, taken, following⟩ := (run_cons step state final action rest).mp executed
    rw [inductionHypothesis next (preserved state action next initial taken) following,
      exact_ state action next initial taken, and_assoc]
    simp only [Along, taken]

/-- Some state of the run, from its first to its last, is of the given kind. -/
def Visits (step : State → Action → Option State) (goal : State → Prop) :
    State → List Action → Prop
  | state, [] => goal state
  | state, action :: rest =>
      goal state ∨
        match step state action with
        | none => False
        | some next => Visits step goal next rest

/-- Where every step from a property keeps it or reaches the goal, a run that starts with
the property and does not end with it has visited the goal. The induction is on the
schedule. -/
theorem run_visits (step : State → Action → Option State) (property goal : State → Prop)
    (continues : ∀ state action next, property state → step state action = some next →
      property next ∨ goal next)
    (state final : State) (schedule : List Action) (initial : property state ∨ goal state)
    (executed : run step state schedule = some final) :
    property final ∨ Visits step goal state schedule := by
  induction schedule generalizing state with
  | nil =>
    obtain rfl : state = final := Option.some.inj executed
    exact initial
  | cons action rest inductionHypothesis =>
    obtain ⟨next, taken, following⟩ := (run_cons step state final action rest).mp executed
    rcases initial with holds | reached
    · rcases inductionHypothesis next (continues state action next holds taken) following with
        ends | later
      · exact Or.inl ends
      · refine Or.inr (Or.inr ?_)
        rw [taken]
        exact later
    · exact Or.inr (Or.inl reached)

end Mola.Runs
