import Mola.Runs
import Mathlib.Data.List.AList

/-!
# The pool of delayed tasks

A message whose target node is unknown is kept as a task under the event NODE_CHANGE, and
subscribers keep their handlers under other events. A notification queues an event if tasks
are registered for it, and the thread of the pool takes the queued events one by one. It
runs the tasks of an event from the front of their queue, puts a task that failed at the
back of the same queue, and goes on until the queue is empty; then it forgets the queue.
The mutex of the pool is kept meanwhile.

What a run of a task returns is chosen from outside. Since the loop need not end, it is
given fuel: a number of runs after which it is given up.
-/

namespace Mola.DelayPool

universe u
variable {Task : Type u}

/-- `m_tasks` and `m_event_que`. -/
structure Pool (Task : Type u) where
  tasks : AList fun _ : String => List Task
  events : List String

/-- The tasks of an event. -/
def Pool.queue (pool : Pool Task) (event : String) : List Task := (pool.tasks.lookup event).getD []

/-- A pool without tasks. -/
def empty : Pool Task := ⟨∅, []⟩

/-- `DelayMessagePool::add`. -/
def add (pool : Pool Task) (event : String) (task : Task) : Pool Task :=
  { pool with tasks := pool.tasks.insert event (pool.queue event ++ [task]) }

/-- `DelayMessagePool::notify`. An event without tasks is not queued. -/
def notify (pool : Pool Task) (event : String) : Pool Task :=
  if pool.queue event = [] then pool else { pool with events := pool.events ++ [event] }

/-- What is left of a queue when the task that was taken from its front has returned. -/
def putBack (task : Task) (rest : List Task) (result : Int) : List Task :=
  if result ≠ 0 then rest ++ [task] else rest

/-- The result of `Dispatcher::dispatch` for a message to another node when the thread of
the pool calls it: the node is unknown, it is known and invalid, or the message was handed
over. -/
def dispatch : Option Bool → Int
  | none => -2
  | some true => -1
  | some false => 0

/-- The task that `Dispatcher::dispatch` delays. -/
def delayedDispatch (node : Option Bool) : Int :=
  if dispatch node = -1 then 0 else dispatch node

/-- The inner loop of `DelayMessagePool::loop`. The result is the tasks that were run, in
their order; the run of number `n` returns `results n`. -/
def drain (results : Nat → Int) : Nat → List Task → List Task → Option (List Task)
  | _, [], runs => some runs
  | 0, _ :: _, _ => none
  | fuel + 1, task :: rest, runs =>
      drain results fuel (putBack task rest (results runs.length)) (runs ++ [task])

/-- The handling of the first event in the queue. -/
def handleEvent (results : Nat → Int) (fuel : Nat) (pool : Pool Task) :
    Option (Pool Task × List Task) :=
  match pool.events with
  | [] => none
  | event :: later =>
      match pool.tasks.lookup event with
      | none => some ({ pool with events := later }, [])
      | some queue =>
          match drain results fuel queue [] with
          | none => none
          | some runs => some (⟨pool.tasks.erase event, later⟩, runs)

/-- The tasks of a queue whose first run fails, if the first runs are made in order. -/
def failed (results : Nat → Int) (queue : List Task) : List Task :=
  (queue.zipIdx.filter fun entry => results entry.2 ≠ 0).map Prod.fst

/-- The handling of the first event ends, has run each task of its queue once, and has kept
the tasks that failed. -/
def KeepsFailed (results : Nat → Int) (pool : Pool Task) (event : String)
    (queue : List Task) : Prop :=
  ∃ fuel next runs, handleEvent results fuel pool = some (next, runs) ∧ runs.Perm queue ∧
    next.queue event = failed results queue

variable (tasks : AList fun _ : String => List Task) (results : Nat → Int) (events : List String)
  (event : String)

theorem queue_insert (queue : List Task) :
    (Pool.mk (tasks.insert event queue) events).queue event = queue := by
  simp [Pool.queue]

theorem queue_insert_ne (other : String) (queue : List Task) (different : other ≠ event) :
    (Pool.mk (tasks.insert event queue) events).queue other = (Pool.mk tasks events).queue other := by
  simp [Pool.queue, AList.lookup_insert_ne different]

theorem queue_erase : (Pool.mk (tasks.erase event) events).queue event = [] := by
  simp [Pool.queue]

theorem queue_erase_ne (other : String) (different : other ≠ event) :
    (Pool.mk (tasks.erase event) events).queue other = (Pool.mk tasks events).queue other := by
  simp [Pool.queue, AList.lookup_erase_ne different]

/-- A task leaves the queue only by a run that returns 0, so the loop ends after as many
of those as there are tasks. -/
theorem drain_zeros (fuel : Nat) (queue runs ended : List Task)
    (drained : drain results fuel queue runs = some ended) :
    ∃ added, ended.length = runs.length + added ∧
      (List.range' runs.length added).countP (fun run => results run = 0) = queue.length := by
  induction fuel generalizing queue runs with
  | zero =>
    cases queue with
    | nil =>
      cases drained
      exact ⟨0, rfl, rfl⟩
    | cons => cases drained
  | succ _ inductionHypothesis =>
    cases queue with
    | nil =>
      cases drained
      exact ⟨0, rfl, rfl⟩
    | cons =>
      obtain ⟨added, total, zeros⟩ := inductionHypothesis _ _ drained
      refine ⟨added + 1, ?_, ?_⟩
      · rw [total, List.length_append, List.length_singleton]
        omega
      · rw [List.range'_succ, List.countP_cons, List.length_cons]
        rw [List.length_append, List.length_singleton] at zeros
        rw [zeros, putBack]
        by_cases zero : results runs.length = 0 <;> simp [zero]

/-- If the first run of every task returns 0, the loop runs the queue once. -/
theorem drain_once (queue runs : List Task)
    (zero : ∀ position < queue.length, results (runs.length + position) = 0) :
    drain results queue.length queue runs = some (runs ++ queue) := by
  induction queue generalizing runs with
  | nil => simp [drain]
  | cons task rest inductionHypothesis =>
    have first : results runs.length = 0 := zero 0 (Nat.succ_pos _)
    have later : ∀ position < rest.length, results ((runs ++ [task]).length + position) = 0 := by
      intro position inside
      have following := zero (position + 1) (Nat.succ_lt_succ inside)
      rw [List.length_append, List.length_singleton, Nat.add_assoc, Nat.add_comm 1 position]
      exact following
    simp only [List.length_cons, drain, putBack, first, ne_eq, not_true_eq_false, if_false]
    rw [inductionHypothesis (runs ++ [task]) later, List.append_assoc, List.singleton_append]

/-- If no run returns 0, the loop does not end. -/
theorem drain_endless (nonzero : ∀ run, results run ≠ 0) (fuel : Nat) (queue runs : List Task)
    (tasks : queue ≠ []) : drain results fuel queue runs = none := by
  induction fuel generalizing queue runs with
  | zero =>
    cases queue with
    | nil => exact absurd rfl tasks
    | cons => rfl
  | succ _ inductionHypothesis =>
    cases queue with
    | nil => exact absurd rfl tasks
    | cons =>
      apply inductionHypothesis
      simp [putBack, nonzero]

/-- Of a queue whose first runs all return 0, nothing has failed. -/
theorem failed_nil {results : Nat → Int} {queue : List Task}
    (zero : ∀ position < queue.length, results position = 0) : failed results queue = [] := by
  unfold failed
  rw [List.map_eq_nil_iff, List.filter_eq_nil_iff]
  intro entry member
  have inside : entry.2 < queue.length := by
    have bounds := List.mem_zipIdx' member
    exact bounds.1
  simp [zero entry.2 inside]

/-- The handling of an event ends, runs each task once and keeps the failed ones if and
only if no task fails in its first run. -/
theorem handleEvent_keeps_iff (results : Nat → Int) (pool : Pool Task) (event : String)
    (later : List String) (queue : List Task) (first : pool.events = event :: later)
    (registered : pool.tasks.lookup event = some queue) :
    KeepsFailed results pool event queue ↔
      ∀ position < queue.length, results position = 0 := by
  constructor
  · rintro ⟨fuel, next, runs, handled, once, -⟩
    simp only [handleEvent, first, registered] at handled
    split at handled <;> cases handled
    rename_i ended drained
    obtain ⟨added, total, zeros⟩ := drain_zeros results fuel queue [] _ drained
    have all : added = queue.length := by
      rw [← once.length_eq, total, List.length_nil, Nat.zero_add]
    rw [← all] at zeros
    intro position inside
    have every := List.countP_eq_length.mp (zeros.trans List.length_range'.symm)
    have member : position ∈ List.range' 0 added := by
      rw [List.mem_range'_1]
      omega
    exact of_decide_eq_true (every position member)
  · intro zero
    have drained := drain_once results queue [] (by simpa using zero)
    refine ⟨queue.length, ⟨pool.tasks.erase event, later⟩, queue, ?_, List.Perm.refl _, ?_⟩
    · simp [handleEvent, first, registered, drained]
    · rw [failed_nil zero, queue_erase]

/-- Tasks that wait for a node, and the event that releases them. -/
def released (tasks : List Nat) : Pool Nat :=
  notify (tasks.foldl (fun pool task => add pool "NODE_CHANGE" task) empty) "NODE_CHANGE"

/-- Two tasks that succeed are run and leave nothing behind. -/
theorem handleEvent_keeps_two :
    KeepsFailed (fun _ => delayedDispatch (some false)) (released [1, 2]) "NODE_CHANGE" [1, 2] :=
  (handleEvent_keeps_iff _ (released [1, 2]) "NODE_CHANGE" [] [1, 2] (by decide) (by decide)).mpr
    fun _ _ => by decide

/-- A message whose target stays unknown is tried without end, and a message behind it whose
first try fails is tried again. -/
theorem unknown_target_retried :
    (¬ KeepsFailed (fun _ => delayedDispatch none) (released [1]) "NODE_CHANGE" [1] ∧
      ¬ ∃ fuel, (handleEvent (fun _ => delayedDispatch none) fuel (released [1])).isSome) ∧
    (handleEvent (fun run => if run = 1 then delayedDispatch none else 0) 3 (released [1, 2])).map
      Prod.snd = some [1, 2, 2] := by
  have endless : ∀ fuel, handleEvent (fun _ => delayedDispatch none) fuel (released [1]) = none := by
    intro fuel
    have queued : (released [1]).events = ["NODE_CHANGE"] := by decide
    have tasks : (released [1]).tasks.lookup "NODE_CHANGE" = some [1] := by decide
    have stuck := drain_endless (fun _ => delayedDispatch none) (fun _ => by decide) fuel [1] []
      (by decide)
    simp [handleEvent, queued, tasks, stuck]
  refine ⟨⟨?_, ?_⟩, by decide⟩
  · rintro ⟨fuel, next, runs, handled, -⟩
    rw [endless fuel] at handled
    cases handled
  · rintro ⟨fuel, ended⟩
    rw [endless fuel] at ended
    cases ended

end Mola.DelayPool
