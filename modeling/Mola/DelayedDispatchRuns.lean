import Mola.DelayedDispatch

/-!
# Which delayed messages are released

The invariant says of a pending message to a known node that the pool has been notified of
the change, or is emptying the queue, or that a `sync_all_nodes` which will notify it is
under way. A message that is registered after its node came to be known breaks it, and so
does a lookup that enters the node into the table itself, because nobody notifies the pool
then and a later `sync_all_nodes` finds nothing changed. Without these two the messages are
released.
-/

namespace Mola.DelayedDispatch

open NodeTable (Node Position)
open DelayPool (Pool)

/-- A position from which `sync_all_nodes` will notify the pool. -/
def announces : Position → Bool
  | .fetch _ _ notify | .compare _ _ _ notify => notify
  | .insert _ _ _ | .invalidate (.synced _) _ | .trigger _ => true
  | _ => false

/-- A position from which a node enters the table next. -/
def inserting : Position → Option Node
  | .insert _ node _ | .insertOne node => some node
  | _ => none

variable (table : NodeTable.State) {system : System} {thread : Nat} {state : NodeTable.State}
  {position : Position}

/-- A notification comes from a `sync_all_nodes`. -/
theorem announces_syncing (announced : announces position = true) :
    syncing position = true := by
  cases position with
  | invalidate ending =>
    cases ending with
    | deleted => cases announced
    | synced => rfl
  | children | fetch | compare | insert | trigger => rfl
  | _ => cases announced

theorem known_iff (alive : List Node) (id : Nat) :
    known alive id = true ↔ ∃ node ∈ alive, node.id = id := by
  unfold known NodeTable.findCachedNode
  rw [List.find?_isSome]
  simp

/-- Which nodes are known after an insertion. -/
theorem known_insertNode {alive : List Node} {node : Node} {id : Nat}
    (now : known (NodeTable.insertNode alive node) id = true) :
    known alive id = true ∨ node.id = id := by
  obtain ⟨other, member, same⟩ := (known_iff _ id).mp now
  unfold NodeTable.insertNode at member
  split at member
  · exact Or.inl ((known_iff alive id).mpr ⟨other, member, same⟩)
  · rcases (List.mem_orderedInsert _).mp member with new | old
    · rw [new] at same
      exact Or.inr same
    · exact Or.inl ((known_iff alive id).mpr ⟨other, old, same⟩)

theorem known_filter {alive : List Node} {keep : Node → Bool} {id : Nat}
    (now : known (alive.filter keep) id = true) : known alive id = true := by
  obtain ⟨other, member, same⟩ := (known_iff _ id).mp now
  exact (known_iff alive id).mpr ⟨other, (List.mem_filter.mp member).1, same⟩

/-- What a step of a thread does to the table and to the notifications under way. -/
structure Effect (state next : NodeTable.State) (thread : Nat) : Prop where
  others : ∀ other, other ≠ thread → next.threads other = state.threads other
  announced : announces (state.threads thread) = true →
    announces (next.threads thread) = true ∨ ∃ caller, state.threads thread = .trigger caller
  inserted : ∀ caller node rest, state.threads thread = .insert caller node rest →
    announces (next.threads thread) = true
  known : ∀ id, known next.alive id = true → known state.alive id = true ∨
    ∃ node, inserting (state.threads thread) = some node ∧ node.id = id

/-- The effect of a step, read off the new position of its thread. -/
theorem effect_of (state next : NodeTable.State) (thread : Nat) (position : Position)
    (moved : next.threads = Function.update state.threads thread position)
    (announced : announces (state.threads thread) = true →
      announces position = true ∨ ∃ caller, state.threads thread = .trigger caller)
    (known : ∀ id, known next.alive id = true → known state.alive id = true ∨
      ∃ node, inserting (state.threads thread) = some node ∧ node.id = id) :
    Effect state next thread := by
  refine ⟨fun other different => ?_, ?_, fun caller node rest standing => ?_, known⟩
  · rw [moved, Function.update_of_ne different]
  · rw [moved, Function.update_self]
    exact announced
  · rw [moved, Function.update_self]
    rcases announced (by rw [standing]; rfl) with here | ⟨caller, elsewhere⟩
    · exact here
    · rw [standing] at elsewhere
      cases elsewhere

/-- A thread that owes no notification moves, and the table loses nodes at most. -/
theorem silent_effect (state next : NodeTable.State) (thread : Nat) (position : Position)
    (moved : next.threads = Function.update state.threads thread position)
    (silent : announces (state.threads thread) = false)
    (fewer : ∀ id, known next.alive id = true → known state.alive id = true) :
    Effect state next thread := by
  apply effect_of state next thread position moved
  · intro announced
    rw [silent] at announced
    cases announced
  · intro id now
    exact Or.inl (fewer id now)

theorem sync_effect
    (announced : announces (state.threads thread) = true → announces position = true) :
    Effect state (NodeTable.goto state thread position) thread :=
  effect_of state _ thread position rfl (fun owed => Or.inl (announced owed))
    fun _ now => Or.inl now

/-- A node enters the table. -/
theorem insert_effect {node : Node} (standing : inserting (state.threads thread) = some node)
    (announced : announces (state.threads thread) = true → announces position = true) :
    Effect state { NodeTable.goto state thread position with
      alive := NodeTable.insertNode state.alive node } thread := by
  apply effect_of state _ thread position rfl (fun owed => Or.inl (announced owed))
  intro id now
  rcases known_insertNode now with old | new
  · exact Or.inl old
  · exact Or.inr ⟨node, standing, new⟩

theorem quiet_effect {next : NodeTable.State} {after : Position}
    (standing : state.threads thread = position) (silent : announces position = false)
    (moved : next.threads = Function.update state.threads thread after)
    (same : next.alive = state.alive) : Effect state next thread :=
  silent_effect state next thread after moved (standing ▸ silent) fun _ now => same ▸ now

/-- The effect of a step that needs nothing from ZooKeeper. -/
theorem proceed_effect {next : NodeTable.State}
    (stepped : NodeTable.proceed state thread = some next) : Effect state next thread := by
  cases standing : state.threads thread with simp only [NodeTable.proceed, standing] at stepped
  | load | clear | store | checkSync | synced | compareOne | keep =>
    cases stepped
    exact quiet_effect standing rfl rfl rfl
  | find =>
    split at stepped <;> cases stepped <;> exact quiet_effect standing rfl rfl rfl
  | lock =>
    split at stepped <;> cases stepped
    exact quiet_effect standing rfl rfl rfl
  | fetch _ ids notify =>
    cases ids with
    | cons => cases stepped
    | nil =>
      cases stepped
      apply sync_effect
      rw [standing]
      intro owed
      have raised : notify = true := owed
      rw [if_pos raised]
      rfl
  | compare =>
    cases stepped
    apply sync_effect
    rw [standing]
    intro owed
    split
    · rfl
    · exact owed
  | insert =>
    cases stepped
    exact insert_effect (by rw [standing]; rfl) fun _ => rfl
  | invalidate ending caches =>
    cases ending with
    | deleted =>
      cases caches <;> cases stepped <;> exact quiet_effect standing rfl rfl rfl
    | synced =>
      cases caches with
      | nil =>
        cases stepped
        exact sync_effect fun _ => rfl
      | cons =>
        cases stepped
        exact effect_of state _ thread _ rfl (fun _ => Or.inl rfl) fun _ now => Or.inl now
  | trigger caller =>
    cases stepped
    exact effect_of state _ thread _ rfl (fun _ => Or.inr ⟨caller, standing⟩)
      fun _ now => Or.inl now
  | search what =>
    cases stepped
    cases what with
    | findNode =>
      simp only [NodeTable.searchStep]
      split <;> exact quiet_effect standing rfl rfl rfl
    | queryNodeWithModule => exact quiet_effect standing rfl rfl rfl
  | insertOne =>
    cases stepped
    exact insert_effect (by rw [standing]; rfl) (by rw [standing]; exact fun owed => owed)
  | erase =>
    simp only [NodeTable.eraseStep] at stepped
    split at stepped <;> cases stepped
    split
    · exact quiet_effect standing rfl rfl rfl
    · exact silent_effect state _ thread _ rfl (by rw [standing]; rfl)
        fun other now => known_filter now
  | idle | children | fetchOne | done => cases stepped

theorem call_outside {next : NodeTable.State} {request : NodeTable.Request}
    (stepped : NodeTable.call state thread request = some next) :
    announces (state.threads thread) = false ∧ inserting (state.threads thread) = none := by
  cases standing : state.threads thread with
  | idle | done => exact ⟨rfl, rfl⟩
  | _ => simp [NodeTable.call, standing] at stepped

/-- The effect of a call. -/
theorem call_effect {next : NodeTable.State} {request : NodeTable.Request}
    (stepped : NodeTable.call state thread request = some next) : Effect state next thread := by
  have silent := (call_outside stepped).1
  unfold NodeTable.call at stepped
  split at stepped
  case h_3 => cases stepped
  all_goals
    cases request with simp only [NodeTable.enter] at stepped
    | look =>
      split at stepped <;> cases stepped
      exact quiet_effect rfl silent rfl rfl
    | deleteNode | syncAllNodes =>
      cases stepped
      exact quiet_effect rfl silent rfl rfl

/-- The thread that takes a step. -/
def actor : NodeTable.Action → Nat
  | .call thread _ | .proceed thread | .children thread _ | .answer thread _ => thread

/-- The effect of every step. -/
theorem table_effect (state next : NodeTable.State) (action : NodeTable.Action)
    (stepped : NodeTable.step state action = some next) : Effect state next (actor action) := by
  cases action with
  | call => exact call_effect stepped
  | proceed => exact proceed_effect stepped
  | children =>
    simp only [NodeTable.step, NodeTable.children] at stepped
    split at stepped <;> cases stepped
    rename_i standing
    exact quiet_effect standing rfl rfl rfl
  | answer thread =>
    simp only [NodeTable.step, NodeTable.answer] at stepped
    split at stepped <;> cases stepped <;> rename_i standing
    · exact effect_of state _ thread _ rfl (by rw [standing]; exact Or.inl) fun _ now => Or.inl now
    · exact effect_of state _ thread _ rfl (by rw [standing]; exact Or.inl) fun _ now => Or.inl now
    · exact quiet_effect standing rfl rfl rfl
    · exact quiet_effect standing rfl rfl rfl

/-- The pool has been notified, or is emptying the queue, or will be notified. -/
def Soon (system : System) : Prop :=
  nodeChange ∈ system.pool.events ∨ emptying system.loop = true ∨
    ∃ thread, announces (system.table.threads thread) = true

/-- Messages to known nodes are released soon. -/
def Released (system : System) : Prop :=
  ∀ number target, Task.message number target ∈ system.pool.queue nodeChange →
    known system.table.alive target = true → Soon system

theorem awaited_of_mem {pool : Pool Task} {number target : Nat}
    (member : Task.message number target ∈ pool.queue nodeChange) :
    awaited pool target = true :=
  List.any_eq_true.mpr ⟨_, member, decide_eq_true rfl⟩

/-- What is owed stays owed along a step of the table that is not a notification. -/
theorem soon_table {table : NodeTable.State} (effect : Effect system.table table thread)
    (soon : Soon system) (silent : ∀ caller, system.table.threads thread ≠ .trigger caller) :
    Soon { system with table := table } := by
  rcases soon with queued | empties | ⟨other, announced⟩
  · exact Or.inl queued
  · exact Or.inr (Or.inl empties)
  · refine Or.inr (Or.inr ⟨other, ?_⟩)
    by_cases same : other = thread
    · rw [same] at announced ⊢
      rcases effect.announced announced with still | ⟨caller, standing⟩
      · exact still
      · exact absurd standing (silent caller)
    · rw [effect.others other same]
      exact announced

/-- A step of the table that is no notification keeps messages released. -/
theorem released_table (system : System) (table : NodeTable.State) (thread : Nat)
    (kept : Released system) (effect : Effect system.table table thread)
    (silent : ∀ caller, system.table.threads thread ≠ .trigger caller)
    (timely : ∀ node, system.table.threads thread = .insertOne node →
      emptying system.loop = true ∨ awaited system.pool node.id = false) :
    Released { system with table := table } := by
  intro number target member now
  rcases effect.known target now with before | ⟨node, inserts, same⟩
  · exact soon_table effect (kept number target member before) silent
  · cases standing : system.table.threads thread with rw [standing] at inserts
    | insert caller other rest =>
      exact Or.inr (Or.inr ⟨thread, effect.inserted caller other rest standing⟩)
    | insertOne other =>
      obtain rfl := Option.some.inj inserts
      rcases timely other standing with empties | free
      · exact Or.inr (Or.inl empties)
      · have waits := awaited_of_mem member
        rw [← same, free] at waits
        cases waits
    | _ =>
      cases inserts

/-- A notification with a pending message queues the event. -/
theorem released_notify (event : String) (kept : Released system) :
    Released { system with pool := DelayPool.notify system.pool event } := by
  intro number target member now
  have pending : Task.message number target ∈ system.pool.queue nodeChange := by
    unfold DelayPool.notify at member
    split at member <;> exact member
  rcases kept number target pending now with queued | rest
  · refine Or.inl ?_
    simp only [DelayPool.notify]
    split
    · exact queued
    · exact List.mem_append_left _ queued
  · exact Or.inr rest

/-- The end of `sync_all_nodes` notifies the pool. -/
theorem released_trigger (system : System) (table : NodeTable.State) :
    Released { system with
      table := table, pool := DelayPool.notify system.pool nodeChange } := by
  intro number target member _
  refine Or.inl ?_
  simp only [DelayPool.notify] at member ⊢
  split at member
  · rename_i none
    rw [none] at member
    cases member
  · rename_i some
    rw [if_neg some]
    exact List.mem_append_right _ (List.mem_singleton.mpr rfl)

/-- A call keeps messages released. -/
theorem released_call {table : NodeTable.State} {request : NodeTable.Request}
    (kept : Released system) (stepped : NodeTable.call system.table thread request = some table) :
    Released { system with table := table } := by
  obtain ⟨silent, nothing⟩ := call_outside stepped
  apply released_table system table thread kept
    (call_effect stepped)
  · intro caller standing
    rw [standing] at silent
    cases silent
  · intro node standing
    rw [standing] at nothing
    cases nothing

/-- A step of the node manager keeps messages released. -/
theorem tableStep_released {next : System} {action : NodeTable.Action} (kept : Released system)
    (allowed : timely system (.table action) = true)
    (stepped : tableStep system action = some next) : Released next := by
  cases action with simp only [tableStep] at stepped
  | call =>
    split at stepped
    · obtain ⟨table, called, rfl⟩ := Option.map_eq_some_iff.mp stepped
      exact released_call kept called
    · cases stepped
  | proceed thread =>
    split at stepped
    · split at stepped
      · obtain ⟨middle, moved, rfl⟩ := Option.map_eq_some_iff.mp stepped
        obtain ⟨table, -, rfl⟩ := Option.map_eq_some_iff.mp moved
        exact released_trigger system table
      · cases stepped
    · rename_i silent
      obtain ⟨table, moved, rfl⟩ := Option.map_eq_some_iff.mp stepped
      apply released_table system table thread kept (table_effect _ _ _ moved) silent
      intro node standing
      simpa [timely, standing] using allowed
  | children thread =>
    obtain ⟨table, moved, rfl⟩ := Option.map_eq_some_iff.mp stepped
    apply released_table system table thread kept (table_effect _ _ _ moved)
    · intro caller standing
      simp [NodeTable.step, NodeTable.children, standing] at moved
    · intro node standing
      simp [NodeTable.step, NodeTable.children, standing] at moved
  | answer thread =>
    obtain ⟨table, moved, rfl⟩ := Option.map_eq_some_iff.mp stepped
    apply released_table system table thread kept (table_effect _ _ _ moved)
    · intro caller standing
      simp [NodeTable.step, NodeTable.answer, standing] at moved
    · intro node standing
      simp [NodeTable.step, NodeTable.answer, standing] at moved

/-- A task is registered. It is no message, or its target is unknown. -/
theorem released_add {event : String} {task : Task} (kept : Released system)
    (unknown : ∀ number target, task = .message number target →
      event = nodeChange → known system.table.alive target = false) :
    Released { system with pool := DelayPool.add system.pool event task } := by
  intro number target member now
  by_cases same : event = nodeChange
  · rw [same] at member
    have split : Task.message number target ∈ system.pool.queue nodeChange ++ [task] := by
      rw [← DelayPool.queue_insert system.pool.tasks system.pool.events nodeChange
        (system.pool.queue nodeChange ++ [task])]
      exact member
    rcases List.mem_append.mp split with old | new
    · exact kept number target old now
    · have unheard := unknown number target (List.mem_singleton.mp new).symm same
      rw [unheard] at now
      cases now
  · rw [DelayPool.add, DelayPool.queue_insert_ne _ _ _ _ _ (Ne.symm same)] at member
    exact kept number target member now

/-- The loop moves to a place where it empties the queue, or what it empties is not the
queue of the messages before and after. -/
theorem released_loop {pool : Pool Task} {loop : Loop} (kept : Released system)
    (moved : emptying loop = true ∨ pool.queue nodeChange = [] ∨
      (emptying system.loop = false ∧ pool.queue nodeChange = system.pool.queue nodeChange ∧
        (nodeChange ∈ system.pool.events → nodeChange ∈ pool.events))) :
    Released { system with pool := pool, loop := loop } := by
  intro number target member now
  rcases moved with empties | none | ⟨elsewhere, same, events⟩
  · exact Or.inr (Or.inl empties)
  · rw [none] at member
    cases member
  · rw [same] at member
    rcases kept number target member now with queued | empties | announced
    · exact Or.inl (events queued)
    · rw [elsewhere] at empties
      cases empties
    · exact Or.inr (Or.inr announced)

/-- Taking the next event keeps messages released. -/
theorem nextEvent_released (kept : Released system) (standing : system.loop = .next) :
    Released (nextEvent system) := by
  have idle : emptying system.loop = false := by rw [standing]; rfl
  unfold nextEvent
  split
  · exact released_loop kept (Or.inr (Or.inr ⟨idle, rfl, fun queued => queued⟩))
  · rename_i event later queued
    apply released_loop kept
    by_cases same : event = nodeChange
    · cases registered : system.pool.tasks.lookup event with
      | none =>
        refine Or.inr (Or.inl ?_)
        simp only [Pool.queue]
        rw [← same, registered]
        rfl
      | some => exact Or.inl (decide_eq_true same)
    · refine Or.inr (Or.inr ⟨idle, rfl, fun member => ?_⟩)
      rw [queued] at member
      rcases List.mem_cons.mp member with first | rest
      · exact absurd first.symm same
      · exact rest

/-- Taking the next task of an event keeps messages released. -/
theorem nextTask_released {next : System} {event : String} (kept : Released system)
    (standing : system.loop = .draining event) (stepped : nextTask system event = some next) :
    Released next := by
  have other : event ≠ nodeChange → emptying system.loop = false := by
    intro different
    rw [standing]
    exact decide_eq_false different
  unfold nextTask at stepped
  split at stepped
  · cases stepped
    apply released_loop kept
    by_cases same : event = nodeChange
    · rw [same]
      exact Or.inr (Or.inl (DelayPool.queue_erase _ _ _))
    · exact Or.inr (Or.inr ⟨other same, DelayPool.queue_erase_ne _ _ _ _ (Ne.symm same),
        fun queued => queued⟩)
  · rename_i task rest queue
    have taken : Released { system with
        pool := { system.pool with tasks := system.pool.tasks.insert event rest }
        loop := .running event task } := by
      apply released_loop kept
      by_cases same : event = nodeChange
      · exact Or.inl (decide_eq_true same)
      · exact Or.inr (Or.inr ⟨other same, DelayPool.queue_insert_ne _ _ _ _ _ (Ne.symm same),
          fun queued => queued⟩)
    cases task with
    | message =>
      obtain ⟨table, called, rfl⟩ := Option.map_eq_some_iff.mp stepped
      exact released_call taken called
    | handler =>
      cases stepped
      exact taken

/-- The return of a task keeps messages released. -/
theorem returned_released {event : String} {task : Task} (result : Int) (kept : Released system)
    (standing : system.loop = .running event task) :
    Released (returned system event task result) := by
  apply released_loop kept
  by_cases same : event = nodeChange
  · exact Or.inl (decide_eq_true same)
  · refine Or.inr (Or.inr ⟨?_, DelayPool.queue_insert_ne _ _ _ _ _ (Ne.symm same),
      fun queued => queued⟩)
    rw [standing]
    exact decide_eq_false same

/-- A check of the queues by the loop keeps messages released. -/
theorem wake_released {next : System} (kept : Released system) (stepped : wake system = some next) :
    Released next := by
  unfold wake at stepped
  split at stepped
  · rename_i standing
    have idle : emptying system.loop = false := by rw [standing]; rfl
    split at stepped
    · rename_i none
      cases stepped
      apply released_loop kept
      refine Or.inr (Or.inl ?_)
      simp [Pool.queue, AList.lookup, none]
    · split at stepped <;> cases stepped
      · exact kept
      · exact released_loop kept
          (Or.inr (Or.inr ⟨idle, rfl, fun queued => queued⟩))
  · cases stepped

/-- Every timely step keeps messages released. -/
theorem step_released (system : System) (action : Action) (next : System)
    (kept : Released system) (allowed : timely system action = true)
    (stepped : step system action = some next) : Released next := by
  cases action with
  | table => exact tableStep_released kept allowed stepped
  | dispatch =>
    simp only [step, dispatchStep] at stepped
    split at stepped
    · obtain ⟨table, called, rfl⟩ := Option.map_eq_some_iff.mp stepped
      exact released_call kept called
    · cases stepped
  | resolve =>
    simp only [step, resolve] at stepped
    split at stepped <;> cases stepped
    exact kept
  | add =>
    simp only [step, addStep] at stepped
    split at stepped <;> cases stepped
    rename_i number target errand standing
    apply released_add kept
    intro other target same _
    cases same
    simpa [timely, errand] using allowed
  | subscribe =>
    simp only [step] at stepped
    split at stepped <;> cases stepped
    apply released_add kept
    intro other target same
    cases same
  | publish event =>
    simp only [step] at stepped
    split at stepped <;> cases stepped
    exact released_notify event kept
  | wake => exact wake_released kept stepped
  | advance =>
    simp only [step, advance] at stepped
    split at stepped
    · rename_i standing
      cases stepped
      exact nextEvent_released kept standing
    · rename_i event standing
      exact nextTask_released kept standing stepped
    · cases stepped
  | finish result =>
    simp only [step, finish] at stepped
    split at stepped
    · rename_i event number target standing
      split at stepped <;> cases stepped
      exact returned_released _ kept standing
    · rename_i event number standing
      cases stepped
      exact returned_released result kept standing
    · cases stepped

/-- In every run in which no message is registered for a node that is known by then, and no
lookup enters a node into the table while messages to it are pending and not being retried,
no message to a known node is left when the system has come to rest. -/
theorem run_releases (workers delay localId : Nat) (info : NodeTable.Info)
    (schedule : List Action) (final : System)
    (allowed : Runs.Along step (fun system action => timely system action = true)
      (start workers delay localId info) schedule)
    (executed : Runs.run step (start workers delay localId info) schedule = some final)
    (quiet : Quiet final) :
    ∀ number target, Task.message number target ∈ final.pool.queue nodeChange →
      known final.table.alive target = false := by
  have initial : Released (start workers delay localId info) := by
    intro number target member
    cases member
  have kept := Runs.run_preserves step _ Released step_released _ final schedule initial allowed
    executed
  intro number target member
  rw [Bool.eq_false_iff]
  intro now
  rcases kept number target member now with queued | empties | ⟨thread, announced⟩
  · rw [quiet.handled] at queued
    cases queued
  · rw [quiet.waiting] at empties
    cases empties
  · have syncs := announces_syncing announced
    rw [quiet.synced thread] at syncs
    cases syncs

/-- An action of the threads below a bound, or of the loop. -/
def within (bound : Nat) : Action → Bool
  | .table action => actor action < bound
  | .dispatch thread _ _ | .resolve thread | .add thread => thread < bound
  | _ => true

/-- The threads from a bound on have not done anything. -/
def Outside (bound : Nat) (system : System) : Prop :=
  system.delay < bound ∧ ∀ thread, bound ≤ thread →
    system.errands thread = none ∧ system.table.threads thread = .idle

theorem outside_table (bound : Nat) (system : System) (table : NodeTable.State) (thread : Nat)
    (kept : Outside bound system) (inside : thread < bound)
    (effect : Effect system.table table thread) : Outside bound { system with table := table } := by
  refine ⟨kept.1, fun other beyond => ⟨(kept.2 other beyond).1, ?_⟩⟩
  have different : other ≠ thread := by omega
  exact (effect.others other different).trans (kept.2 other beyond).2

theorem outside_errand {bound : Nat} (errand : Option Errand) (kept : Outside bound system)
    (inside : thread < bound) :
    Outside bound { system with errands := Function.update system.errands thread errand } := by
  refine ⟨kept.1, fun other beyond => ⟨?_, (kept.2 other beyond).2⟩⟩
  have different : other ≠ thread := by omega
  exact (Function.update_of_ne different _ _).trans (kept.2 other beyond).1

/-- Threads that do not act stay as they are. -/
theorem step_outside (bound : Nat) (system : System) (action : Action) (next : System)
    (kept : Outside bound system) (inside : within bound action = true)
    (stepped : step system action = some next) : Outside bound next := by
  cases action with
  | table action =>
    have moved : ∀ after, (NodeTable.step system.table action).map
        (fun table => { system with table := table }) = some after → Outside bound after := by
      intro after taken
      obtain ⟨table, moved, rfl⟩ := Option.map_eq_some_iff.mp taken
      exact outside_table bound system table _ kept (of_decide_eq_true inside)
        (table_effect _ _ _ moved)
    simp only [step, tableStep] at stepped
    split at stepped
    · split at stepped
      · exact moved next stepped
      · cases stepped
    · split at stepped
      · split at stepped
        · obtain ⟨middle, mapped, rfl⟩ := Option.map_eq_some_iff.mp stepped
          exact moved middle mapped
        · cases stepped
      · exact moved next stepped
    · exact moved next stepped
  | dispatch thread =>
    have below : thread < bound := of_decide_eq_true inside
    simp only [step, dispatchStep] at stepped
    split at stepped
    · obtain ⟨table, called, rfl⟩ := Option.map_eq_some_iff.mp stepped
      exact outside_errand _
        (outside_table bound system table thread kept below (call_effect called)) below
    · cases stepped
  | resolve =>
    simp only [step, resolve] at stepped
    split at stepped <;> cases stepped
    exact outside_errand _ kept (of_decide_eq_true inside)
  | add =>
    simp only [step, addStep] at stepped
    split at stepped <;> cases stepped
    exact outside_errand none kept (of_decide_eq_true inside)
  | subscribe | publish =>
    simp only [step] at stepped
    split at stepped <;> cases stepped
    exact kept
  | wake =>
    simp only [step, wake] at stepped
    repeat' split at stepped
    all_goals cases stepped
    all_goals exact kept
  | advance =>
    simp only [step, advance] at stepped
    split at stepped
    · cases stepped
      unfold nextEvent
      split <;> exact kept
    · simp only [nextTask] at stepped
      split at stepped
      · cases stepped
        exact kept
      · split at stepped
        · obtain ⟨table, called, rfl⟩ := Option.map_eq_some_iff.mp stepped
          exact outside_table bound system table system.delay kept kept.1 (call_effect called)
        · cases stepped
          exact kept
    · cases stepped
  | finish =>
    simp only [step, finish] at stepped
    repeat' split at stepped
    all_goals cases stepped
    all_goals exact kept

/-- A run of threads below a bound ends quietly if these threads do. -/
theorem run_quiet (workers delay localId bound : Nat) (info : NodeTable.Info)
    (schedule : List Action) (system : System) (below : delay < bound)
    (inside : ∀ action ∈ schedule, within bound action = true)
    (executed : Runs.run step (start workers delay localId info) schedule = some system)
    (dispatched : ∀ thread < bound, system.errands thread = none)
    (synced : ∀ thread < bound, syncing (system.table.threads thread) = false)
    (waiting : system.loop = .waiting) (handled : system.pool.events = []) : Quiet system := by
  have outside : Outside bound system :=
    Runs.run_preserves step (fun _ action => within bound action = true) (Outside bound)
      (step_outside bound) _ system schedule ⟨below, fun _ _ => ⟨rfl, rfl⟩⟩
      (Runs.along_actions step _ _ schedule inside) executed
  refine ⟨fun thread => ?_, fun thread => ?_, waiting, handled⟩
  · rcases Nat.lt_or_ge thread bound with below | beyond
    · exact dispatched thread below
    · exact (outside.2 thread beyond).1
  · rcases Nat.lt_or_ge thread bound with below | beyond
    · exact synced thread below
    · rw [(outside.2 thread beyond).2]
      rfl

/-- Several steps of one thread of the node manager. -/
def proceeds (thread count : Nat) : List Action := List.replicate count (.table (.proceed thread))

/-- Worker 0 dispatches a message to node 7, which nobody knows, as its first lookup. -/
def missed : List Action := List.flatten [
  [.dispatch 0 100 7], proceeds 0 4, [.table (.children 0 [])], proceeds 0 3,
  [.table (.answer 0 none), .table (.proceed 0), .resolve 0]]

/-- The watcher learns of node 7. -/
def synced : List Action := List.flatten [
  [.table (.call 5 .syncAllNodes), .table (.children 5 [7]),
    .table (.answer 5 (some ⟨"b", 90, 0, 0, []⟩))], proceeds 5 9]

/-- The message is registered, released by the watcher, and sent. A second message is to
node 8, which stays unknown. -/
def releasedThenMissed : List Action := List.flatten [
  missed, [.add 0], synced, [.wake, .advance, .advance], proceeds 1 7,
  [.finish 0, .advance, .advance, .dispatch 0 101 8], proceeds 0 6,
  [.table (.answer 0 none), .table (.proceed 0), .resolve 0, .add 0]]

theorem releasedThenMissed_completes :
    (Runs.run step (start 2 1 1 ⟨"a", 80, 0, 0, []⟩) releasedThenMissed).isSome := by
  decide +kernel

/-- What is left in the end is the message to the unknown node. -/
theorem run_releases_missed :
    ∃ final, Runs.run step (start 2 1 1 ⟨"a", 80, 0, 0, []⟩) releasedThenMissed = some final ∧
      Quiet final ∧ final.pool.queue nodeChange = [.message 101 8] ∧
      known final.table.alive 7 = true ∧
      ∀ number target, Task.message number target ∈ final.pool.queue nodeChange →
        known final.table.alive target = false := by
  have quiet : Quiet (Option.get _ releasedThenMissed_completes) := by
    apply run_quiet 2 1 1 6 _ releasedThenMissed _ (by decide) (by decide)
      (Option.some_get _).symm
    · decide +kernel
    · decide +kernel
    · decide +kernel
    · decide +kernel
  refine ⟨Option.get _ releasedThenMissed_completes, (Option.some_get _).symm, quiet, ?_, ?_, ?_⟩
  · decide +kernel
  · decide +kernel
  · apply run_releases 2 1 1 ⟨"a", 80, 0, 0, []⟩ releasedThenMissed _ _ (Option.some_get _).symm
      quiet
    decide +kernel

/-- The watcher learns of the node between the lookup and the registration. -/
def registeredLate : List Action := List.flatten [missed, synced, [.add 0]]

/-- The message is registered. Another dispatch to the node then finds it in ZooKeeper and
enters it into the table, so that the watcher sees no change. -/
def foundByLookup : List Action := List.flatten [
  missed, [.add 0, .dispatch 0 101 7], proceeds 0 5,
  [.table (.answer 0 (some ⟨"b", 90, 0, 0, []⟩))], proceeds 0 3,
  [.resolve 0, .table (.call 5 .syncAllNodes), .table (.children 5 [7]),
    .table (.answer 5 (some ⟨"b", 90, 0, 0, []⟩))], proceeds 5 2]

theorem registeredLate_completes :
    (Runs.run step (start 2 1 1 ⟨"a", 80, 0, 0, []⟩) registeredLate).isSome := by
  decide +kernel

theorem foundByLookup_completes :
    (Runs.run step (start 2 1 1 ⟨"a", 80, 0, 0, []⟩) foundByLookup).isSome := by
  decide +kernel

/-- Both schedules end quietly with a pending message to a known node. -/
theorem messages_stranded :
    (∃ final, Runs.run step (start 2 1 1 ⟨"a", 80, 0, 0, []⟩) registeredLate = some final ∧
      Quiet final ∧ final.pool.queue nodeChange = [.message 100 7] ∧
      known final.table.alive 7 = true) ∧
    (∃ final, Runs.run step (start 2 1 1 ⟨"a", 80, 0, 0, []⟩) foundByLookup = some final ∧
      Quiet final ∧ final.pool.queue nodeChange = [.message 100 7] ∧
      known final.table.alive 7 = true) := by
  constructor
  · refine ⟨Option.get _ registeredLate_completes, (Option.some_get _).symm, ?_, ?_, ?_⟩
    · apply run_quiet 2 1 1 6 _ registeredLate _ (by decide) (by decide) (Option.some_get _).symm
      · decide +kernel
      · decide +kernel
      · decide +kernel
      · decide +kernel
    · decide +kernel
    · decide +kernel
  · refine ⟨Option.get _ foundByLookup_completes, (Option.some_get _).symm, ?_, ?_, ?_⟩
    · apply run_quiet 2 1 1 6 _ foundByLookup _ (by decide) (by decide) (Option.some_get _).symm
      · decide +kernel
      · decide +kernel
      · decide +kernel
      · decide +kernel
    · decide +kernel
    · decide +kernel

end Mola.DelayedDispatch
