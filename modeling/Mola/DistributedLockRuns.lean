import Mola.DistributedLock

/-!
# Runs of the distributed lock

In every state each process has one owner of its asynchronous lock at most: a thread in
`zk_lock`, a parked caller, a holder, or a thread that is about to release. The node of a
holder is the least one, and it stays the least until `unlock` deletes it, since later
nodes have larger numbers. Two holders would be in different processes with different
least nodes.

A parked caller has a watch when the node that it found to be the least is still there at
its call of `exists`. The result of that call is not looked at: when the node was deleted
in between, the watch waits for its creation, and the caller is parked for good.
-/

namespace Mola.DistributedLock

open AsyncLocks

/-- Who has the asynchronous lock of a process. -/
inductive Owner where
  | free
  | working (thread : Option Nat)
  | parked (call : Nat)
  | holding (call : Nat)
  | leaving (thread : Option Nat)

/-- A queue without a parked caller. -/
def Retries (queue : List Entry) : Prop := ∀ call, .parked call ∉ queue

/-- A parked caller is first in the queue, and there is no other. -/
def Queued : Owner → List Entry → Prop
  | .parked call, queue => ∃ rest, queue = .parked call :: rest ∧ Retries rest
  | _, queue => Retries queue

section
variable (careful : Prop) (nodes : List Nat)

/-- What a call of `zk_lock` knows at a stage: after the listing, the least number is at
most its own, and if they are equal then its own node is the least. -/
def Reached (process : Process) : Stage → Prop
  | .enter => True
  | .list => ∃ own, process.path = some own
  | .watch least => ∃ own, process.path = some own ∧ least ≤ own ∧
      (least = own → ∀ node ∈ nodes, own ≤ node)
  | .decide least => ∃ own, process.path = some own ∧ least ≤ own ∧
      (least = own → ∀ node ∈ nodes, own ≤ node) ∧
      (careful → least ≠ own → Awaited nodes process)

/-- What holds of a thread at a position. Only the owner is in `zk_lock`; it keeps the spin
lock, or it is the event thread. -/
def Stands (process : Process) (owner : Owner) (thread : Option Nat) : Position → Prop
  | .idle => True
  | .acquire _ => True
  | .locking _ stage spins => owner = .working thread ∧ Reached careful nodes process stage ∧
      (if spins then process.spin = true else thread = none)
  | .release => owner = .leaving thread
  | .aborted => False

/-- A process with the owner of its lock. The callers that hold the distributed lock are
given by a predicate. -/
structure Rule (holds : Nat → Prop) (process : Process) (owner : Owner) : Prop where
  acquired : process.lock.acquired = false ↔ owner = .free
  threads : ∀ thread, Stands careful nodes process owner thread (process.threads thread)
  holding : ∀ call, holds call → owner = .holding call
  queue : Queued owner process.lock.waitQue
  present : ∀ seq, process.path = some seq → seq ∈ nodes
  first : ∀ call, owner = .holding call →
    ∃ seq, process.path = some seq ∧ ∀ node ∈ nodes, seq ≤ node
  awaited : careful → ∀ call, owner = .parked call → Awaited nodes process

end

/-- Every process has an owner or none, numbers increase, and nodes have one process. -/
structure Ruled (careful : Prop) (state : State) : Prop where
  bounded : ∀ seq ∈ state.nodes, seq < state.last
  separate : ∀ id other seq, (state.processes id).path = some seq →
    (state.processes other).path = some seq → id = other
  distinct : state.holders.Nodup
  rules : ∀ id, ∃ owner, Rule careful state.nodes (fun call => (id, call) ∈ state.holders)
    (state.processes id) owner

theorem start_ruled (careful : Prop) : Ruled careful start where
  bounded := nofun
  separate := nofun
  distinct := List.nodup_nil
  rules _ := ⟨.free, ⟨⟨fun _ => rfl, fun _ => rfl⟩, fun _ => trivial, nofun, nofun, nofun, nofun,
    nofun⟩⟩

/-- A thread that is not in the code of the owner. -/
def Plain : Position → Prop
  | .idle => True
  | .acquire _ => True
  | _ => False

section
variable {careful : Prop} {nodes : List Nat} {holds : Nat → Prop} {process : Process}
  {owner : Owner}

variable {thread : Option Nat} {spins : Bool} {position : Position}

theorem stands_plain {process : Process} {owner : Owner} (plain : Plain position) :
    Stands careful nodes process owner thread position := by
  cases position with
  | idle | acquire => trivial
  | _ => exact plain.elim

/-- All threads but the owner's are outside its code. -/
theorem Rule.plain (rule : Rule careful nodes holds process owner) (thread : Option Nat)
    (working : owner ≠ .working thread) (leaving : owner ≠ .leaving thread) :
    Plain (process.threads thread) := by
  have stands := rule.threads thread
  cases position : process.threads thread with rw [position] at stands
  | idle | acquire => trivial
  | locking =>
    exact absurd stands.1 working
  | release =>
    exact absurd stands leaving
  | aborted =>
    exact stands

theorem stands_move {after : Process} {before : Option Nat → Position}
    (moved : after.threads = Function.update before thread position)
    (others : ∀ other, other ≠ thread → Plain (before other))
    (mine : Stands careful nodes after owner thread position) :
    ∀ other, Stands careful nodes after owner other (after.threads other) := by
  rw [moved]
  exact (Function.forall_update_iff before fun other => Stands careful nodes after owner other).mpr
    ⟨mine, fun other apart => stands_plain (others other apart)⟩

/-- What a thread stands for is carried over when its stage of `zk_lock` is. -/
theorem stands_carry (after : Process) (later : List Nat) (thread : Option Nat)
    (position : Position) (stands : Stands careful nodes process owner thread position)
    (carried : ∀ call stage spins, position = .locking call stage spins →
      Reached careful nodes process stage → Reached careful later after stage)
    (spin : after.spin = process.spin) :
    Stands careful later after owner thread position := by
  cases position with
  | idle | acquire => trivial
  | release | aborted => exact stands
  | locking call stage spins =>
    obtain ⟨owns, reached, spinning⟩ := stands
    refine ⟨owns, carried call stage spins rfl reached, ?_⟩
    rw [spin]
    exact spinning

/-- A thread moves outside the code of the owner, and what the owner knows stays. -/
theorem stands_keep {after : Process} (rule : Rule careful nodes holds process owner)
    (moved : after.threads = Function.update process.threads thread position)
    (plain : Plain position) (path : after.path = process.path) (spin : after.spin = process.spin)
    (watches : after.watches = process.watches) (events : after.events = process.events) :
    ∀ other, Stands careful nodes after owner other (after.threads other) := by
  rw [moved]
  refine (Function.forall_update_iff process.threads fun other =>
    Stands careful nodes after owner other).mpr ⟨stands_plain plain, fun other _ => ?_⟩
  apply stands_carry after nodes other _ (rule.threads other) ?_ spin
  intro call stage spins _ reached
  unfold Reached Awaited at reached ⊢
  rw [path, watches, events]
  exact reached

/-- `lock`. -/
theorem lock_rule (rule : Rule careful nodes holds process owner) (thread : Option Nat)
    (call : Nat) : Rule careful nodes holds (goto process thread (.acquire call)) owner where
  acquired := rule.acquired
  threads := stands_keep rule rfl trivial rfl rfl rfl rfl
  holding := rule.holding
  queue := rule.queue
  present := rule.present
  first := rule.first
  awaited := rule.awaited

/-- A caller that waits for the asynchronous lock stays behind a parked one. -/
theorem queued_retry {queue : List Entry} (queued : Queued owner queue) (call : Nat) :
    Queued owner (queue ++ [.retry call]) := by
  have more : ∀ rest, Retries rest → Retries (rest ++ [.retry call]) := by
    intro rest retries other found
    rcases List.mem_append.mp found with early | late
    · exact retries other early
    · exact Entry.noConfusion (List.mem_singleton.mp late)
  cases owner with
  | parked =>
    obtain ⟨rest, rfl, retries⟩ := queued
    exact ⟨rest ++ [.retry call], rfl, more rest retries⟩
  | _ => exact more queue queued

/-- `acquire`: the caller enters `zk_lock`, or it waits. -/
theorem acquire_rule (rule : Rule careful nodes holds process owner) {call : Nat} {next : Process}
    (taken : acquireStep process thread call = some next) :
    next.path = process.path ∧ ∃ after, Rule careful nodes holds next after := by
  unfold acquireStep at taken
  split at taken
  · cases taken
  · cases acquired : process.lock.acquired with
    | true =>
      simp only [acquire, acquired, if_true] at taken
      cases taken
      refine ⟨rfl, owner, ?_⟩
      constructor
      · exact acquired ▸ rule.acquired
      · exact stands_keep rule rfl trivial rfl rfl rfl rfl
      · exact rule.holding
      · exact queued_retry rule.queue call
      · exact rule.present
      · exact rule.first
      · exact rule.awaited
    | false =>
      simp only [acquire, acquired, Bool.false_eq_true, if_false] at taken
      cases taken
      obtain rfl := rule.acquired.mp acquired
      refine ⟨rfl, .working thread, ?_⟩
      have unheld (other : Nat) : ¬ holds other := by
        intro held
        cases rule.holding other held
      constructor
      · constructor
        all_goals
          intro free
          cases free
      · exact stands_move rfl
          (fun other _ => rule.plain other Owner.noConfusion Owner.noConfusion)
          ⟨rfl, trivial, rfl⟩
      · exact fun other held => absurd held (unheld other)
      · exact rule.queue
      · exact rule.present
      · intro other held
        cases held
      · intro _ other parked
        cases parked

/-- `release`: the lock is free, and what is called next calls `acquire`. -/
theorem release_rule (rule : Rule careful nodes holds process owner)
    (stands : process.threads thread = .release) {next : Process}
    (taken : releaseStep process thread = some next) :
    next.path = process.path ∧ Rule careful nodes holds next .free := by
  have leaves := rule.threads thread
  rw [stands] at leaves
  obtain rfl : owner = .leaving thread := leaves
  unfold releaseStep at taken
  split at taken <;> cases taken
  have retries : Retries process.lock.waitQue := rule.queue
  refine ⟨rfl, ?_⟩
  constructor
  · exact ⟨fun _ => rfl, fun _ => rfl⟩
  · apply stands_move rfl
    · exact fun other different => rule.plain other Owner.noConfusion
        (fun same => different (Owner.leaving.inj same).symm)
    · apply stands_plain
      cases queue : process.lock.waitQue with
      | nil => simp [release, queue, called, Plain]
      | cons entry =>
        cases entry with
        | retry => simp [release, queue, called, Plain]
        | parked call => exact absurd (queue ▸ List.mem_cons_self) (retries call)
  · intro other held
    cases rule.holding other held
  · exact fun call found => retries call (List.mem_of_mem_tail found)
  · exact rule.present
  · intro other held
    cases held
  · intro _ other parked
    cases parked

/-- The thread in `zk_lock` is the owner, and all others are outside. -/
theorem Rule.locking (rule : Rule careful nodes holds process owner) (thread : Option Nat)
    (call : Nat) (stage : Stage) (spins : Bool)
    (stands : process.threads thread = .locking call stage spins) :
    owner = .working thread ∧ Reached careful nodes process stage ∧
      (if spins then process.spin = true else thread = none) ∧
      ∀ other, other ≠ thread → Plain (process.threads other) := by
  have knows := rule.threads thread
  rw [stands] at knows
  obtain ⟨rfl, reached, spinning⟩ := knows
  refine ⟨rfl, reached, spinning, ?_⟩
  intro other different
  exact rule.plain other (fun same => different (Owner.working.inj same).symm) nofun

/-- A step inside `zk_lock`. -/
theorem working_rule (rule : Rule careful nodes holds process owner) {call : Nat}
    {stage further : Stage} (stands : process.threads thread = .locking call stage spins)
    {later : List Nat} {after : Process}
    (moved : after.threads = Function.update process.threads thread (.locking call further spins))
    (lock : after.lock = process.lock) (spin : after.spin = process.spin)
    (reached : Reached careful later after further)
    (present : ∀ seq, after.path = some seq → seq ∈ later) :
    Rule careful later holds after (.working thread) := by
  obtain ⟨rfl, -, spinning, others⟩ := rule.locking thread call stage spins stands
  constructor
  · exact lock ▸ rule.acquired
  · apply stands_move moved others
    exact ⟨rfl, reached, spin ▸ spinning⟩
  · exact fun other held => nomatch rule.holding other held
  · exact lock ▸ rule.queue
  · exact present
  · exact nofun
  · exact nofun

/-- The listing: the least number is at most the own one. -/
theorem list_rule (rule : Rule careful nodes holds process owner) {call : Nat}
    (stands : process.threads thread = .locking call .list spins) :
    Rule careful nodes holds
      (goto process thread (.locking call (.watch (leastSeq nodes)) spins)) (.working thread) := by
  obtain ⟨-, ⟨own, path⟩, -⟩ := rule.locking thread call .list spins stands
  apply working_rule rule stands
  · rfl
  · rfl
  · rfl
  · refine ⟨own, path, leastSeq_le (rule.present own path), ?_⟩
    intro same node among
    have least := leastSeq_le among
    omega
  · exact rule.present

/-- `exists`: a smaller node that is still there is now watched. -/
theorem watch_rule (rule : Rule careful nodes holds process owner) {call : Nat} {least : Int}
    (stands : process.threads thread = .locking call (.watch least) spins)
    (still : careful → ∃ seq ∈ nodes, (seq : Int) = least) :
    Rule careful nodes holds (goto (watchStep nodes process least) thread
      (.locking call (.decide least) spins)) (.working thread) := by
  obtain ⟨-, ⟨own, path, below, first⟩, -⟩ := rule.locking thread call _ spins stands
  apply working_rule rule stands
  · rfl
  · rfl
  · rfl
  · refine ⟨own, path, below, first, ?_⟩
    intro caution other
    obtain ⟨seq, among, same⟩ := still caution
    refine ⟨own, seq, path, by omega, Or.inl ⟨among, ?_⟩⟩
    exact List.mem_append_left _ (List.mem_filter.mpr ⟨among, by simpa using same⟩)
  · exact rule.present

/-- The callback runs: the caller holds the lock with the least node. -/
theorem grant_rule (rule : Rule careful nodes holds process owner) {call : Nat} {least : Int}
    (stands : process.threads thread = .locking call (.decide least) spins)
    (mine : process.path.map Int.ofNat = some least) :
    Rule careful nodes (fun other => other = call ∨ holds other) (leave process thread spins)
      (.holding call) := by
  obtain ⟨rfl, ⟨own, path, -, first, -⟩, -, others⟩ := rule.locking thread call _ spins stands
  rw [path] at mine
  constructor
  · exact ⟨fun free => (nomatch rule.acquired.mp free), nofun⟩
  · exact stands_move rfl others trivial
  · rintro other (rfl | held)
    · rfl
    · exact nomatch rule.holding other held
  · exact rule.queue
  · exact rule.present
  · exact fun _ _ => ⟨own, path, first (Option.some.inj mine).symm⟩
  · exact nofun

/-- The caller is parked. -/
theorem park_rule (rule : Rule careful nodes holds process owner) {call : Nat} {least : Int}
    (stands : process.threads thread = .locking call (.decide least) spins)
    (other : process.path.map Int.ofNat ≠ some least) :
    Rule careful nodes holds (leave (wait process call) thread spins) (.parked call) := by
  obtain ⟨rfl, ⟨own, path, -, -, awaited⟩, -, others⟩ := rule.locking thread call _ spins stands
  constructor
  · exact ⟨fun free => (nomatch rule.acquired.mp free), nofun⟩
  · exact stands_move rfl others trivial
  · exact fun _ held => nomatch rule.holding _ held
  · exact ⟨process.lock.waitQue, rfl, rule.queue⟩
  · exact rule.present
  · exact nofun
  · intro caution _ _
    apply awaited caution
    rintro rfl
    exact other (by rw [path]; rfl)

theorem called_plain (queue : List Entry) (retries : Retries queue) :
    Plain (called queue.head?) := by
  cases queue with
  | nil => trivial
  | cons entry =>
    cases entry with
    | retry => trivial
    | parked call => exact absurd List.mem_cons_self (retries call)

/-- `notify` with a parked caller: it goes on in the event thread. -/
theorem wake_rule {call : Nat} (rule : Rule careful nodes holds process (.parked call))
    (seq : Nat) : Rule careful nodes holds (notify process seq) (.working none) := by
  obtain ⟨rest, queue, retries⟩ := rule.queue
  constructor
  · exact ⟨fun free => (nomatch rule.acquired.mp free), nofun⟩
  · apply stands_move rfl
    · exact fun other _ => rule.plain other nofun nofun
    · rw [queue]
      exact ⟨rfl, trivial, rfl⟩
  · exact fun _ held => nomatch rule.holding _ held
  · change Retries process.lock.waitQue.tail
    rw [queue]
    exact retries
  · exact rule.present
  · exact nofun
  · exact nofun

/-- `notify` without a parked caller. Nobody is in `zk_lock` then, so nobody counts on the
event that is used up. -/
theorem notify_rule (rule : Rule careful nodes holds process owner)
    (unspun : process.spin = false) (seq : Nat)
    (unparked : ∀ call, owner ≠ .parked call) :
    Rule careful nodes holds (notify process seq) owner := by
  have retries : Retries process.lock.waitQue := by
    have queued := rule.queue
    cases owner with
    | parked call => exact absurd rfl (unparked call)
    | _ => exact queued
  constructor
  · exact rule.acquired
  · intro thread
    change Stands careful nodes _ owner thread
      (Function.update process.threads none (called process.lock.waitQue.head?) thread)
    by_cases same : thread = none
    · subst same
      rw [Function.update_self]
      exact stands_plain (called_plain _ retries)
    · rw [Function.update_of_ne same]
      apply stands_carry (notify process seq) nodes thread _ (rule.threads thread) ?_ rfl
      intro call stage spins position
      obtain ⟨-, -, spinning, -⟩ := rule.locking thread call stage spins position
      cases spins with
      | true => exact absurd (unspun.symm.trans spinning) Bool.false_ne_true
      | false => exact absurd spinning same
  · exact rule.holding
  · have tail : Retries process.lock.waitQue.tail :=
      fun call found => retries call (List.mem_of_mem_tail found)
    cases owner with
    | parked call => exact absurd rfl (unparked call)
    | _ => exact tail
  · exact rule.present
  · exact rule.first
  · exact fun _ call parked => absurd parked (unparked call)

/-- The stages of `zk_lock` are carried over when the own node stays the least one and
what is awaited stays so. -/
theorem reached_carry {after : Process} {later : List Nat} (path : after.path = process.path)
    (least : ∀ own, process.path = some own → (∀ node ∈ nodes, own ≤ node) →
      ∀ node ∈ later, own ≤ node)
    (awaits : Awaited nodes process → Awaited later after) {stage : Stage}
    (reached : Reached careful nodes process stage) : Reached careful later after stage := by
  cases stage with
  | enter => trivial
  | list =>
    obtain ⟨own, mine⟩ := reached
    exact ⟨own, path.trans mine⟩
  | watch =>
    obtain ⟨own, mine, below, first⟩ := reached
    exact ⟨own, path.trans mine, below, fun same => least own mine (first same)⟩
  | decide =>
    obtain ⟨own, mine, below, first, awaited⟩ := reached
    exact ⟨own, path.trans mine, below, fun same => least own mine (first same),
      fun caution other => awaits (awaited caution other)⟩

/-- The nodes change outside a process, whose own node stays. -/
theorem Rule.carry (rule : Rule careful nodes holds process owner) (after : Process)
    (later : List Nat) (path : after.path = process.path) (lock : after.lock = process.lock)
    (spin : after.spin = process.spin) (threads : after.threads = process.threads)
    (least : ∀ own, process.path = some own → (∀ node ∈ nodes, own ≤ node) →
      ∀ node ∈ later, own ≤ node)
    (awaits : Awaited nodes process → Awaited later after)
    (present : ∀ seq, process.path = some seq → seq ∈ later) :
    Rule careful later holds after owner where
  acquired := lock ▸ rule.acquired
  threads := by
    intro thread
    rw [threads]
    exact stands_carry after later thread _ (rule.threads thread)
      (fun _ stage _ _ => reached_carry path least awaits) spin
  holding := rule.holding
  queue := lock ▸ rule.queue
  present := path ▸ present
  first := by
    intro call holds
    obtain ⟨own, mine, first⟩ := rule.first call holds
    exact ⟨own, path.trans mine, least own mine first⟩
  awaited := fun caution call parked => awaits (rule.awaited caution call parked)

/-- A node with a new number leaves every process as it is. -/
theorem Rule.grow (rule : Rule careful nodes holds process owner) (seq : Nat)
    (new : ∀ node ∈ nodes, node < seq) :
    Rule careful (nodes ++ [seq]) holds process owner := by
  apply rule.carry process (nodes ++ [seq]) rfl rfl rfl rfl
  · intro own path first node among
    rcases List.mem_append.mp among with old | fresh
    · exact first node old
    · rw [List.mem_singleton.mp fresh]
      exact Nat.le_of_lt (new own (rule.present own path))
  · rintro ⟨own, other, path, below, watched | event⟩
    · exact ⟨own, other, path, below, Or.inl ⟨List.mem_append_left _ watched.1, watched.2⟩⟩
    · exact ⟨own, other, path, below, Or.inr event⟩
  · exact fun own path => List.mem_append_left _ (rule.present own path)

/-- A report changes watches and events only, and loses nothing that is awaited. -/
theorem report_awaited (seq : Nat) (awaited : Awaited nodes process) :
    Awaited (nodes.erase seq) (report seq process) := by
  obtain ⟨own, other, path, below, pending⟩ := awaited
  unfold report
  by_cases watched : seq ∈ process.watches
  · rw [if_pos watched]
    refine ⟨own, other, path, below, ?_⟩
    rcases pending with ⟨there, watches⟩ | event
    · by_cases same : other = seq
      · exact Or.inr (List.mem_append_right _ (List.mem_singleton.mpr same))
      · exact Or.inl ⟨(List.mem_erase_of_ne same).mpr there,
          List.mem_filter.mpr ⟨watches, by simpa using same⟩⟩
    · exact Or.inr (List.mem_append_left _ event)
  · rw [if_neg watched]
    refine ⟨own, other, path, below, ?_⟩
    rcases pending with ⟨there, watches⟩ | event
    · have different : other ≠ seq := fun same => watched (same ▸ watches)
      exact Or.inl ⟨(List.mem_erase_of_ne different).mpr there, watches⟩
    · exact Or.inr event

theorem report_fields (seq : Nat) (process : Process) :
    (report seq process).path = process.path ∧ (report seq process).lock = process.lock ∧
      (report seq process).spin = process.spin ∧
      (report seq process).threads = process.threads := by
  unfold report
  split <;> exact ⟨rfl, rfl, rfl, rfl⟩

/-- The deletion of a node of another process. -/
theorem Rule.shrink (rule : Rule careful nodes holds process owner) {seq : Nat}
    (other : process.path ≠ some seq) :
    Rule careful (nodes.erase seq) holds (report seq process) owner := by
  obtain ⟨path, lock, spin, threads⟩ := report_fields seq process
  apply rule.carry (report seq process) (nodes.erase seq) path lock spin threads
  · exact fun own _ first node among => first node (List.mem_of_mem_erase among)
  · exact report_awaited seq
  · intro own mine
    have different : own ≠ seq := fun same => other (same ▸ mine)
    exact (List.mem_erase_of_ne different).mpr (rule.present own mine)

/-- `unlock` in the process of the holder. -/
theorem unlock_rule {call : Nat} (rule : Rule careful nodes holds process (.holding call))
    (thread : Option Nat) :
    Rule careful nodes (fun _ => False)
      { goto process thread .release with path := none } (.leaving thread) := by
  constructor
  · exact ⟨fun free => (nomatch rule.acquired.mp free), nofun⟩
  · apply stands_move rfl
    · exact fun other _ => rule.plain other nofun nofun
    · rfl
  · exact nofun
  · exact rule.queue
  · exact nofun
  · exact nofun
  · exact nofun

end

section
variable {careful : Prop} {state : State}

variable {id : Nat} {thread : Option Nat}

/-- A step of one process that keeps its node. -/
theorem put_ruled (ruled : Ruled careful state) {process : Process} {owner : Owner}
    {holders : List (Nat × Nat)} (distinct : holders.Nodup)
    (others : ∀ other call, other ≠ id → (other, call) ∈ holders → (other, call) ∈ state.holders)
    (path : process.path = (state.processes id).path)
    (rule : Rule careful state.nodes (fun call => (id, call) ∈ holders) process owner) :
    Ruled careful { put state id process with holders := holders } where
  bounded := ruled.bounded
  separate := by
    have paths : ∀ other,
        (Function.update state.processes id process other).path = (state.processes other).path :=
      (Function.forall_update_iff state.processes fun other process =>
        process.path = (state.processes other).path).mpr ⟨path, fun _ _ => rfl⟩
    intro first second seq mine yours
    exact ruled.separate first second seq ((paths first).symm.trans mine)
      ((paths second).symm.trans yours)
  distinct := distinct
  rules := by
    refine (Function.forall_update_iff state.processes fun other process => ∃ owner,
      Rule careful state.nodes (fun call => (other, call) ∈ holders) process owner).mpr
      ⟨⟨owner, rule⟩, fun other apart => ?_⟩
    obtain ⟨owner, rule⟩ := ruled.rules other
    exact ⟨owner, rule.acquired, rule.threads,
      fun call held => rule.holding call (others other call apart held), rule.queue,
      rule.present, rule.first, rule.awaited⟩

theorem put_ruled_same (ruled : Ruled careful state) {process : Process} {owner : Owner}
    (path : process.path = (state.processes id).path)
    (rule : Rule careful state.nodes (fun call => (id, call) ∈ state.holders) process owner) :
    Ruled careful (put state id process) :=
  put_ruled ruled ruled.distinct (fun _ _ _ held => held) path rule

/-- The creation of a node. -/
theorem create_ruled (ruled : Ruled careful state) {call seq : Nat} {spins : Bool}
    (stands : (state.processes id).threads thread = .locking call .enter spins)
    (new : state.last ≤ seq) :
    Ruled careful
      { put state id { goto (state.processes id) thread (.locking call .list spins) with
          path := some seq } with
        nodes := state.nodes ++ [seq]
        last := seq + 1 } := by
  have larger : ∀ node ∈ state.nodes, node < seq :=
    fun node among => Nat.lt_of_lt_of_le (ruled.bounded node among) new
  have unused : ∀ other, (state.processes other).path ≠ some seq := by
    intro other path
    obtain ⟨owner, rule⟩ := ruled.rules other
    exact Nat.lt_irrefl seq (larger seq (rule.present seq path))
  constructor
  · intro node among
    rcases List.mem_append.mp among with old | fresh
    · exact Nat.lt_succ_of_lt (larger node old)
    · exact List.mem_singleton.mp fresh ▸ Nat.lt_succ_self seq
  · intro first second other mine yours
    dsimp only [put] at mine yours
    by_cases one : first = id <;> by_cases two : second = id
    · exact one.trans two.symm
    · subst one
      rw [Function.update_self] at mine
      rw [Function.update_of_ne two, ← mine] at yours
      exact absurd yours (unused second)
    · subst two
      rw [Function.update_self] at yours
      rw [Function.update_of_ne one, ← yours] at mine
      exact absurd mine (unused first)
    · rw [Function.update_of_ne one] at mine
      rw [Function.update_of_ne two] at yours
      exact ruled.separate first second other mine yours
  · exact ruled.distinct
  · intro other
    dsimp only [put]
    obtain ⟨owner, rule⟩ := ruled.rules other
    by_cases same : other = id
    · subst same
      rw [Function.update_self]
      refine ⟨.working thread, ?_⟩
      apply working_rule rule stands
      · rfl
      · rfl
      · rfl
      · exact ⟨seq, rfl⟩
      · intro own mine
        exact List.mem_append_right _ (List.mem_singleton.mpr (Option.some.inj mine).symm)
    · rw [Function.update_of_ne same]
      exact ⟨owner, rule.grow seq larger⟩

/-- The callback runs. -/
theorem grant_ruled (ruled : Ruled careful state) {call : Nat} {spins : Bool} {least : Int}
    (stands : (state.processes id).threads thread = .locking call (.decide least) spins)
    (mine : (state.processes id).path.map Int.ofNat = some least) :
    Ruled careful { put state id (leave (state.processes id) thread spins) with
      holders := (id, call) :: state.holders } := by
  obtain ⟨owner, rule⟩ := ruled.rules id
  have granted := grant_rule rule stands mine
  obtain ⟨rfl, -⟩ := rule.locking thread call _ spins stands
  apply put_ruled ruled
  · exact List.nodup_cons.mpr ⟨fun held => (nomatch rule.holding call held), ruled.distinct⟩
  · intro other another different held
    rcases List.mem_cons.mp held with same | old
    · exact absurd (congrArg Prod.fst same) different
    · exact old
  · rfl
  · refine ⟨granted.acquired, granted.threads, ?_, granted.queue, granted.present, granted.first,
      granted.awaited⟩
    intro other held
    rcases List.mem_cons.mp held with same | old
    · exact granted.holding other (Or.inl (congrArg Prod.snd same))
    · exact granted.holding other (Or.inr old)

/-- `unlock` of a holder deletes the node of its process. -/
theorem unlock_ruled (ruled : Ruled careful state) (thread : Nat) {call : Nat}
    (held : (id, call) ∈ state.holders) : Ruled careful (unlockStep state id thread call) := by
  obtain ⟨owner, rule⟩ := ruled.rules id
  obtain rfl := rule.holding call held
  obtain ⟨seq, path, -⟩ := rule.first call rfl
  have there := rule.present seq path
  have before : ∀ other, ∃ owner, Rule careful state.nodes
      (fun another => (other, another) ∈ state.holders.erase (id, call))
      (Function.update state.processes id
        { goto (state.processes id) (some thread) .release with path := none } other) owner := by
    intro other
    by_cases same : other = id
    · subst same
      rw [Function.update_self]
      have left := unlock_rule rule (some thread)
      refine ⟨.leaving (some thread), left.acquired, left.threads, ?_, left.queue, left.present,
        left.first, left.awaited⟩
      intro another kept
      have once := (ruled.distinct.mem_erase_iff).mp kept
      have only := Owner.holding.inj (rule.holding another once.2)
      exact absurd (congrArg (Prod.mk other) only.symm) once.1
    · rw [Function.update_of_ne same]
      obtain ⟨owner, rule⟩ := ruled.rules other
      exact ⟨owner, rule.acquired, rule.threads,
        fun another kept => rule.holding another (List.mem_of_mem_erase kept), rule.queue,
        rule.present, rule.first, rule.awaited⟩
  have paths : ∀ other, (Function.update state.processes id
      { goto (state.processes id) (some thread) .release with path := none } other).path =
        if other = id then none else (state.processes other).path := by
    intro other
    by_cases same : other = id
    · subst same
      rw [Function.update_self, if_pos rfl]
    · rw [Function.update_of_ne same, if_neg same]
  unfold unlockStep
  simp only [path]
  rw [if_pos there]
  constructor
  · exact fun node among => ruled.bounded node (List.mem_of_mem_erase among)
  · intro first second other mine yours
    dsimp only at mine yours
    rw [(report_fields seq _).1, paths] at mine yours
    split at mine
    · cases mine
    · split at yours
      · cases yours
      · exact ruled.separate first second other mine yours
  · exact ruled.distinct.erase _
  · intro other
    dsimp only
    obtain ⟨owner, rule⟩ := before other
    refine ⟨owner, rule.shrink ?_⟩
    rw [paths]
    split
    · exact nofun
    · rename_i different
      exact fun yours => different (ruled.separate other id seq yours path)

/-- A step of `zk_lock`. -/
theorem locking_ruled (ruled : Ruled careful state) {call : Nat} {stage : Stage} {spins : Bool}
    {seq : Nat} (stands : (state.processes id).threads thread = .locking call stage spins)
    (still : careful → ∀ least, stage = .watch least → ∃ seq ∈ state.nodes, (seq : Int) = least)
    {next : State} (taken : lockingStep state id thread call spins seq stage = some next) :
    Ruled careful next := by
  obtain ⟨owner, rule⟩ := ruled.rules id
  cases stage with simp only [lockingStep] at taken
  | enter =>
    split at taken
    · rename_i own path
      cases taken
      apply put_ruled_same ruled
      · rfl
      · exact working_rule rule stands rfl rfl rfl
          ⟨own, path⟩ rule.present
    · split at taken <;> cases taken
      rename_i new
      exact create_ruled ruled stands new
  | list =>
    cases taken
    exact put_ruled_same ruled rfl
      (list_rule rule stands)
  | watch least =>
    cases taken
    exact put_ruled_same ruled rfl
      (watch_rule rule stands (fun caution => still caution least rfl))
  | decide =>
    split at taken <;> cases taken
    · rename_i mine
      exact grant_ruled ruled stands mine
    · rename_i other
      exact put_ruled_same ruled rfl
        (park_rule rule stands other)

/-- Every step keeps the rules. -/
theorem step_ruled {state : State} {action : Action} {next : State} (ruled : Ruled careful state)
    (still : careful → stillThere state action = true) (taken : step state action = some next) :
    Ruled careful next := by
  cases action with
  | lock id thread call =>
    simp only [step, Option.ite_none_right_eq_some, Option.some.injEq] at taken
    obtain ⟨-, rfl⟩ := taken
    obtain ⟨owner, rule⟩ := ruled.rules id
    exact put_ruled_same ruled rfl (lock_rule rule (some thread) call)
  | unlock _ thread =>
    simp only [step, Option.ite_none_right_eq_some, Option.some.injEq] at taken
    obtain ⟨⟨-, -, held⟩, rfl⟩ := taken
    exact unlock_ruled ruled thread held
  | deliver id seq =>
    simp only [step, Option.ite_none_right_eq_some, Option.some.injEq] at taken
    obtain ⟨⟨-, unspun, -⟩, rfl⟩ := taken
    obtain ⟨owner, rule⟩ := ruled.rules id
    by_cases parked : ∃ call, owner = .parked call
    · obtain ⟨call, rfl⟩ := parked
      exact put_ruled_same ruled rfl (wake_rule rule seq)
    · exact put_ruled_same ruled rfl
        (notify_rule rule unspun seq fun call same => parked ⟨call, same⟩)
  | proceed id =>
    obtain ⟨owner, rule⟩ := ruled.rules id
    simp only [step] at taken
    split at taken
    · rename_i call stands
      obtain ⟨process, acquires, rfl⟩ := Option.map_eq_some_iff.mp taken
      obtain ⟨path, after, rule⟩ := acquire_rule rule acquires
      exact put_ruled_same ruled path rule
    · rename_i call stage spins stands
      apply locking_ruled ruled stands ?_ taken
      rintro caution least rfl
      have there := still caution
      simp only [stillThere, stands, List.any_eq_true, decide_eq_true_eq] at there
      exact there
    · rename_i stands
      obtain ⟨process, releases, rfl⟩ := Option.map_eq_some_iff.mp taken
      obtain ⟨path, rule⟩ := release_rule rule stands releases
      exact put_ruled_same ruled path rule
    · cases taken

/-- Two holders are the same caller. -/
theorem holders_equal (ruled : Ruled careful state) {first second : Nat × Nat}
    (one : first ∈ state.holders) (two : second ∈ state.holders) : first = second := by
  obtain ⟨owner, rule⟩ := ruled.rules first.1
  obtain ⟨other, yours⟩ := ruled.rules second.1
  have holds := rule.holding first.2 one
  have holds' := yours.holding second.2 two
  obtain ⟨seq, path, least⟩ := rule.first first.2 holds
  obtain ⟨seq', path', least'⟩ := yours.first second.2 holds'
  have same : seq = seq' := Nat.le_antisymm (least seq' (yours.present seq' path'))
    (least' seq (rule.present seq path))
  have process : first.1 = second.1 := ruled.separate first.1 second.1 seq path (same ▸ path')
  have call : first.2 = second.2 :=
    (Owner.holding.inj (holds.symm.trans (rule.holding second.2 (process ▸ two))))
  exact Prod.ext process call

end

/-- The lock is exclusive in every state of a run: from the callback of a caller to its
`unlock` there is no other caller between its callback and its `unlock`. -/
theorem run_exclusive (schedule : List Action) (final : State)
    (executed : Runs.run step start schedule = some final) : final.holders.length ≤ 1 := by
  have ruled : Ruled False final := by
    apply Runs.run_invariant step (Ruled False) ?_ start final schedule (start_ruled False) executed
    intro state action next ruled taken
    exact step_ruled ruled nofun taken
  cases holders : final.holders with
  | nil => exact Nat.zero_le 1
  | cons _ rest =>
    cases rest with
    | nil => exact Nat.le_refl 1
    | cons =>
      have distinct := ruled.distinct
      have same := holders_equal ruled (holders ▸ List.mem_cons_self)
        (holders ▸ List.mem_cons_of_mem _ List.mem_cons_self)
      rw [holders, same] at distinct
      exact absurd List.mem_cons_self (List.nodup_cons.mp distinct).1

/-- A thread goes on for a number of steps, with a number for a node. -/
def steps (process : Nat) (thread : Option Nat) (seq count : Nat) : List Action :=
  List.replicate count (.proceed process thread seq)

/-- Process 0 takes the lock and process 1 is parked. A second caller of process 0 waits,
and after the `unlock` it creates a node and is parked. The deletion of the first node wakes
it in vain, and then wakes the caller of process 1. -/
def contended : List Action :=
  [.lock 0 0 1] ++ steps 0 (some 0) 0 5 ++ [.lock 1 0 2] ++ steps 1 (some 0) 1 5 ++
    [.lock 0 1 3] ++ steps 0 (some 1) 0 1 ++ [.unlock 0 0 1] ++ steps 0 (some 0) 2 6 ++
    [.deliver 0 0] ++ steps 0 none 0 4 ++ [.deliver 1 0] ++ steps 1 none 0 4

theorem contended_completes : (Runs.run step start contended).isSome := by
  decide +kernel

/-- The caller of process 1 has the lock, alone. -/
theorem run_exclusive_contended :
    ∃ final, Runs.run step start contended = some final ∧ final.holders = [(1, 2)] ∧
      final.holders.length ≤ 1 := by
  refine ⟨Option.get _ contended_completes, (Option.some_get _).symm, ?_, ?_⟩
  · decide +kernel
  · exact run_exclusive contended _ (Option.some_get _).symm

/-- In every run in which each least node is still there when `exists` is called, every
parked caller has a watch or an event to come. -/
theorem run_never_stranded (schedule : List Action) (final : State)
    (still : Runs.Along step (fun state action => stillThere state action = true) start schedule)
    (executed : Runs.run step start schedule = some final) : NeverStranded final := by
  have ruled : Ruled True final := by
    apply Runs.run_preserves step _ (Ruled True) ?_ start final schedule (start_ruled True) still
      executed
    intro state action next ruled there taken
    exact step_ruled ruled (fun _ => there) taken
  intro id call parked
  obtain ⟨owner, rule⟩ := ruled.rules id
  have queued := rule.queue
  cases owner with
  | parked other => exact rule.awaited trivial other rfl
  | _ => exact absurd parked (queued call)

/-- The parked caller of process 0 watches the node of process 1. -/
theorem run_never_stranded_contended :
    ∃ final, Runs.run step start contended = some final ∧
      (final.processes 0).lock.waitQue = [.parked 3] ∧ (final.processes 0).path = some 2 ∧
      1 ∈ (final.processes 0).watches ∧ NeverStranded final := by
  refine ⟨Option.get _ contended_completes, (Option.some_get _).symm, ?_, ?_, ?_, ?_⟩
  · decide +kernel
  · decide +kernel
  · decide +kernel
  · apply run_never_stranded contended
    · decide +kernel
    · exact (Option.some_get _).symm

/-- Process 0 has the lock. Process 1 lists the nodes, process 0 deletes its own, and only
then process 1 calls `exists`. -/
def vanished : List Action :=
  [.lock 0 0 1] ++ steps 0 (some 0) 0 5 ++ [.lock 1 0 2] ++ steps 1 (some 0) 1 3 ++
    [.unlock 0 0 1] ++ steps 1 (some 0) 0 2

theorem vanished_completes : (Runs.run step start vanished).isSome := by
  decide +kernel

/-- The caller of process 1 is parked, its node is the only one, and there is neither a
watch nor an event for it. -/
theorem vanished_strands :
    ∃ final, Runs.run step start vanished = some final ∧
      (final.processes 1).lock.waitQue = [.parked 2] ∧ final.nodes = [1] ∧
      (final.processes 1).watches = [] ∧ (final.processes 1).events = [] ∧
      ¬ NeverStranded final := by
  have watches : ((Option.get _ vanished_completes).processes 1).watches = [] := by
    decide +kernel
  have events : ((Option.get _ vanished_completes).processes 1).events = [] := by
    decide +kernel
  refine ⟨Option.get _ vanished_completes, (Option.some_get _).symm, ?_, ?_, watches, events, ?_⟩
  · decide +kernel
  · decide +kernel
  · intro safe
    obtain ⟨own, seq, -, -, pending⟩ := safe 1 2 (by decide +kernel)
    rw [watches, events] at pending
    rcases pending with ⟨-, watched⟩ | event
    · exact nomatch watched
    · exact nomatch event

end Mola.DistributedLock
