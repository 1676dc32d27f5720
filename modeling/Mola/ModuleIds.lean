import Mathlib.Algebra.Order.Ring.Nat
import Mola.Runs
import Mola.Places

/-!
# Module ids

`get_module_id` looks a name up in the cache of its process and among the children of the
module directory in ZooKeeper. A name that is new is given the number in the data of the
directory, which is then increased, and a child with this number as its data is created.
`DynamicLoader::load_all` holds the global lock 0 around its calls, one after another;
`GetModuleID` calls without it.

A step is one ZooKeeper operation with the local code up to the next one. The operations are
atomic and have their documented results; whether ZooKeeper takes a string as a component of
a path is a parameter. A name is the list of its parts between slashes. The number in the
directory has 32 bits and a module id 16. The lock is the abstract one, held by one loader at
a time. Connections that fail and names that overflow the path buffer are outside the model.
-/

namespace Mola.ModuleIds

/-- The parts of a name between its slashes. -/
abbrev Name := List String

/-- `Module::invalid_id`. -/
def invalidId : UInt16 := 0xffff

/-- The next ZooKeeper operation of a call of `get_module_id`. -/
inductive Position where
  | children
  | fetch
  | readCounter
  | writeCounter (id : UInt32)
  | createNode (id : UInt16)
  | done
deriving DecidableEq

/-- The call has found no child with its name, and has not created it yet. -/
def Position.allocating : Position → Bool
  | .readCounter | .writeCounter _ | .createNode _ => true
  | _ => false

/-- A call of `get_module_id`, and whether it is made by `load_all`. -/
structure Call where
  process : Nat
  loader : Bool
  name : Name
  create : Bool
  position : Position
deriving DecidableEq

/-- The data of the module directory and of the nodes below it, the caches of the processes,
the calls that were made, the lock, and the results of calls with `create`. -/
structure State where
  counter : UInt32
  nodes : Name → Option UInt16
  caches : Nat → Name → Option UInt16
  calls : List Call
  held : Bool
  answers : List (Name × UInt16)
  failed : Bool

/-- The directory was created with "0". -/
def start : State := ⟨0, fun _ => none, fun _ _ => none, [], false, [], false⟩

/-- Any process may call, and any call may do its next operation. -/
inductive Action where
  | lock
  | unlock
  | call (process : Nat) (loader : Bool) (name : Name) (create : Bool)
  | proceed (index : Nat)

/-- A call moves on. -/
def move (state : State) (index : Nat) (call : Call) (position : Position) : State :=
  { state with calls := state.calls.set index { call with position := position } }

/-- The results, with that of a call. -/
def report (state : State) (name : Name) (create : Bool) (id : UInt16) : List (Name × UInt16) :=
  if create then state.answers ++ [(name, id)] else state.answers

/-- A call returns. -/
def finish (state : State) (index : Nat) (call : Call) (id : UInt16) : State :=
  { move state index call .done with answers := report state call.name call.create id }

/-- `insert` into the cache of a process, which leaves an entry that is there. -/
def remember (caches : Nat → Name → Option UInt16) (process : Nat) (name : Name) (id : UInt16) :
    Nat → Name → Option UInt16 := fun other known =>
  if other = process ∧ known = name then some ((caches other known).getD id)
  else caches other known

/-- The calls of the loader that holds the lock have returned. -/
def loaderIdle (state : State) : Bool :=
  state.calls.all fun call => !call.loader || call.position = .done

section
variable (accepts : String → Bool)

/-- `zoo_create` returns `ZOK`: the path is valid and new, and its parent exists. -/
def zooCreates (nodes : Name → Option UInt16) (path : Name) : Bool :=
  path ≠ [] && path.all accepts && (nodes path).isNone &&
    (path.length = 1 || (nodes path.dropLast).isSome)

/-- `zoo_get_children` lists a name: it has one part and a node. -/
def listed (nodes : Name → Option UInt16) (name : Name) : Bool :=
  name.length = 1 && (nodes name).isSome

/-- The next operation of a call. -/
def proceed (state : State) (index : Nat) (call : Call) : Option State :=
  match call.position with
  | .children =>
      if listed state.nodes call.name then some (move state index call .fetch)
      else if call.create then some (move state index call .readCounter)
      else some (finish state index call invalidId)
  | .fetch =>
      match state.nodes call.name with
      | none => some { move state index call .done with failed := true }
      | some id =>
          if id = invalidId ∧ call.create then some (move state index call .readCounter)
          else some (finish state index call id)
  | .readCounter => some (move state index call (.writeCounter state.counter))
  | .writeCounter id =>
      some { move state index call (.createNode id.toUInt16) with counter := id + 1 }
  | .createNode id =>
      if zooCreates accepts state.nodes call.name then
        some { finish state index call id with
          nodes := Function.update state.nodes call.name (some id)
          caches := remember state.caches call.process call.name id }
      else some { move state index call .done with failed := true }
  | .done => none

/-- One step. A loader calls only while it holds the lock, and unlocks when its calls have
returned. -/
def step (state : State) : Action → Option State
  | .lock => if state.held then none else some { state with held := true }
  | .unlock =>
      if state.held && loaderIdle state then some { state with held := false } else none
  | .call process loader name create =>
      if loader && !(state.held && loaderIdle state) then none
      else
        match state.caches process name with
        | some id =>
            some { state with
              calls := state.calls ++ [⟨process, loader, name, create, .done⟩]
              answers := report state name create id }
        | none =>
            some { state with
              calls := state.calls ++ [⟨process, loader, name, create, .children⟩] }
  | .proceed index =>
      match state.calls[index]? with
      | none => none
      | some call => proceed accepts state index call

/-- A name that ZooKeeper takes as that of a child. -/
def plain (name : Name) : Bool := name.length = 1 && name.all accepts

/-- The names are those of children, and a number that is read from the directory is one
that a module can have. -/
def fitting (state : State) : Action → Bool
  | .call _ _ name create => !create || plain accepts name
  | .proceed index =>
      match state.calls[index]? with
      | none => true
      | some call => call.position ≠ .readCounter || state.counter < 0xffff
  | _ => true

/-- A call that would create a node does not find its name missing while another one is
about to create a node. -/
def exclusive (state : State) : Action → Bool
  | .proceed index =>
      match state.calls[index]? with
      | none => true
      | some call => call.position ≠ .children || !call.create || listed state.nodes call.name ||
          state.calls.all fun other => !other.position.allocating
  | _ => true

/-- What is true of a call. -/
def Sound (state : State) (call : Call) : Prop :=
  (call.create = true → plain accepts call.name = true) ∧
  match call.position with
  | .children | .done => True
  | .fetch => listed state.nodes call.name = true
  | .readCounter => call.create = true ∧ state.nodes call.name = none
  | .writeCounter id => call.create = true ∧ state.nodes call.name = none ∧
      id = state.counter ∧ id < 0xffff
  | .createNode id => call.create = true ∧ state.nodes call.name = none ∧
      id.toNat < state.counter.toNat ∧ ∀ other, state.nodes other ≠ some id

/-- The nodes have different ids below the number in the directory, and what processes know
is what the nodes say. -/
structure Consistent (state : State) : Prop where
  intact : state.failed = false
  bounded : state.counter.toNat ≤ 0xffff
  below : ∀ name id, state.nodes name = some id → id.toNat < state.counter.toNat
  unique : ∀ name other id, state.nodes name = some id → state.nodes other = some id →
    name = other
  cached : ∀ process name id, state.caches process name = some id → state.nodes name = some id
  answered : ∀ name id, (name, id) ∈ state.answers → state.nodes name = some id

/-- What is true in every state. -/
structure Invariant (state : State) : Prop where
  consistent : Consistent state
  sound : ∀ (index : Nat) call, state.calls[index]? = some call → Sound accepts state call
  single : ∀ (first second : Nat) call other, state.calls[first]? = some call →
    state.calls[second]? = some other → call.position.allocating = true →
    other.position.allocating = true → first = second

variable {accepts}

variable {state : State} {index : Nat}

/-- A call that does not allocate only minds that its node stays. -/
theorem Sound.frame {next : State} {call : Call} (sound : Sound accepts state call)
    (idle : call.position.allocating = false)
    (stay : ∀ name, (state.nodes name).isSome = true → (next.nodes name).isSome = true) :
    Sound accepts next call := by
  refine ⟨sound.1, ?_⟩
  have before := sound.2
  cases standing : call.position with rw [standing] at idle
  | children | done => trivial
  | fetch =>
    simp only [standing, listed, Bool.and_eq_true] at before ⊢
    exact ⟨before.1, stay _ before.2⟩
  | readCounter | writeCounter | createNode =>
    cases idle

/-- A call is replaced by a later stage of it. -/
theorem Invariant.replace {next : State} {call updated : Call} (kept : Invariant accepts state)
    (found : state.calls[index]? = some call) (calls : next.calls = state.calls.set index updated)
    (consistent : Consistent next) (sound : Sound accepts next updated)
    (others : ∀ (place : Nat) other, place ≠ index → state.calls[place]? = some other →
      Sound accepts next other)
    (only : updated.position.allocating = true → ∀ (place : Nat) other, place ≠ index →
      state.calls[place]? = some other → other.position.allocating = false) :
    Invariant accepts next := by
  have places : ∀ (place : Nat) other, next.calls[place]? = some other →
      (place = index ∧ other = updated) ∨ (place ≠ index ∧ state.calls[place]? = some other) := by
    intro place other
    rw [calls]
    exact (Places.set_place updated found place other).mp
  refine ⟨consistent, fun place other present => ?_, ?_⟩
  · rcases places place other present with ⟨-, rfl⟩ | ⟨different, old⟩
    · exact sound
    · exact others place other different old
  · intro first second one another present present' allocates allocates'
    rcases places first one present with ⟨rfl, rfl⟩ | ⟨different, old⟩
    · rcases places second another present' with ⟨rfl, -⟩ | ⟨different', old'⟩
      · rfl
      · rw [only allocates second another different' old'] at allocates'
        cases allocates'
    · rcases places second another present' with ⟨rfl, rfl⟩ | ⟨different', old'⟩
      · rw [only allocates' first one different old] at allocates
        cases allocates
      · exact kept.single first second one another old old' allocates allocates'

theorem Invariant.alone {call : Call} (kept : Invariant accepts state)
    (found : state.calls[index]? = some call) (allocates : call.position.allocating = true)
    (place : Nat) (other : Call) (different : place ≠ index)
    (present : state.calls[place]? = some other) :
    other.position.allocating = false := by
  rw [Bool.eq_false_iff]
  intro too
  exact different (kept.single place index other call present found too allocates)

/-- The nodes and the number stay as they are, and a call moves on. -/
theorem Invariant.move {call : Call} (kept : Invariant accepts state)
    (found : state.calls[index]? = some call) (position : Position)
    (sound : Sound accepts state { call with position := position })
    (only : position.allocating = true → ∀ (place : Nat) other, place ≠ index →
      state.calls[place]? = some other → other.position.allocating = false) :
    Invariant accepts (move state index call position) :=
  kept.replace found rfl
    ⟨kept.consistent.intact, kept.consistent.bounded, kept.consistent.below,
      kept.consistent.unique, kept.consistent.cached, kept.consistent.answered⟩
    sound (fun place other _ present => kept.sound place other present) only

/-- The results say what the nodes say. -/
theorem report_answered (consistent : Consistent state) (name : Name) (create : Bool)
    (id : UInt16) (node : create = true → state.nodes name = some id) :
    ∀ other known, (other, known) ∈ report state name create id →
      state.nodes other = some known := by
  intro other known member
  cases create with
  | false => exact consistent.answered other known member
  | true =>
    rcases List.mem_append.mp member with old | new
    · exact consistent.answered other known old
    · obtain ⟨rfl, rfl⟩ := Prod.mk.inj (List.mem_singleton.mp new)
      exact node rfl

/-- A call returns what its node says. -/
theorem Invariant.finish {call : Call} (kept : Invariant accepts state)
    (found : state.calls[index]? = some call) (id : UInt16)
    (node : call.create = true → state.nodes call.name = some id) :
    Invariant accepts (finish state index call id) :=
  kept.replace found rfl
    ⟨kept.consistent.intact, kept.consistent.bounded, kept.consistent.below,
      kept.consistent.unique, kept.consistent.cached,
      report_answered kept.consistent call.name call.create id node⟩
    ⟨(kept.sound index call found).1, trivial⟩
    (fun place other _ present => kept.sound place other present)
    (fun allocates => by cases allocates)

/-- The number in the directory is increased. -/
theorem Invariant.increased {call : Call} {id : UInt32} (kept : Invariant accepts state)
    (found : state.calls[index]? = some call) (standing : call.position = .writeCounter id) :
    Invariant accepts { ModuleIds.move state index call (.createNode id.toUInt16) with
      counter := id + 1 } := by
  obtain ⟨named, here⟩ := kept.sound index call found
  rw [standing] at here
  obtain ⟨creates, missing, rfl, small⟩ := here
  have small : state.counter.toNat < 0xffff := small
  have increased : (state.counter + 1).toNat = state.counter.toNat + 1 := by
    rw [UInt32.toNat_add, UInt32.toNat_one]
    omega
  have narrow : state.counter.toUInt16.toNat = state.counter.toNat := by
    rw [UInt32.toNat_toUInt16]
    omega
  have others := kept.alone found (by rw [standing]; rfl)
  apply kept.replace found rfl
  · exact {
      kept.consistent with
      bounded := by
        dsimp only
        omega
      below := fun name known present => by
        have old := kept.consistent.below name known present
        dsimp only
        omega }
  · refine ⟨named, creates, missing, ?_, fun other present => ?_⟩
    · dsimp only
      omega
    · have old := kept.consistent.below other _ present
      omega
  · intro place other different present
    exact (kept.sound place other present).frame (others place other different present)
      fun _ present => present
  · exact fun _ => others

/-- A child is created. -/
theorem Invariant.created {call : Call} {id : UInt16} (kept : Invariant accepts state)
    (found : state.calls[index]? = some call) (standing : call.position = .createNode id) :
    Invariant accepts { ModuleIds.finish state index call id with
      nodes := Function.update state.nodes call.name (some id)
      caches := remember state.caches call.process call.name id } := by
  obtain ⟨named, here⟩ := kept.sound index call found
  rw [standing] at here
  obtain ⟨creates, missing, below, fresh⟩ := here
  have others := kept.alone found (by rw [standing]; rfl)
  -- A node that was there before has another name.
  have stays : ∀ name known, state.nodes name = some known →
      Function.update state.nodes call.name (some id) name = some known := by
    intro name known present
    have different : name ≠ call.name := by
      rintro rfl
      rw [missing] at present
      cases present
    rw [Function.update_of_ne different, present]
  have nodes : ∀ name known, Function.update state.nodes call.name (some id) name = some known →
      (name = call.name ∧ known = id) ∨ state.nodes name = some known := by
    intro name known present
    by_cases same : name = call.name
    · rw [same, Function.update_self] at present
      exact Or.inl ⟨same, (Option.some.inj present).symm⟩
    · rw [Function.update_of_ne same] at present
      exact Or.inr present
  apply kept.replace found rfl
  · refine ⟨kept.consistent.intact, kept.consistent.bounded, ?_, ?_, ?_, ?_⟩
    · intro name known present
      rcases nodes name known present with ⟨-, rfl⟩ | old
      · exact below
      · exact kept.consistent.below name known old
    · intro name other known present present'
      rcases nodes name known present with ⟨rfl, rfl⟩ | old
      · rcases nodes other _ present' with ⟨rfl, -⟩ | old'
        · rfl
        · exact absurd old' (fresh other)
      · rcases nodes other known present' with ⟨rfl, rfl⟩ | old'
        · exact absurd old (fresh name)
        · exact kept.consistent.unique name other known old old'
    · intro process name known present
      simp only [remember] at present
      split at present
      · rename_i same
        obtain ⟨rfl, rfl⟩ := same
        cases before : state.caches call.process call.name with
        | none =>
          rw [before] at present
          rw [← Option.some.inj present]
          exact Function.update_self _ _ _
        | some cached =>
          have node := kept.consistent.cached _ _ _ before
          rw [missing] at node
          cases node
      · exact stays name known (kept.consistent.cached process name known present)
    · intro name known member
      simp only [ModuleIds.finish, report, creates, if_true] at member
      rcases List.mem_append.mp member with old | new
      · exact stays name known (kept.consistent.answered name known old)
      · obtain ⟨rfl, rfl⟩ := Prod.mk.inj (List.mem_singleton.mp new)
        exact Function.update_self _ _ _
  · exact ⟨named, trivial⟩
  · intro place other different present
    apply (kept.sound place other present).frame (others place other different present)
    intro name there
    obtain ⟨known, node⟩ := Option.isSome_iff_exists.mp there
    exact Option.isSome_iff_exists.mpr ⟨known, stays name known node⟩
  · intro allocates
    cases allocates

theorem listed_plain {nodes : Name → Option UInt16} {name : Name} (single : plain accepts name = true)
    (unlisted : ¬ listed nodes name = true) : nodes name = none := by
  simp only [plain, Bool.and_eq_true] at single
  simp only [listed, single.1, Bool.true_and] at unlisted
  exact Option.not_isSome_iff_eq_none.mp unlisted

/-- Each operation of a call keeps the invariant. -/
theorem proceed_invariant (state next : State) (index : Nat) (call : Call)
    (kept : Invariant accepts state) (found : state.calls[index]? = some call)
    (fits : fitting accepts state (.proceed index) = true)
    (alone : exclusive state (.proceed index) = true)
    (stepped : proceed accepts state index call = some next) : Invariant accepts next := by
  have sound := kept.sound index call found
  obtain ⟨named, here⟩ := sound
  simp only [fitting, found] at fits
  simp only [exclusive, found] at alone
  unfold proceed at stepped
  split at stepped
  · rename_i standing
    split at stepped
    · rename_i present
      cases stepped
      apply kept.move found
      · exact ⟨named, present⟩
      · intro allocates
        cases allocates
    · rename_i unlisted
      split at stepped <;> cases stepped
      · rename_i creates
        rw [Bool.not_eq_true] at unlisted
        simp only [standing, creates, unlisted, ne_eq, not_true_eq_false, decide_false,
          Bool.not_true, Bool.false_or, List.all_eq_true, Bool.not_eq_true'] at alone
        apply kept.move found
        · exact ⟨named, creates, listed_plain (named creates) (by
            rw [unlisted]
            exact Bool.false_ne_true)⟩
        · intro _ place other _ present
          exact alone other (List.mem_of_getElem? present)
      · rename_i reads
        apply kept.finish found
        intro creates
        exact absurd creates reads
  · rename_i standing
    rw [standing] at here
    simp only [listed, Bool.and_eq_true] at here
    obtain ⟨id, node⟩ := Option.isSome_iff_exists.mp here.2
    have valid : id ≠ invalidId := by
      rintro rfl
      have below := kept.consistent.below _ _ node
      have bounded := kept.consistent.bounded
      have value : invalidId.toNat = 0xffff := by decide
      omega
    simp only [node, valid, false_and, if_false] at stepped
    cases stepped
    exact kept.finish found id fun _ => node
  · rename_i standing
    rw [standing] at here
    simp only [standing, ne_eq, not_true_eq_false, decide_false, Bool.false_or,
      decide_eq_true_eq] at fits
    cases stepped
    apply kept.move found
    · exact ⟨named, here.1, here.2, rfl, fits⟩
    · exact fun _ => kept.alone found (by rw [standing]; rfl)
  · rename_i id standing
    cases stepped
    exact kept.increased found standing
  · rename_i id standing
    rw [standing] at here
    have single := named here.1
    have creates : zooCreates accepts state.nodes call.name = true := by
      simp only [plain, Bool.and_eq_true, decide_eq_true_eq] at single
      have filled : call.name ≠ [] := by
        intro empty
        rw [empty] at single
        cases single.1
      simp [zooCreates, single.1, single.2, here.2.1, filled]
    rw [if_pos creates] at stepped
    cases stepped
    exact kept.created found standing
  · cases stepped

/-- A call is made. -/
theorem Invariant.called {next : State} {call : Call} (kept : Invariant accepts state)
    (calls : next.calls = state.calls ++ [call]) (nodes : next.nodes = state.nodes)
    (counter : next.counter = state.counter) (consistent : Consistent next)
    (sound : Sound accepts next call) (idle : call.position.allocating = false) :
    Invariant accepts next := by
  have places : ∀ (place : Nat) other, next.calls[place]? = some other →
      state.calls[place]? = some other ∨ place = state.calls.length ∧ other = call := by
    intro place other
    rw [calls]
    exact (Places.append_place state.calls call place other).mp
  refine ⟨consistent, fun place other present => ?_, ?_⟩
  · rcases places place other present with old | ⟨-, rfl⟩
    · have before := kept.sound place other old
      unfold Sound at before ⊢
      rw [nodes, counter]
      exact before
    · exact sound
  · intro first second one another present present' allocates allocates'
    rcases places first one present with old | ⟨-, rfl⟩
    · rcases places second another present' with old' | ⟨-, rfl⟩
      · exact kept.single first second one another old old' allocates allocates'
      · rw [idle] at allocates'
        cases allocates'
    · rw [idle] at allocates
      cases allocates

/-- Every step that fits and is exclusive keeps the invariant. -/
theorem step_invariant (state : State) (action : Action) (next : State)
    (kept : Invariant accepts state)
    (allowed : fitting accepts state action = true ∧ exclusive state action = true)
    (stepped : step accepts state action = some next) : Invariant accepts next := by
  obtain ⟨fits, alone⟩ := allowed
  cases action with
  | lock | unlock =>
    simp only [step] at stepped
    split at stepped <;> cases stepped
    exact ⟨{ kept.consistent with }, kept.sound, kept.single⟩
  | call process _ name create =>
    have named : create = true → plain accepts name = true := by
      intro creates
      simpa [fitting, creates] using fits
    simp only [step] at stepped
    split at stepped
    · cases stepped
    · split at stepped <;> cases stepped
      · rename_i id cached
        have answered := report_answered kept.consistent name create id
          fun _ => kept.consistent.cached process name id cached
        exact kept.called rfl rfl rfl { kept.consistent with answered := answered }
          ⟨named, trivial⟩ rfl
      · exact kept.called rfl rfl rfl { kept.consistent with } ⟨named, trivial⟩ rfl
  | proceed index =>
    simp only [step] at stepped
    split at stepped
    · cases stepped
    · rename_i call found
      exact proceed_invariant state next index call kept found fits alone stepped

/-- Nothing has been registered. -/
theorem start_invariant : Invariant accepts start := by
  refine ⟨⟨rfl, by decide, ?_, ?_, ?_, ?_⟩, ?_, ?_⟩
  · intro name id present
    cases present
  · intro name other id present
    cases present
  · intro process name id present
    cases present
  · intro name id member
    cases member
  · intro index call found
    cases found
  · intro first second call other found
    cases found

/-- The ids are unique and stable, and no assertion has failed. -/
structure Registered (state : State) : Prop where
  intact : state.failed = false
  unique : ∀ name other id id', (name, id) ∈ state.answers → (other, id') ∈ state.answers →
    (name = other ↔ id = id')

/-- What the invariant says about the results. -/
theorem Invariant.registered (kept : Invariant accepts state) :
    Registered state := by
  refine ⟨kept.consistent.intact, fun name other id id' member member' => ?_⟩
  have node := kept.consistent.answered name id member
  have node' := kept.consistent.answered other id' member'
  constructor
  · rintro rfl
    exact Option.some.inj (node.symm.trans node')
  · rintro rfl
    exact kept.consistent.unique name other id node node'

end

/-- In every run of any processes whose steps fit and are exclusive, different names have
different ids, one name has one id, and `zoo_create` succeeds. -/
theorem run_registers (accepts : String → Bool) (schedule : List Action) (final : State)
    (allowed : Runs.Along (step accepts)
      (fun state action => fitting accepts state action = true ∧ exclusive state action = true)
      start schedule)
    (executed : Runs.run (step accepts) start schedule = some final) : Registered final :=
  (Runs.run_preserves (step accepts) _ (Invariant accepts) step_invariant start final schedule
    start_invariant allowed executed).registered

/-- Calls are made by `load_all` only. -/
def loading : Action → Bool
  | .call _ loader _ _ => loader
  | _ => true

/-- All calls are those of loaders, and at most one has not returned. -/
structure Sequential (state : State) : Prop where
  loaders : ∀ call ∈ state.calls, call.loader = true
  single : ∀ (first second : Nat) call other, state.calls[first]? = some call →
    state.calls[second]? = some other → call.position ≠ .done → other.position ≠ .done →
    first = second

/-- An operation of a call changes this call only. -/
theorem proceed_calls {accepts : String → Bool} {state next : State} {index : Nat} {call : Call}
    (stepped : proceed accepts state index call = some next) :
    call.position ≠ .done ∧
      ∃ position, next.calls = state.calls.set index { call with position := position } := by
  unfold proceed at stepped
  constructor
  · intro done
    rw [done] at stepped
    cases stepped
  · repeat' split at stepped
    all_goals cases stepped
    all_goals exact ⟨_, rfl⟩

/-- The lock keeps the calls of loaders apart. -/
theorem step_sequential {accepts : String → Bool} {state : State} {action : Action} {next : State}
    (kept : Sequential state) (loads : loading action = true)
    (stepped : step accepts state action = some next) : Sequential next := by
  cases action with simp only [step] at stepped
  | lock | unlock =>
    split at stepped <;> cases stepped
    exact { kept with }
  | call process loader name create =>
    have loads : loader = true := loads
    subst loads
    simp only [step, Bool.true_and] at stepped
    split at stepped
    · cases stepped
    · rename_i enabled
      simp only [Bool.not_eq_true', Bool.not_eq_false, Bool.and_eq_true, loaderIdle,
        List.all_eq_true, Bool.or_eq_true, decide_eq_true_eq] at enabled
      have returned : ∀ call ∈ state.calls, call.position = .done := by
        intro call member
        rcases enabled.2 call member with notLoader | done
        · rw [kept.loaders call member] at notLoader
          cases notLoader
        · exact done
      have added : ∃ position, next.calls = state.calls ++ [⟨process, true, name, create, position⟩] := by
        split at stepped
        all_goals
          cases stepped
          exact ⟨_, rfl⟩
      obtain ⟨position, calls⟩ := added
      have last : ∀ (place : Nat) other, next.calls[place]? = some other →
          other.position ≠ .done → place = state.calls.length := by
        intro place other present unfinished
        rw [calls, Places.append_place] at present
        rcases present with old | ⟨behind, -⟩
        · exact absurd (returned other (List.mem_of_getElem? old)) unfinished
        · exact behind
      refine ⟨fun call member => ?_, ?_⟩
      · rw [calls] at member
        rcases List.mem_append.mp member with old | new
        · exact kept.loaders call old
        · rw [List.mem_singleton.mp new]
      · intro first second one another present present' unfinished unfinished'
        rw [last first one present unfinished, last second another present' unfinished']
  | proceed index =>
    split at stepped
    · cases stepped
    · rename_i call found
      obtain ⟨unfinished, position, calls⟩ := proceed_calls stepped
      refine ⟨fun other member => ?_, ?_⟩
      · rw [calls] at member
        rcases List.mem_or_eq_of_mem_set member with old | rfl
        · exact kept.loaders other old
        · exact kept.loaders call (List.mem_of_getElem? found)
      · intro first second one another present present' unfinished' unfinished''
        have atIndex : ∀ (place : Nat) other, next.calls[place]? = some other →
            other.position ≠ .done → place = index := by
          intro place other present pending
          rw [calls, Places.set_place _ found] at present
          rcases present with ⟨here, -⟩ | ⟨-, old⟩
          · exact here
          · exact kept.single place index other call old found pending unfinished
        rw [atIndex first one present unfinished', atIndex second another present' unfinished'']

/-- Under the lock a call is never beside another one. -/
theorem sequential_exclusive {state : State} (action : Action) (kept : Sequential state) :
    exclusive state action = true := by
  cases action with
  | proceed index =>
    simp only [exclusive]
    split
    · rfl
    · rename_i call found
      by_cases standing : call.position = .children
      · have idle : ∀ other ∈ state.calls, (!other.position.allocating) = true := by
          intro other member
          obtain ⟨place, present⟩ := List.getElem?_of_mem member
          cases allocates : other.position.allocating with
          | false => rfl
          | true =>
            have same := kept.single place index other call present found
              (fun done => by rw [done] at allocates; cases allocates)
              (fun done => by rw [done] at standing; cases standing)
            rw [same, found] at present
            rw [← Option.some.inj present, standing] at allocates
            cases allocates
        simp [List.all_eq_true.mpr idle]
      · simp [standing]
  | _ => rfl

/-- ZooKeeper takes every part that is not empty. -/
def filled (part : String) : Bool := part ≠ ""

/-- Two processes register three names one after another, under the lock and without, and one
of the names twice. -/
def inTurn : List Action :=
  [.lock, .call 0 true ["a"] true, .proceed 0, .proceed 0, .proceed 0, .proceed 0,
    .call 0 true ["b"] true, .proceed 1, .proceed 1, .proceed 1, .proceed 1, .unlock,
    .call 1 false ["a"] true, .proceed 2, .proceed 2, .call 1 false ["c"] true, .proceed 3,
    .proceed 3, .proceed 3, .proceed 3, .call 1 false ["c"] true]

theorem inTurn_completes : (Runs.run (step filled) start inTurn).isSome := by decide +kernel

/-- Each name has its id in both processes. -/
theorem run_registers_in_turn :
    ∃ final, Runs.run (step filled) start inTurn = some final ∧
      final.answers = [(["a"], 0), (["b"], 1), (["a"], 0), (["c"], 2), (["c"], 2)] ∧
      Registered final := by
  refine ⟨Option.get _ inTurn_completes, (Option.some_get _).symm, ?_, ?_⟩
  · decide +kernel
  · apply run_registers filled inTurn _ ?_ (Option.some_get _).symm
    decide +kernel

/-- A module in one process asks for the id of "b" while a loader in another one, under the
lock, registers "a". Both have read the number before one of them increases it. -/
def sameNumber : List Action :=
  [.lock, .call 0 true ["a"] true, .call 1 false ["b"] true, .proceed 0, .proceed 1, .proceed 0,
    .proceed 1, .proceed 0, .proceed 1, .proceed 0, .proceed 1]

/-- Both register "a", and have looked before one of them creates it. -/
def sameName : List Action :=
  [.lock, .call 0 true ["a"] true, .call 1 false ["a"] true, .proceed 0, .proceed 1, .proceed 0,
    .proceed 0, .proceed 0, .proceed 1, .proceed 1, .proceed 1]

theorem sameNumber_completes : (Runs.run (step filled) start sameNumber).isSome := by
  decide +kernel

theorem sameName_completes : (Runs.run (step filled) start sameName).isSome := by
  decide +kernel

/-- Two names have the same id, or the assertion on the result of `zoo_create` fails. -/
theorem registrations_collide :
    (∃ final, Runs.run (step filled) start sameNumber = some final ∧
      final.answers = [(["a"], 0), (["b"], 0)] ∧ ¬ Registered final) ∧
    (∃ final, Runs.run (step filled) start sameName = some final ∧
      final.answers = [(["a"], 0)] ∧ final.failed = true) := by
  constructor
  · have answers : (Option.get _ sameNumber_completes).answers = [(["a"], 0), (["b"], 0)] := by
      decide +kernel
    refine ⟨Option.get _ sameNumber_completes, (Option.some_get _).symm, answers, fun right => ?_⟩
    have same := (right.unique ["a"] ["b"] 0 0 (by rw [answers]; decide)
      (by rw [answers]; decide)).mpr rfl
    exact absurd same (by decide)
  · refine ⟨Option.get _ sameName_completes, (Option.some_get _).symm, ?_, ?_⟩
    · decide +kernel
    · decide +kernel

end Mola.ModuleIds
