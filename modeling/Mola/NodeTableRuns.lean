import Mola.NodeTable

/-!
# Deleted nodes are not served again

The invariant says of every object whose `delete_node` has returned that a cache can still
refer to it only while the flag of that cache is down. A flag is raised by the owner of the
cache alone, who has emptied the map before, so an invalidation that is overwritten in
between is one of an empty map. Whatever enters a map afterwards was found under `m_lock`
in the table, where an erased object does not come back: only objects that `_find_node`
has just made are inserted.

`Sound` says this of one thread at the place where it stands, and `Invariant` of the whole
state. Every change of a single component keeps the invariant under a condition of its
own; a step is such changes followed by a move of its thread.
-/

namespace Mola.NodeTable

variable {state : State} {thread : Nat} {position : Position} {node : Node}

/-- What a cached value refers to, the cache refers to. -/
theorem Cache.find_objects {cache : Cache} {key : Nat} (found : node ∈ cache.find key) :
    node.object ∈ cache.objects := by
  unfold Cache.find at found
  cases looked : cache.entries.lookup key with
  | none => rw [looked] at found; cases found
  | some nodes =>
    rw [looked] at found
    have member : (key, nodes) ∈ cache.entries := by
      obtain ⟨first, second, split, -⟩ := List.lookup_eq_some_iff.mp looked
      rw [split]
      exact List.mem_append_right _ List.mem_cons_self
    exact List.mem_flatMap.mpr ⟨(key, nodes), member, List.mem_map_of_mem found⟩

theorem Cache.insert_objects {cache : Cache} {key : Nat} {nodes : List Node} {object : Nat}
    (present : object ∈ (cache.insert key nodes).objects) :
    object ∈ nodes.map Node.object ∨ object ∈ cache.objects := by
  unfold Cache.insert at present
  split at present
  · exact Or.inr present
  · exact List.mem_append.mp present

theorem Cache.insert_valid (cache : Cache) (key : Nat) (nodes : List Node) :
    (cache.insert key nodes).valid = cache.valid := by
  unfold Cache.insert
  split <;> rfl

/-- A table after an insertion: the old one, or the old one with the node. -/
theorem mem_insertNode {alive : List Node} {other : Node} (member : other ∈ insertNode alive node) :
    other = node ∨ other ∈ alive := by
  unfold insertNode at member
  split at member
  · exact Or.inr member
  · exact (List.mem_orderedInsert _).mp member

/-- An insertion of a new object keeps the objects of a table apart. -/
theorem insertNode_nodup {alive : List Node} (unique : (alive.map Node.object).Nodup)
    (absent : node.object ∉ alive.map Node.object) :
    ((insertNode alive node).map Node.object).Nodup := by
  unfold insertNode
  split
  · exact unique
  · have order := (List.perm_orderedInsert
      (fun first second : Node => first.id ≤ second.id) node alive).map Node.object
    exact order.nodup_iff.mpr (List.nodup_cons.mpr ⟨absent, unique⟩)

/-- The node that a thread has fetched and not yet inserted. -/
def held : Position → Option Node
  | .compare _ node _ _ | .insert _ node _ | .compareOne node | .insertOne node => some node
  | _ => none

/-- A position in a lookup, or in what a lookup has called. -/
def looking : Position → Bool
  | .idle | .erase _ | .done _ | .invalidate (.deleted _) _ => false
  | .children caller | .fetch caller _ _ | .compare caller _ _ _ | .insert caller _ _
  | .trigger caller | .invalidate (.synced caller) _ => caller.isSome
  | _ => true

/-- A position in the critical section of a lookup. -/
def holds : Position → Bool
  | .load _ | .find _ | .clear _ | .store _ | .lock _ => false
  | position => looking position

/-- An object that nothing but its thread refers to. -/
def Fresh (state : State) (node : Node) : Prop :=
  node.object < state.created ∧ node.object ∉ state.erased ∧
    node.object ∉ state.alive.map Node.object

/-- A cache does not serve an object. -/
def Flushed (state : State) (object worker : Nat) (kind : Kind) : Prop :=
  object ∈ (state.caches worker kind).objects → (state.caches worker kind).valid = false

/-- What is known at some of the positions. -/
def Special (state : State) (thread : Nat) : Position → Prop
  | .find what => ∀ object ∈ state.barred thread, object ∉ (state.caches thread what.kind).objects
  | .store what => (state.caches thread what.kind).entries = []
  | .keep _ nodes => ∀ node ∈ nodes, node.object ∉ state.erased
  | .compare _ node _ _ | .insert _ node _ | .compareOne node | .insertOne node =>
      Fresh state node
  | .invalidate (.deleted objects) caches =>
      ∀ object ∈ objects, object ∈ state.erased ∧
        ∀ worker kind, (worker, kind) ∉ caches → Flushed state object worker kind
  | _ => True

/-- What is known of a thread at its position. -/
structure Sound (state : State) (thread : Nat) (position : Position) : Prop where
  worker : looking position = true → thread < state.workers
  holder : holds position = true → state.lock = some thread
  special : Special state thread position

/-- What every run keeps. -/
structure Invariant (state : State) : Prop where
  sound : ∀ thread, Sound state thread (state.threads thread)
  apart : ∀ first second node other, held (state.threads first) = some node →
    held (state.threads second) = some other → node.object = other.object → first = second
  alive : ∀ node ∈ state.alive, node.object < state.created ∧ node.object ∉ state.erased
  unique : (state.alive.map Node.object).Nodup
  old : ∀ object ∈ state.erased, object < state.created
  unused : ∀ worker kind, state.workers ≤ worker → (state.caches worker kind).entries = []
  flushed : ∀ object ∈ state.gone, ∀ worker kind, Flushed state object worker kind
  gone : ∀ object ∈ state.gone, object ∈ state.erased
  barred : ∀ thread, ∀ object ∈ state.barred thread, object ∈ state.gone
  answers : ∀ answer ∈ state.answers, ∀ node ∈ answer.nodes, node.object ∉ answer.barred

/-- The invariant holds at the start. -/
theorem start_invariant (workers localId : Nat) (info : Info) :
    Invariant (start workers localId info) where
  sound := fun _ => ⟨Bool.noConfusion, Bool.noConfusion, trivial⟩
  apart := fun _ _ _ _ h => by cases h
  alive := fun node member => by
    rw [List.mem_singleton.mp member]
    exact ⟨Nat.one_pos, List.not_mem_nil⟩
  unique := List.nodup_singleton _
  old := fun _ h => by cases h
  unused := fun _ _ _ => rfl
  flushed := fun _ h => by cases h
  gone := fun _ h => by cases h
  barred := fun _ _ h => by cases h
  answers := fun _ h => by cases h

/-- What is known at a position survives a change that spares what the position is
about. -/
theorem Special.transfer {next : State} (special : Special state thread position)
    (finds : ∀ what, position = .find what →
      (∀ object ∈ state.barred thread, object ∉ (state.caches thread what.kind).objects) →
      ∀ object ∈ next.barred thread, object ∉ (next.caches thread what.kind).objects)
    (stores : ∀ what, position = .store what → (state.caches thread what.kind).entries = [] →
      (next.caches thread what.kind).entries = [])
    (keeps : ∀ what nodes, position = .keep what nodes →
      (∀ node ∈ nodes, node.object ∉ state.erased) → ∀ node ∈ nodes, node.object ∉ next.erased)
    (fresh : ∀ node, held position = some node → Fresh state node → Fresh next node)
    (erased : ∀ object ∈ state.erased, object ∈ next.erased)
    (flushed : ∀ object ∈ state.erased, ∀ worker kind, Flushed state object worker kind →
      Flushed next object worker kind) : Special next thread position := by
  cases position with
  | find what => exact finds what rfl special
  | store what => exact stores what rfl special
  | keep what nodes => exact keeps what nodes rfl special
  | compare _ node | insert _ node | compareOne node | insertOne node =>
    exact fresh node rfl special
  | invalidate ending =>
    cases ending with
    | synced => trivial
    | deleted =>
      intro object member
      obtain ⟨known, reached⟩ := special object member
      exact ⟨erased object known, fun worker kind past =>
        flushed object known worker kind (reached worker kind past)⟩
  | _ => trivial

theorem Special.fresh (special : Special state thread position) (node : Node)
    (holding : held position = some node) : Fresh state node := by
  cases position with
  | compare | insert | compareOne | insertOne => exact Option.some.inj holding ▸ special
  | _ => cases holding

/-- A thread moves to a position at which it knows enough. -/
theorem goto_invariant (kept : Invariant state) (sound : Sound state thread position)
    (apart : ∀ other node node', other ≠ thread → held position = some node →
      held (state.threads other) = some node' → node.object ≠ node'.object) :
    Invariant (goto state thread position) := by
  have moved : ∀ other,
      Sound state other (Function.update state.threads thread position other) :=
    (Function.forall_update_iff state.threads fun other => Sound state other).mpr
      ⟨sound, fun other _ => kept.sound other⟩
  refine { kept with
    sound := fun other => ⟨(moved other).worker, (moved other).holder, (moved other).special⟩
    apart := ?_ }
  intro first second node node' firstHolds secondHolds equal
  simp only [goto] at firstHolds secondHolds
  by_cases one : first = thread
  · by_cases two : second = thread
    · rw [one, two]
    · rw [one, Function.update_self] at firstHolds
      rw [Function.update_of_ne two] at secondHolds
      exact absurd equal (apart second node node' two firstHolds secondHolds)
  · rw [Function.update_of_ne one] at firstHolds
    by_cases two : second = thread
    · rw [two, Function.update_self] at secondHolds
      exact absurd equal.symm (apart first node' node one secondHolds firstHolds)
    · rw [Function.update_of_ne two] at secondHolds
      exact kept.apart first second node node' firstHolds secondHolds equal

theorem move_invariant (kept : Invariant state) (sound : Sound state thread position)
    (empty : held position = none) : Invariant (goto state thread position) := by
  apply goto_invariant kept sound
  intro other node node' _ holding
  rw [empty] at holding
  cases holding

/-- A thread goes on inside its lookup, with nothing in its hands. -/
theorem pass_invariant {old : Position} (kept : Invariant state)
    (standing : state.threads thread = old) (worker : looking position = looking old)
    (holder : holds position = holds old) (special : Special state thread position)
    (empty : held position = none) : Invariant (goto state thread position) := by
  have before := kept.sound thread
  rw [standing] at before
  exact move_invariant kept ⟨worker ▸ before.worker, holder ▸ before.holder, special⟩ empty

/-- A thread goes to a position outside of lookups. -/
theorem leave_invariant (kept : Invariant state) (outside : looking position = false)
    (apart : holds position = false) (special : Special state thread position)
    (empty : held position = none) : Invariant (goto state thread position) :=
  move_invariant kept ⟨by simp [outside], by simp [apart], special⟩ empty

theorem carry_invariant (kept : Invariant state) (sound : Sound state thread position)
    (same : held position = held (state.threads thread)) :
    Invariant (goto state thread position) := by
  apply goto_invariant kept sound
  intro other node node' different holding otherHolds equal
  rw [same] at holding
  exact different (kept.apart thread other node node' holding otherHolds equal).symm

/-- After a cache was replaced, a cache is the new one or one of the others. -/
theorem setCache_cases (state : State) (worker : Nat) (kind : Kind) (cache : Cache)
    (property : Nat → Kind → Cache → Prop) (changed : property worker kind cache)
    (others : ∀ other otherKind, (other, otherKind) ≠ (worker, kind) →
      property other otherKind (state.caches other otherKind)) :
    ∀ other otherKind,
      property other otherKind ((setCache state worker kind cache).caches other otherKind) := by
  intro other otherKind
  simp only [setCache]
  by_cases one : other = worker
  · rw [one, Function.update_self]
    by_cases two : otherKind = kind
    · rw [two, Function.update_self]
      exact changed
    · rw [Function.update_of_ne two]
      exact others worker otherKind fun equal => two (Prod.mk.inj equal).2
  · rw [Function.update_of_ne one]
    exact others other otherKind fun equal => one (Prod.mk.inj equal).1

/-- A cache changes. Its new contents serve no erased object that the old ones did not
serve, and what its owner knows about it stays true. -/
theorem setCache_invariant {worker : Nat} {kind : Kind} {cache : Cache} (kept : Invariant state)
    (flushed : ∀ object ∈ state.erased, Flushed state object worker kind →
      object ∈ cache.objects → cache.valid = false)
    (finds : ∀ what, state.threads worker = .find what → what.kind = kind →
      ∀ object ∈ cache.objects, object ∈ (state.caches worker kind).objects)
    (stores : ∀ what, state.threads worker = .store what → what.kind = kind →
      (state.caches worker kind).entries = [] → cache.entries = [])
    (unused : state.workers ≤ worker → cache.entries = []) :
    Invariant (setCache state worker kind cache) := by
  have still : ∀ object ∈ state.erased, ∀ other otherKind, Flushed state object other otherKind →
      Flushed (setCache state worker kind cache) object other otherKind := by
    intro object known
    apply setCache_cases state worker kind cache (fun other otherKind value =>
      Flushed state object other otherKind → object ∈ value.objects → value.valid = false)
    · exact flushed object known
    · intro other otherKind _ served
      exact served
  refine { kept with sound := ?_, unused := ?_, flushed := ?_ }
  · intro thread
    have before := kept.sound thread
    refine ⟨before.worker, before.holder, before.special.transfer ?_ ?_ (fun _ _ _ h => h)
      (fun _ _ h => h) (fun _ h => h) still⟩
    · intro what at_ absent object member
      apply setCache_cases state worker kind cache (fun other otherKind value =>
        other = thread → otherKind = what.kind → object ∉ value.objects) _ _ _ _ rfl rfl
      · rintro rfl rfl present
        exact absent object member (finds what at_ rfl object present)
      · rintro other otherKind _ rfl rfl
        exact absent object member
    · intro what at_ empty
      apply setCache_cases state worker kind cache (fun other otherKind value =>
        other = thread → otherKind = what.kind → value.entries = []) _ _ _ _ rfl rfl
      · rintro rfl rfl
        exact stores what at_ rfl empty
      · rintro other otherKind _ rfl rfl
        exact empty
  · apply setCache_cases state worker kind cache (fun other _ value =>
      state.workers ≤ other → value.entries = [])
    · exact unused
    · intro other otherKind _
      exact kept.unused other otherKind
  · intro object member other otherKind
    exact still object (kept.gone object member) other otherKind
      (kept.flushed object member other otherKind)

theorem acquire_invariant (thread : Nat) (kept : Invariant state) (free : state.lock = none) :
    Invariant { state with lock := some thread } := by
  refine { kept with sound := fun other => ⟨(kept.sound other).worker, ?_,
    (kept.sound other).special⟩ }
  intro holding
  have owner := (kept.sound other).holder holding
  rw [free] at owner
  cases owner

theorem release_invariant (kept : Invariant state)
    (outside : ∀ thread, holds (state.threads thread) = false) :
    Invariant { state with lock := none } := by
  refine { kept with sound := fun other => ⟨(kept.sound other).worker, ?_,
    (kept.sound other).special⟩ }
  intro holding
  rw [outside other] at holding
  cases holding

/-- An object that no thread holds enters the table. -/
theorem insertNode_invariant (kept : Invariant state) (fresh : Fresh state node)
    (free : ∀ thread other, held (state.threads thread) = some other → other.object ≠ node.object) :
    Invariant { state with alive := insertNode state.alive node } := by
  refine { kept with sound := ?_, alive := ?_, unique := ?_ }
  · intro thread
    have before := kept.sound thread
    refine ⟨before.worker, before.holder, before.special.transfer (fun _ _ h => h)
      (fun _ _ h => h) (fun _ _ _ h => h) ?_ (fun _ h => h) (fun _ _ _ _ h => h)⟩
    intro other holding known
    refine ⟨known.1, known.2.1, fun member => ?_⟩
    obtain ⟨present, inside, same⟩ := List.mem_map.mp member
    rcases mem_insertNode inside with new | old
    · rw [new] at same
      exact free thread other holding same.symm
    · exact known.2.2 (List.mem_map.mpr ⟨present, old, same⟩)
  · intro other member
    rcases mem_insertNode member with new | old
    · rw [new]
      exact ⟨fresh.1, fresh.2.1⟩
    · exact kept.alive other old
  · exact insertNode_nodup kept.unique fresh.2.2

/-- A new object is numbered. -/
theorem created_invariant (kept : Invariant state) :
    Invariant { state with created := state.created + 1 } := by
  refine { kept with sound := ?_, alive := ?_, old := ?_ }
  · intro thread
    have before := kept.sound thread
    refine ⟨before.worker, before.holder, before.special.transfer (fun _ _ h => h)
      (fun _ _ h => h) (fun _ _ _ h => h) ?_ (fun _ h => h) (fun _ _ _ _ h => h)⟩
    intro node _ fresh
    exact ⟨Nat.lt_succ_of_lt fresh.1, fresh.2⟩
  · intro node member
    exact ⟨Nat.lt_succ_of_lt (kept.alive node member).1, (kept.alive node member).2⟩
  · intro object member
    exact Nat.lt_succ_of_lt (kept.old object member)

/-- Nodes leave the table while nobody is in a critical section. -/
theorem erase_invariant (id : Nat) (kept : Invariant state) (free : state.lock = none) :
    Invariant { state with
      alive := state.alive.filter fun node => node.id ≠ id
      erased := (state.alive.filter fun node => node.id = id).map Node.object ++
        state.erased } := by
  have removed : ∀ object ∈ (state.alive.filter fun node => node.id = id).map Node.object,
      ∃ node ∈ state.alive, node.id = id ∧ node.object = object := by
    intro object member
    obtain ⟨node, inside, same⟩ := List.mem_map.mp member
    obtain ⟨present, named⟩ := List.mem_filter.mp inside
    exact ⟨node, present, of_decide_eq_true named, same⟩
  refine { kept with sound := ?_, alive := ?_, unique := ?_, old := ?_, gone := ?_ }
  · intro thread
    have before := kept.sound thread
    refine ⟨before.worker, before.holder, before.special.transfer (fun _ _ h => h)
      (fun _ _ h => h) ?_ ?_ (fun _ h => List.mem_append_right _ h) (fun _ _ _ _ h => h)⟩
    · intro what nodes standing _
      have owner := before.holder (by rw [standing]; rfl)
      rw [free] at owner
      cases owner
    · intro node _ fresh
      refine ⟨fresh.1, fun member => ?_, fun member => ?_⟩
      · rcases List.mem_append.mp member with new | old
        · obtain ⟨other, present, -, same⟩ := removed _ new
          exact fresh.2.2 (List.mem_map.mpr ⟨other, present, same⟩)
        · exact fresh.2.1 old
      · obtain ⟨other, inside, same⟩ := List.mem_map.mp member
        exact fresh.2.2 (List.mem_map.mpr ⟨other, (List.mem_filter.mp inside).1, same⟩)
  · intro node member
    obtain ⟨present, named⟩ := List.mem_filter.mp member
    refine ⟨(kept.alive node present).1, fun erased => ?_⟩
    rcases List.mem_append.mp erased with new | old
    · obtain ⟨other, inside, same, equal⟩ := removed _ new
      have identical : other = node :=
        List.inj_on_of_nodup_map kept.unique inside present equal
      rw [identical] at same
      exact of_decide_eq_true named same
    · exact (kept.alive node present).2 old
  · exact kept.unique.sublist (List.filter_sublist.map Node.object)
  · intro object member
    rcases List.mem_append.mp member with new | old
    · obtain ⟨node, present, -, same⟩ := removed object new
      rw [← same]
      exact (kept.alive node present).1
    · exact kept.old object old
  · intro object member
    exact List.mem_append_right _ (kept.gone object member)

/-- A `delete_node` returns when no cache serves what it erased. -/
theorem gone_invariant {objects : List Nat} (kept : Invariant state)
    (known : ∀ object ∈ objects, object ∈ state.erased ∧
      ∀ worker kind, Flushed state object worker kind) :
    Invariant { state with gone := objects ++ state.gone } := by
  refine { kept with
    sound := fun thread => ⟨(kept.sound thread).worker, (kept.sound thread).holder,
      (kept.sound thread).special⟩
    flushed := ?_, gone := ?_, barred := ?_ }
  · intro object member
    rcases List.mem_append.mp member with new | old
    · exact (known object new).2
    · exact kept.flushed object old
  · intro object member
    rcases List.mem_append.mp member with new | old
    · exact (known object new).1
    · exact kept.gone object old
  · intro thread object member
    exact List.mem_append_right _ (kept.barred thread object member)

/-- A lookup starts, and what is gone by then is barred. -/
theorem barred_invariant (kept : Invariant state)
    (elsewhere : ∀ what, state.threads thread ≠ .find what) :
    Invariant { state with barred := Function.update state.barred thread state.gone } := by
  refine { kept with sound := ?_, barred := ?_ }
  · intro other
    have before := kept.sound other
    refine ⟨before.worker, before.holder, before.special.transfer ?_ (fun _ _ h => h)
      (fun _ _ _ h => h) (fun _ _ h => h) (fun _ h => h) (fun _ _ _ _ h => h)⟩
    intro what standing absent object member
    by_cases same : other = thread
    · rw [same] at standing
      exact absurd standing (elsewhere what)
    · simp only [Function.update_of_ne same] at member
      exact absent object member
  · intro other object member
    by_cases same : other = thread
    · simp only [same, Function.update_self] at member
      exact member
    · simp only [Function.update_of_ne same] at member
      exact kept.barred other object member

/-- A lookup returns nodes that are not barred. -/
theorem giveBack_invariant {nodes : List Node} (kept : Invariant state)
    (right : ∀ node ∈ nodes, node.object ∉ state.barred thread) :
    Invariant (giveBack state thread nodes) := by
  have moved : Invariant (goto state thread (.done nodes)) :=
    leave_invariant kept rfl rfl trivial rfl
  refine { moved with
    sound := fun other => ⟨(moved.sound other).worker, (moved.sound other).holder,
      (moved.sound other).special⟩
    answers := ?_ }
  intro answer member
  rcases List.mem_cons.mp member with new | old
  · rw [new]
    exact right
  · exact moved.answers answer old

/-- A lookup empties its cache. -/
theorem clear_invariant {what : Lookup} (kept : Invariant state)
    (standing : state.threads thread = .clear what) :
    Invariant (goto (setCache state thread what.kind
      { state.caches thread what.kind with entries := [] }) thread (.store what)) := by
  refine pass_invariant (setCache_invariant kept ?_ ?_ ?_ fun _ => rfl) standing rfl rfl ?_ rfl
  · intro object _ _ present
    cases present
  · intro _ _ _ object present
    cases present
  · intro _ _ _ _
    rfl
  · simp [Special, setCache]

/-- A lookup raises the flag of its empty cache. -/
theorem store_invariant {what : Lookup} (kept : Invariant state)
    (standing : state.threads thread = .store what) :
    Invariant (goto (setCache state thread what.kind
      { state.caches thread what.kind with valid := true }) thread (.lock what)) := by
  have before := kept.sound thread
  rw [standing] at before
  have empty : (state.caches thread what.kind).entries = [] := before.special
  refine pass_invariant (setCache_invariant kept ?_ ?_ (fun _ _ _ _ => empty) fun _ => empty)
    standing rfl rfl trivial rfl
  · intro object _ _ present
    simp [Cache.objects, empty] at present
  · intro other elsewhere
    rw [standing] at elsewhere
    cases elsewhere

/-- `invalid_thread_cache` lowers one more flag. -/
theorem invalidate_invariant {worker : Nat} {kind : Kind} {ending : Ending}
    {rest : List (Nat × Kind)} (kept : Invariant state)
    (standing : state.threads thread = .invalidate ending ((worker, kind) :: rest)) :
    Invariant (goto (setCache state worker kind
      { state.caches worker kind with valid := false }) thread (.invalidate ending rest)) := by
  have before := kept.sound thread
  rw [standing] at before
  have lowered : Invariant (setCache state worker kind
      { state.caches worker kind with valid := false }) := by
    exact setCache_invariant kept (fun _ _ _ _ => rfl) (fun _ _ _ _ present => present)
      (fun _ _ _ empty => empty) (kept.unused worker kind)
  apply move_invariant lowered
  · cases ending with
    | synced => exact ⟨before.worker, before.holder, trivial⟩
    | deleted objects =>
      refine ⟨Bool.noConfusion, Bool.noConfusion, fun object member => ?_⟩
      obtain ⟨known, reached⟩ := before.special object member
      refine ⟨known, fun other otherKind past => ?_⟩
      apply setCache_cases state worker kind { state.caches worker kind with valid := false }
        (fun other otherKind value => (other, otherKind) ∉ rest →
          object ∈ value.objects → value.valid = false) _ _ other otherKind past
      · intro _ _
        rfl
      · intro other otherKind different past
        exact reached other otherKind (List.not_mem_cons_of_ne_of_not_mem different past)
  · rfl

/-- The critical section of a lookup ends: the nodes enter the cache of its thread. -/
theorem keep_invariant {what : Lookup} {nodes : List Node} (kept : Invariant state)
    (standing : state.threads thread = .keep what nodes) :
    Invariant { giveBack (setCache state thread what.kind
      ((state.caches thread what.kind).insert what.key nodes)) thread nodes with
        lock := none } := by
  have before := kept.sound thread
  rw [standing] at before
  have unerased : ∀ node ∈ nodes, node.object ∉ state.erased := before.special
  have cached : Invariant (setCache state thread what.kind
      ((state.caches thread what.kind).insert what.key nodes)) := by
    apply setCache_invariant kept
    · intro object erased flushed present
      rw [Cache.insert_valid]
      rcases Cache.insert_objects present with new | old
      · obtain ⟨node, member, same⟩ := List.mem_map.mp new
        rw [← same] at erased
        exact absurd erased (unerased node member)
      · exact flushed old
    · intro other elsewhere
      rw [standing] at elsewhere
      cases elsewhere
    · intro other elsewhere
      rw [standing] at elsewhere
      cases elsewhere
    · intro outside
      exact absurd (before.worker rfl) (Nat.not_lt.mpr outside)
  have returned := giveBack_invariant cached fun node member barred =>
    unerased node member (kept.gone _ (kept.barred thread _ barred))
  apply release_invariant returned
  intro other
  by_cases same : other = thread
  · simp [giveBack, goto, same, holds, looking]
  · rw [Bool.eq_false_iff]
    intro holding
    have own := (returned.sound other).holder holding
    have mine : state.lock = some thread := before.holder rfl
    have equal : some thread = some other := mine.symm.trans own
    exact same (Option.some.inj equal).symm

/-- The erasure of `delete_node`. -/
theorem eraseStep_invariant (thread id : Nat) (kept : Invariant state) (free : state.lock = none) :
    Invariant (eraseStep state thread id) := by
  unfold eraseStep
  dsimp only
  split
  · exact leave_invariant kept rfl rfl trivial rfl
  · refine leave_invariant (erase_invariant id kept free) rfl rfl ?_ rfl
    intro object member
    refine ⟨List.mem_append_left _ member, fun worker kind past present => ?_⟩
    -- A cache that is not in the list belongs to no worker.
    have outside : state.workers ≤ worker := by
      rw [← Nat.not_lt]
      intro inside
      apply past
      refine List.mem_flatMap.mpr ⟨worker, List.mem_range.mpr inside, ?_⟩
      cases kind with
      | node => exact List.mem_cons_self
      | module => exact List.mem_cons_of_mem _ List.mem_cons_self
    have empty : (state.caches worker kind).entries = [] := kept.unused worker kind outside
    simp [Cache.objects, empty] at present

theorem syncReturned_invariant {old : Position} {caller : Option Lookup} (kept : Invariant state)
    (standing : state.threads thread = old) (worker : looking old = caller.isSome)
    (holder : holds old = caller.isSome) :
    Invariant (goto state thread (syncReturned caller)) := by
  cases caller with
  | none => exact leave_invariant kept rfl rfl trivial rfl
  | some => exact pass_invariant kept standing worker.symm holder.symm trivial rfl

/-- An object that a thread has held and moved away from is held by nobody. -/
theorem moved_free (kept : Invariant state) (holding : held (state.threads thread) = some node)
    (empty : held position = none) :
    ∀ other otherNode, held ((goto state thread position).threads other) = some otherNode →
      otherNode.object ≠ node.object := by
  intro other otherNode otherHolds equal
  simp only [goto] at otherHolds
  by_cases same : other = thread
  · rw [same, Function.update_self, empty] at otherHolds
    cases otherHolds
  · rw [Function.update_of_ne same] at otherHolds
    exact same (kept.apart other thread otherNode node otherHolds holding equal)

/-- The search of a lookup finds objects that are in the table. -/
theorem searchStep_invariant {what : Lookup} (kept : Invariant state)
    (standing : state.threads thread = .search what) :
    Invariant (searchStep state thread what) := by
  cases what with
  | findNode id =>
    simp only [searchStep]
    split
    · rename_i node found
      refine pass_invariant kept standing rfl rfl ?_ rfl
      intro other member
      rw [List.mem_singleton.mp member]
      exact (kept.alive node (List.mem_of_find?_eq_some found)).2
    · exact pass_invariant kept standing rfl rfl trivial rfl
  | queryNodeWithModule =>
    refine pass_invariant kept standing rfl rfl ?_ rfl
    intro node member
    exact (kept.alive node (List.mem_filter.mp member).1).2

theorem singleton_special {what : Lookup} (fresh : Fresh state node) :
    Special state thread (.keep what [node]) := by
  intro other member
  rw [List.mem_singleton.mp member]
  exact fresh.2.1

/-- A step that needs nothing from ZooKeeper keeps the invariant. -/
theorem proceed_invariant (state next : State) (thread : Nat) (kept : Invariant state)
    (stepped : proceed state thread = some next) : Invariant next := by
  have before := kept.sound thread
  cases standing : state.threads thread with
    (rw [standing] at before; simp only [proceed, standing] at stepped)
  | load what =>
    cases stepped
    cases raised : (state.caches thread what.kind).valid with
    | false => exact pass_invariant kept standing rfl rfl trivial rfl
    | true =>
      refine pass_invariant kept standing rfl rfl (fun object member present => ?_) rfl
      have lowered := kept.flushed object (kept.barred thread object member) thread what.kind
        present
      rw [raised] at lowered
      cases lowered
  | find what =>
    split at stepped <;> cases stepped
    · exact pass_invariant kept standing rfl rfl trivial rfl
    · apply giveBack_invariant kept
      intro node member barred
      exact before.special node.object barred (Cache.find_objects member)
  | clear =>
    cases stepped
    exact clear_invariant kept standing
  | store =>
    cases stepped
    exact store_invariant kept standing
  | lock what =>
    split at stepped <;> cases stepped
    rename_i free
    have moved : Invariant (goto { state with lock := some thread } thread (.checkSync what)) :=
      move_invariant (acquire_invariant thread kept free)
        ⟨before.worker, fun _ => rfl, trivial⟩ rfl
    exact moved
  | checkSync =>
    cases stepped
    split <;> exact pass_invariant kept standing rfl rfl trivial rfl
  | fetch caller ids =>
    cases ids with
    | cons => cases stepped
    | nil =>
      cases stepped
      split
      · exact pass_invariant kept standing rfl rfl trivial rfl
      · exact syncReturned_invariant kept standing rfl rfl
  | compare =>
    cases stepped
    split
    · exact carry_invariant kept ⟨before.worker, before.holder, before.special⟩
        (by rw [standing]; rfl)
    · exact pass_invariant kept standing rfl rfl trivial rfl
  | insert =>
    cases stepped
    exact insertNode_invariant (pass_invariant kept standing rfl rfl trivial rfl) before.special
      (moved_free kept (by rw [standing]; rfl) rfl)
  | invalidate ending caches =>
    cases caches with
    | cons target =>
      cases stepped
      exact invalidate_invariant kept standing
    | nil =>
      cases ending with
      | deleted =>
        cases stepped
        have moved : Invariant (goto state thread (.done [])) :=
          leave_invariant kept rfl rfl trivial rfl
        apply gone_invariant moved
        intro object member
        obtain ⟨known, reached⟩ := before.special object member
        exact ⟨known, fun worker kind => reached worker kind List.not_mem_nil⟩
      | synced =>
        cases stepped
        exact pass_invariant kept standing rfl rfl trivial rfl
  | trigger =>
    cases stepped
    exact syncReturned_invariant kept standing rfl rfl
  | synced what =>
    cases stepped
    have moved : Invariant (goto state thread (.search what)) :=
      pass_invariant kept standing rfl rfl trivial rfl
    exact { moved with
      sound := fun other => ⟨(moved.sound other).worker, (moved.sound other).holder,
        (moved.sound other).special⟩ }
  | search =>
    cases stepped
    exact searchStep_invariant kept standing
  | compareOne node =>
    cases stepped
    split
    · exact carry_invariant kept ⟨before.worker, before.holder, before.special⟩
        (by rw [standing]; rfl)
    · exact pass_invariant kept standing rfl rfl (singleton_special before.special) rfl
  | insertOne node =>
    cases stepped
    exact insertNode_invariant
      (pass_invariant kept standing rfl rfl (singleton_special before.special) rfl) before.special
      (moved_free kept (by rw [standing]; rfl) rfl)
  | keep =>
    cases stepped
    exact keep_invariant kept standing
  | erase id =>
    split at stepped <;> cases stepped
    rename_i free
    exact eraseStep_invariant thread id kept free
  | idle | children | fetchOne | done => cases stepped

/-- A thread gets a new object from ZooKeeper. -/
theorem decode_invariant {id : Nat} {info : Info} (kept : Invariant state)
    (worker : looking position = true → thread < state.workers)
    (holder : holds position = true → state.lock = some thread)
    (special : Fresh { state with created := state.created + 1 } (decode state id info) →
      Special { state with created := state.created + 1 } thread position)
    (holding : held position = some (decode state id info)) :
    Invariant { goto state thread position with created := state.created + 1 } := by
  have fresh : Fresh { state with created := state.created + 1 } (decode state id info) := by
    refine ⟨Nat.lt_succ_self _, fun erased => ?_, fun present => ?_⟩
    · exact Nat.lt_irrefl _ (kept.old _ erased)
    · obtain ⟨node, member, same⟩ := List.mem_map.mp present
      have older := (kept.alive node member).1
      rw [same] at older
      exact Nat.lt_irrefl _ older
  apply goto_invariant
    (created_invariant kept) ⟨worker, holder, special fresh⟩
  intro other node node' _ here there equal
  obtain rfl : decode state id info = node := Option.some.inj (holding.symm.trans here)
  have otherFresh : Fresh state node' := (kept.sound other).special.fresh node' there
  have older := otherFresh.1
  rw [← equal] at older
  exact Nat.lt_irrefl _ older

/-- An answer of ZooKeeper to `_find_node` keeps the invariant. -/
theorem answer_invariant {next : State} {info : Option Info} (kept : Invariant state)
    (stepped : answer state thread info = some next) :
    Invariant next := by
  have before := kept.sound thread
  unfold answer at stepped
  split at stepped <;> cases stepped <;> rename_i standing <;> rw [standing] at before
  · exact pass_invariant kept standing rfl rfl trivial rfl
  · exact decode_invariant kept before.worker before.holder (fun fresh => fresh) rfl
  · exact pass_invariant kept standing rfl rfl (fun _ member => by cases member) rfl
  · exact decode_invariant kept before.worker before.holder (fun fresh => fresh) rfl

/-- The entry into a function keeps the invariant. -/
theorem enter_invariant (state next : State) (thread : Nat) (request : Request)
    (kept : Invariant state) (outside : ∀ what, state.threads thread ≠ .find what)
    (stepped : enter state thread request = some next) : Invariant next := by
  cases request with
  | look =>
    simp only [enter] at stepped
    split at stepped <;> cases stepped
    rename_i inside
    exact move_invariant (barred_invariant kept outside)
      ⟨fun _ => inside, Bool.noConfusion, trivial⟩ rfl
  | deleteNode | syncAllNodes =>
    cases stepped
    exact leave_invariant kept rfl rfl trivial rfl

/-- Every step keeps the invariant. -/
theorem step_invariant (state : State) (action : Action) (next : State) (kept : Invariant state)
    (stepped : step state action = some next) : Invariant next := by
  cases action with
  | call thread request =>
    simp only [step, call] at stepped
    split at stepped
    · rename_i standing
      exact enter_invariant state next thread request kept (by simp [standing]) stepped
    · rename_i nodes standing
      exact enter_invariant state next thread request kept (by simp [standing]) stepped
    · cases stepped
  | proceed thread => exact proceed_invariant state next thread kept stepped
  | children =>
    simp only [step, children] at stepped
    split at stepped <;> cases stepped
    rename_i standing
    exact pass_invariant kept standing rfl rfl trivial rfl
  | answer => exact answer_invariant kept stepped

/-- In every run of any number of workers, a lookup that started when a `delete_node` had
returned does not yield an object that this call erased. -/
theorem run_serves_no_deleted (workers localId : Nat) (info : Info) (schedule : List Action)
    (final : State)
    (executed : Runs.run step (start workers localId info) schedule = some final) :
    ∀ answer ∈ final.answers, ∀ node ∈ answer.nodes, node.object ∉ answer.barred :=
  (Runs.run_invariant step Invariant step_invariant _ final schedule
    (start_invariant workers localId info) executed).answers

/-- Several steps of one thread. -/
def proceeds (thread count : Nat) : List Action := List.replicate count (.proceed thread)

/-- A worker caches node 7, and the watcher learns of node 8, which invalidates the cache.
The worker looks up node 9 and has seen the lowered flag when node 7 is deleted. It clears
the cache, raises the flag over that of the deletion, and then looks up node 7 again. -/
def deletedWhileClearing : List Action := List.flatten [
  [.call 0 (.look (.findNode 7))], proceeds 0 4, [.children 0 []], proceeds 0 3,
  [.answer 0 (some ⟨"b", 90, 0, 0, [4]⟩)], proceeds 0 3,
  [.call 5 .syncAllNodes, .children 5 [7, 8], .answer 5 (some ⟨"b", 90, 0, 0, [4]⟩), .proceed 5,
    .answer 5 (some ⟨"c", 91, 0, 0, []⟩)], proceeds 5 7,
  [.call 0 (.look (.findNode 9)), .proceed 0, .call 6 (.deleteNode 7)], proceeds 6 4,
  proceeds 0 5, [.answer 0 none, .proceed 0, .call 0 (.look (.findNode 7))], proceeds 0 5,
  [.answer 0 (some ⟨"b", 90, 0, 0, [4]⟩)], proceeds 0 3]

theorem deletedWhileClearing_completes :
    (Runs.run step (start 1 1 ⟨"a", 80, 0, 0, []⟩) deletedWhileClearing).isSome := by
  decide +kernel

/-- The first lookup of node 7 got object 1, and the last one, with object 1 barred, got a
new object. -/
theorem run_serves_no_deleted_clearing :
    ∃ final, Runs.run step (start 1 1 ⟨"a", 80, 0, 0, []⟩) deletedWhileClearing = some final ∧
      final.answers.map (fun answer => (answer.barred, answer.nodes.map Node.object)) =
        [([1], [4]), ([], []), ([], [1])] ∧
      ∀ answer ∈ final.answers, ∀ node ∈ answer.nodes, node.object ∉ answer.barred := by
  refine ⟨Option.get _ deletedWhileClearing_completes, (Option.some_get _).symm, ?_, ?_⟩
  · decide +kernel
  · exact run_serves_no_deleted 1 1 ⟨"a", 80, 0, 0, []⟩ deletedWhileClearing _
      (Option.some_get _).symm

end Mola.NodeTable
