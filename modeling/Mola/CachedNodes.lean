import Mola.NodeTable

/-!
# The record of a node in the table

`update_cached_node` compares a node with the record of its id in `m_alive_nodes`, and inserts
the node if there is none or if the two differ. The insertion into a map leaves a present key
alone. A record that differs is reported as a change, and stays: the table does not change, and
the next call reports the change again.

`sync_all_nodes` updates the table with every listed node and triggers the delayed tasks if there
was a change. With an outdated record in the table it triggers them each time, though nothing
changes.
-/

namespace Mola.NodeTable

/-- `update_cached_node`: the table that it leaves, and its result. -/
def updateCachedNode (alive : List Node) (node : Node) : List Node × Bool :=
  if changed alive node then (insertNode alive node, true) else (alive, false)

/-- What `sync_all_nodes` works on: the table, whether there was a change, and how many objects
have been created. -/
structure Sync where
  alive : List Node
  notify : Bool
  created : Nat

/-- One listed node in `sync_all_nodes`. A node without data is passed over. -/
def syncNode (infos : Nat → Option Info) (sync : Sync) (id : Nat) : Sync :=
  match infos id with
  | none => sync
  | some info =>
      let (alive, new) := updateCachedNode sync.alive ⟨sync.created, id, info⟩
      ⟨alive, sync.notify || new, sync.created + 1⟩

/-- `sync_all_nodes` for a state of the cluster: the ids that are listed, and the data of each.
`notify` says whether it triggers the delayed tasks. -/
def syncAllNodes (localId : Nat) (ids : List Nat) (infos : Nat → Option Info)
    (alive : List Node) (created : Nat) : Sync :=
  (ids.filter fun id => id ≠ localId).foldl (syncNode infos) ⟨alive, false, created⟩

/-- The update makes the table agree with the node: the record of its id equals the node, the
others are as they were, the result says whether the table has changed, and a second call
finds nothing to do. -/
def Agrees (alive : List Node) (node : Node) : Prop :=
  let updated := updateCachedNode alive node
  (∃ found, findCachedNode updated.1 node.id = some found ∧ found.equals node = true) ∧
    (∀ id, id ≠ node.id → findCachedNode updated.1 id = findCachedNode alive id) ∧
    (updated.2 = true ↔ updated.1 ≠ alive) ∧
    (updateCachedNode updated.1 node).2 = false

/-- There is no record under the id of the node, or it equals the node. -/
def Current (alive : List Node) (node : Node) : Prop :=
  ∀ original, findCachedNode alive node.id = some original → original.equals node = true

/-- A second synchronisation with the same state of the cluster follows the first. -/
def syncTwice (localId : Nat) (ids : List Nat) (infos : Nat → Option Info)
    (alive : List Node) (created : Nat) : Sync × Sync :=
  let first := syncAllNodes localId ids infos alive created
  (first, syncAllNodes localId ids infos first.alive first.created)

variable (infos : Nat → Option Info) (alive : List Node) (node : Node) (ids : List Nat)
  (sync : Sync) (id : Nat)

@[simp]
theorem Node.equals_self : node.equals node = true := by
  simp [Node.equals]

theorem updateCachedNode_absent {alive : List Node} {node : Node}
    (absent : findCachedNode alive node.id = none) :
    updateCachedNode alive node =
      (alive.orderedInsert (fun first second => first.id ≤ second.id) node, true) := by
  simp [updateCachedNode, changed, insertNode, absent]

/-- The update of a node that has a record leaves the table alone, and says whether the two
differ. -/
theorem updateCachedNode_present {alive : List Node} {node original : Node}
    (present : findCachedNode alive node.id = some original) :
    updateCachedNode alive node = (alive, !original.equals node) := by
  cases same : original.equals node with
  | true => simp [updateCachedNode, changed, present, same]
  | false => simp [updateCachedNode, changed, insertNode, present, same]

/-- What is found after an insertion in order. -/
theorem findCachedNode_orderedInsert {alive : List Node} {node : Node}
    (absent : findCachedNode alive node.id = none) :
    findCachedNode (alive.orderedInsert (fun first second => first.id ≤ second.id) node) id =
      if id = node.id then some node else findCachedNode alive id := by
  induction alive with
  | nil =>
    by_cases same : id = node.id
    · simp [findCachedNode, same]
    · simp [findCachedNode, same, Ne.symm same]
  | cons head rest inductionHypothesis =>
    have different : head.id ≠ node.id := by
      intro same
      simp [findCachedNode, same] at absent
    have absentRest : findCachedNode rest node.id = none := by
      simpa [findCachedNode, List.find?_cons, different] using absent
    rw [List.orderedInsert_cons]
    split
    · by_cases same : id = node.id
      · simp [findCachedNode, same]
      · simp [findCachedNode, List.find?_cons, same, Ne.symm same]
    · have tail := inductionHypothesis absentRest
      simp only [findCachedNode, List.find?_cons] at tail ⊢
      by_cases same : head.id = id
      · have other : id ≠ node.id := fun equal => different (same.trans equal)
        simp [same, other]
      · simpa [same] using tail

/-- What is found after an update: what was found before, or the node if its id had no record. -/
theorem findCachedNode_update :
    findCachedNode (updateCachedNode alive node).1 id =
      if id = node.id ∧ findCachedNode alive node.id = none then some node
      else findCachedNode alive id := by
  cases record : findCachedNode alive node.id with
  | none =>
    rw [updateCachedNode_absent record,
      findCachedNode_orderedInsert id record]
    simp
  | some =>
    rw [updateCachedNode_present record]
    simp

theorem updateCachedNode_result :
    (updateCachedNode alive node).2 = changed alive node := by
  unfold updateCachedNode
  split <;> simp_all

theorem changed_iff :
    changed alive node = true ↔
      findCachedNode alive node.id = none ∨ ¬Current alive node := by
  unfold changed Current
  cases findCachedNode alive node.id with
  | none | some => simp

/-- The update makes the table agree with the node exactly if the record of its id is current. -/
theorem agrees_iff :
    Agrees alive node ↔ Current alive node := by
  cases record : findCachedNode alive node.id with
  | none =>
    have current : Current alive node := by
      intro original found
      cases record.symm.trans found
    refine ⟨fun _ => current, fun _ => ?_⟩
    have inserted := findCachedNode_update alive node
    simp only [record, and_true] at inserted
    have own : findCachedNode (updateCachedNode alive node).1 node.id = some node := by
      rw [inserted, if_pos rfl]
    refine ⟨⟨node, own, node.equals_self⟩, fun id other => ?_, ?_, ?_⟩
    · rw [inserted, if_neg other]
    · refine ⟨fun _ same => ?_, fun _ => by rw [updateCachedNode_absent record]⟩
      rw [same, record] at own
      cases own
    · rw [updateCachedNode_present own]
      simp
  | some original =>
    unfold Agrees
    rw [updateCachedNode_present record]
    dsimp only
    rw [updateCachedNode_present record]
    constructor
    · rintro ⟨⟨found, present, equal⟩, -⟩ other stored
      cases present.symm.trans stored
      exact equal
    · intro current
      have equal := current original record
      refine ⟨⟨original, record, equal⟩, fun _ _ => rfl, ?_, ?_⟩
      · simp [equal]
      · simp [equal]

theorem syncNode_some (info : Info) (known : infos id = some info) :
    syncNode infos sync id =
      ⟨(updateCachedNode sync.alive ⟨sync.created, id, info⟩).1,
        sync.notify || changed sync.alive ⟨0, id, info⟩, sync.created + 1⟩ := by
  unfold syncNode
  simp only [known, updateCachedNode_result]
  rfl

/-- A listed node with data is changed with respect to a table. -/
def Differs (infos : Nat → Option Info) (alive : List Node) (id : Nat) : Prop :=
  ∃ info, infos id = some info ∧ changed alive ⟨0, id, info⟩ = true

/-- A synchronisation keeps every record. -/
theorem syncNode_keeps (listed id : Nat) (original : Node)
    (present : findCachedNode sync.alive id = some original) :
    findCachedNode (syncNode infos sync listed).alive id = some original := by
  cases known : infos listed with
  | none => simpa only [syncNode, known] using present
  | some info =>
    rw [syncNode_some infos sync listed info known]
    dsimp only
    rw [findCachedNode_update, if_neg, present]
    rintro ⟨rfl, absent⟩
    cases absent.symm.trans present

/-- After the update of one node, no node differs that did not before. -/
theorem differs_of_syncNode {infos : Nat → Option Info} {sync : Sync} {listed id : Nat}
    (differs : Differs infos (syncNode infos sync listed).alive id) :
    Differs infos sync.alive id := by
  obtain ⟨info, known, new⟩ := differs
  refine ⟨info, known, ?_⟩
  rw [changed_iff] at new ⊢
  cases record : findCachedNode sync.alive id with
  | none => exact .inl rfl
  | some original =>
    have kept := syncNode_keeps infos sync listed id original record
    obtain absent | outdated := new
    · cases absent.symm.trans kept
    · refine .inr fun current => outdated fun other found => ?_
      cases kept.symm.trans found
      exact current original record

/-- After the update of one node, a node still differs unless it is that one. -/
theorem differs_syncNode {infos : Nat → Option Info} {sync : Sync} {listed id : Nat}
    (other : id ≠ listed) (differs : Differs infos sync.alive id) :
    Differs infos (syncNode infos sync listed).alive id := by
  obtain ⟨info, known, new⟩ := differs
  refine ⟨info, known, ?_⟩
  have same : findCachedNode (syncNode infos sync listed).alive id =
      findCachedNode sync.alive id := by
    cases data : infos listed with
    | none => simp only [syncNode, data]
    | some content =>
      rw [syncNode_some infos sync listed content data]
      dsimp only
      rw [findCachedNode_update, if_neg]
      exact fun both => other both.1
  unfold changed at new ⊢
  rwa [same]

theorem syncNode_notify (listed : Nat) :
    (syncNode infos sync listed).notify = true ↔
      sync.notify = true ∨ Differs infos sync.alive listed := by
  unfold Differs
  cases known : infos listed with
  | none => simp [syncNode, known]
  | some info => simp [syncNode_some infos sync listed info known]

/-- The update of listed nodes reports exactly whether one of them differs. -/
theorem foldl_syncNode_notify :
    (ids.foldl (syncNode infos) sync).notify = true ↔
      sync.notify = true ∨ ∃ id ∈ ids, Differs infos sync.alive id := by
  induction ids generalizing sync with
  | nil => simp
  | cons listed _ inductionHypothesis =>
    rw [List.foldl_cons, inductionHypothesis, syncNode_notify]
    constructor
    · rintro ((before | here) | ⟨id, member, differs⟩)
      · exact .inl before
      · exact .inr ⟨listed, List.mem_cons_self, here⟩
      · exact .inr ⟨id, List.mem_cons_of_mem listed member,
          differs_of_syncNode differs⟩
    · rintro (before | ⟨id, member, differs⟩)
      · exact .inl (.inl before)
      · by_cases same : id = listed
        · exact .inl (.inr (same ▸ differs))
        · have inRest := (List.mem_cons.mp member).resolve_left same
          exact .inr ⟨id, inRest, differs_syncNode same differs⟩

theorem foldl_syncNode_keeps (original : Node)
    (present : findCachedNode sync.alive id = some original) :
    findCachedNode (ids.foldl (syncNode infos) sync).alive id = some original := by
  induction ids generalizing sync with
  | nil => exact present
  | cons listed _ inductionHypothesis =>
    exact inductionHypothesis _ (syncNode_keeps infos sync listed id original present)

/-- A listed node that had no record has a current one afterwards. -/
theorem foldl_syncNode_inserts (info : Info) (known : infos id = some info) (member : id ∈ ids)
    (absent : findCachedNode sync.alive id = none) :
    ∃ record, findCachedNode (ids.foldl (syncNode infos) sync).alive id = some record ∧
      record.equals ⟨0, id, info⟩ = true := by
  induction ids generalizing sync with
  | nil => cases member
  | cons listed rest inductionHypothesis =>
    by_cases same : id = listed
    · subst same
      refine ⟨⟨sync.created, id, info⟩,
        foldl_syncNode_keeps infos rest _ id _ ?_, Node.equals_self ⟨0, id, info⟩⟩
      rw [syncNode_some infos sync id info known]
      dsimp only
      rw [findCachedNode_update, if_pos ⟨rfl, absent⟩]
    · refine inductionHypothesis _ ((List.mem_cons.mp member).resolve_left same) ?_
      cases data : infos listed with
      | none => simpa only [syncNode, data] using absent
      | some content =>
        rw [syncNode_some infos sync listed content data]
        dsimp only
        rw [findCachedNode_update, if_neg, absent]
        exact fun both => same both.1

/-- Every listed node that has data is current, except for the local one. -/
def AllCurrent (localId : Nat) (ids : List Nat) (infos : Nat → Option Info)
    (alive : List Node) : Prop :=
  ∀ id ∈ ids, id ≠ localId → ∀ info, infos id = some info → Current alive ⟨0, id, info⟩

/-- After a synchronisation, a listed node differs exactly if its record was outdated before. -/
theorem differs_synced_iff {ids : List Nat} {id : Nat} (member : id ∈ ids) :
    Differs infos (ids.foldl (syncNode infos) sync).alive id ↔
      ∃ info, infos id = some info ∧ ¬Current sync.alive ⟨0, id, info⟩ := by
  refine exists_congr fun info => and_congr_right fun known => ?_
  rw [changed_iff]
  cases record : findCachedNode sync.alive id with
  | none =>
    obtain ⟨inserted, found, equal⟩ :=
      foldl_syncNode_inserts infos ids sync id info known member record
    have before : Current sync.alive ⟨0, id, info⟩ := by
      intro original stored
      cases record.symm.trans stored
    have after : Current (ids.foldl (syncNode infos) sync).alive ⟨0, id, info⟩ := by
      intro original stored
      cases found.symm.trans stored
      exact equal
    simp [found, before, after]
  | some original =>
    have kept := foldl_syncNode_keeps infos ids sync id original record
    have same : Current (ids.foldl (syncNode infos) sync).alive ⟨0, id, info⟩ ↔
        Current sync.alive ⟨0, id, info⟩ := by
      simp [Current, kept, record]
    simp [kept, same]

/-- Two synchronisations with the same state of the cluster both trigger the delayed tasks exactly
if the record of a listed node was outdated. -/
theorem syncTwice_notify_iff (localId : Nat) (ids : List Nat) (infos : Nat → Option Info)
    (alive : List Node) (created : Nat) :
    ((syncTwice localId ids infos alive created).1.notify = true ∧
        (syncTwice localId ids infos alive created).2.notify = true) ↔
      ¬AllCurrent localId ids infos alive := by
  have second : (syncTwice localId ids infos alive created).2.notify = true ↔
      ∃ id ∈ ids.filter fun id => id ≠ localId,
        ∃ info, infos id = some info ∧ ¬Current alive ⟨0, id, info⟩ := by
    unfold syncTwice syncAllNodes
    dsimp only
    rw [foldl_syncNode_notify]
    simp only [Bool.false_eq_true, false_or]
    exact exists_congr fun id => and_congr_right fun member =>
      differs_synced_iff infos ⟨alive, false, created⟩ member
  have first : (∃ id ∈ ids.filter fun id => id ≠ localId,
      ∃ info, infos id = some info ∧ ¬Current alive ⟨0, id, info⟩) →
      (syncTwice localId ids infos alive created).1.notify = true := by
    rintro ⟨id, member, info, known, outdated⟩
    unfold syncTwice syncAllNodes
    dsimp only
    rw [foldl_syncNode_notify]
    exact .inr ⟨id, member, info, known, (changed_iff _ _).mpr (.inr outdated)⟩
  rw [second, and_iff_right_of_imp first]
  simp [AllCurrent, and_assoc]

/-- `update_cached_node` makes the table agree with a node exactly if the record of its id is
current, and leaves the other ids alone in any case. Two synchronisations with the same state of
the cluster trigger the delayed tasks at most once exactly if the records of the listed nodes are
current. -/
theorem update_and_sync_iff (alive : List Node) (node : Node) (localId : Nat) (ids : List Nat)
    (infos : Nat → Option Info) (created : Nat) :
    (Agrees alive node ↔ Current alive node) ∧
      (∀ id, id ≠ node.id → findCachedNode (updateCachedNode alive node).1 id =
        findCachedNode alive id) ∧
      (¬((syncTwice localId ids infos alive created).1.notify = true ∧
          (syncTwice localId ids infos alive created).2.notify = true) ↔
        AllCurrent localId ids infos alive) := by
  refine ⟨agrees_iff alive node, fun id other => ?_, ?_⟩
  · rw [findCachedNode_update, if_neg]
    exact fun both => other both.1
  · rw [syncTwice_notify_iff, not_not]

/-- A node has moved to another port. Its record is reported as changed and stays, and a second
update reports the change again. -/
theorem outdated_record_stays :
    ∃ (alive : List Node) (node : Node),
      updateCachedNode alive node = (alive, true) ∧
      findCachedNode alive node.id = some ⟨0, 1, ⟨"a", 1, 0, 0, []⟩⟩ ∧
      (syncTwice 9 [1] (fun _ => some node.info) alive 2).1.notify = true ∧
      (syncTwice 9 [1] (fun _ => some node.info) alive 2).2.notify = true ∧
      ¬Agrees alive node := by
  refine ⟨[⟨0, 1, ⟨"a", 1, 0, 0, []⟩⟩], ⟨1, 1, ⟨"a", 2, 0, 0, []⟩⟩, by decide, by decide, by decide,
    by decide, ?_⟩
  rw [agrees_iff]
  intro current
  exact absurd (current _ rfl) (by decide)

end Mola.NodeTable
