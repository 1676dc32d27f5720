import Mola.ContinuationRoots

/-!
# The view of an actor

An actor with its ledger shows a view: its map of contexts, its saved states, and what
its log says about each call. The functions of the actor change the view as the
operations on views do, and they keep the account of request ids: the recycled ids, the
keys of the map and the ids of failed scatters are together the ids from one to the
generator.

A halted actor shows the frame in which it stopped. Its account may lack the one id that
it had just taken.
-/

namespace Mola.Requests

open Tickets

universe u
variable {Body : Type u}

/-- The contexts that were installed for answers. -/
def installs (log : List (Effect Body)) : List (Nat × Option Nat) :=
  log.filterMap fun
    | .installed call found => some (call, found)
    | _ => none

/-- The groups with which the gather callback of a call ran. -/
def gathers (log : List (Effect Body)) (number : Nat) : List (List Body) :=
  log.filterMap fun
    | .gathered call messages => if call = number then some messages else none
    | _ => none

/-- The ids that were recycled for a call. -/
def recycles (log : List (Effect Body)) (number : Nat) : List Nat :=
  log.filterMap fun
    | .recycled call reqid => if call = number then some reqid else none
    | _ => none

/-- The view of an actor with its ledger, in a frame. -/
def shown (solo : Solo Body) (frame : Option (Frame Body)) : View Body where
  find := findReqCtx solo.actor
  ledger := solo.ledger
  calls := solo.actor.calls
  abandoned := solo.actor.abandoned
  sync := solo.actor.sync
  frame := frame
  root := solo.root
  saved := fun handle => solo.actor.saved.lookup handle
  savedRoots := solo.savedRoots
  replies := solo.replies
  installed := installs solo.log
  gathered := gathers solo.log
  recycled := recycles solo.log

/-- The ids that have a context, and those of failed scatters. -/
def outstanding (actor : Actor Body) : Multiset Nat :=
  keys actor.contexts + (actor.abandoned : Multiset Nat)

/-- The recycled ids and the outstanding ones are those that were generated. -/
def Exact (actor : Actor Body) : Prop :=
  Accounted (2 ^ 32) actor.reqids (outstanding actor)

/-- There is an id that is not outstanding. -/
def Room (actor : Actor Body) : Prop := (outstanding actor).card + 1 < 2 ^ 32

/-- The frame of an actor, and its account. -/
def Fits (actor : Actor Body) (frame : Option (Frame Body)) : Prop :=
  match actor.status with
  | .idle => frame = none ∧ Exact actor
  | .running running => frame = some running ∧ Exact actor
  | .halted reason =>
      reason ≠ .insertAssertion ∧
        ∃ leaked, Accounted (2 ^ 32) actor.reqids (outstanding actor + leaked)

theorem fits_running (actor : Actor Body) (frame : Frame Body)
    (runs : actor.status = .running frame) (account : Exact actor) :
    Fits actor (some frame) := by
  rw [Fits, runs]
  exact ⟨rfl, account⟩

/-- An actor that halts, other than at the assertion of `insert_req_ctx`, fits any frame. -/
theorem fits_halted {actor : Actor Body} {reason : Halt} (frame : Option (Frame Body))
    (stops : reason ≠ .insertAssertion) (account : Exact actor) :
    Fits (halt actor reason) frame := by
  refine ⟨stops, 0, ?_⟩
  rw [Multiset.add_zero]
  exact account

/-- An actor goes by moves to what it shows in some frame. -/
def Goes (quiet : Prop) (view : View Body) (next : Solo Body) : Prop :=
  ∃ frame, Relation.ReflTransGen (Move quiet) view (shown next frame) ∧ Fits next.actor frame

/-- What an actor that takes a new id gets. -/
structure Drawn (actor : Actor Body) (reqid : Nat) (after : Actor Body) : Prop where
  positive : reqid ≠ 0
  new : findReqCtx actor reqid = none
  usable : reqid ∉ actor.abandoned
  account : Accounted (2 ^ 32) after.reqids (reqid ::ₘ outstanding actor)
  same : after = { actor with reqids := after.reqids, issued := reqid :: actor.issued }

theorem find_outstanding {actor : Actor Body} {reqid : Nat} {context : Context Body}
    (found : findReqCtx actor reqid = some context) : reqid ∈ outstanding actor := by
  apply Multiset.mem_add.mpr
  left
  apply (mem_keys actor.contexts reqid).mpr
  exact Option.isSome_iff_exists.mpr ⟨context, found⟩

theorem exact_positive {actor : Actor Body} (account : Exact actor) {reqid : Nat}
    (out : reqid ∈ outstanding actor) : reqid ≠ 0 := by
  have range := accounted_range _ _ _ account reqid (Or.inr out)
  omega

/-- A new id is neither the invalid one nor outstanding. -/
theorem newReqid_drawn (actor : Actor Body) (account : Exact actor) (room : Room actor) :
    Drawn actor (newReqid actor).1 (newReqid actor).2 := by
  obtain ⟨positive, fresh⟩ := issue_fresh (2 ^ 32) actor.reqids (outstanding actor) account room
  constructor
  · exact positive
  · cases found : findReqCtx actor (newReqid actor).1 with
    | none => rfl
    | some context => exact absurd (find_outstanding found) fresh
  · intro given
    exact fresh (Multiset.mem_add.mpr (Or.inr given))
  · exact issue_accounted (2 ^ 32) actor.reqids (outstanding actor) account room
  · rfl

theorem insert_new {actor : Actor Body} {reqid : Nat} (context : Context Body)
    (new : findReqCtx actor reqid = none) :
    insertReqCtx actor reqid context = assignReqCtx actor reqid context := by
  unfold insertReqCtx
  rw [new]

theorem update_found (actor : Actor Body) (reqid : Nat) (context : Context Body)
    (change : Context Body → Context Body) (found : findReqCtx actor reqid = some context) :
    updateReqCtx actor reqid change = assignReqCtx actor reqid (change context) := by
  unfold updateReqCtx
  rw [found]

/-- Storing a context under the id that was just taken completes the account. -/
theorem exact_insert (actor : Actor Body) (reqid : Nat) (context : Context Body)
    (new : findReqCtx actor reqid = none)
    (account : Accounted (2 ^ 32) actor.reqids (reqid ::ₘ outstanding actor)) :
    Exact (assignReqCtx actor reqid context) := by
  have keys := keys_insert_new actor.contexts reqid context new
  unfold Exact outstanding
  dsimp only [assignReqCtx]
  rw [keys, Multiset.cons_add]
  exact account

theorem exact_replace (actor : Actor Body) (reqid : Nat) (old context : Context Body)
    (found : findReqCtx actor reqid = some old) (account : Exact actor) :
    Exact (assignReqCtx actor reqid context) := by
  have keys := keys_replace actor.contexts reqid context old found
  unfold Exact outstanding
  dsimp only [assignReqCtx]
  rw [keys]
  exact account

/-- Deleting a context and recycling its id keeps the account. -/
theorem exact_erase {actor : Actor Body} {reqid : Nat} {old : Context Body}
    (found : findReqCtx actor reqid = some old) (account : Exact actor) :
    Exact { releaseReqid actor reqid with contexts := actor.contexts.erase reqid } := by
  have out : reqid ::ₘ (keys (actor.contexts.erase reqid) + (actor.abandoned : Multiset Nat)) =
      outstanding actor := by
    rw [← Multiset.cons_add, keys_erase actor.contexts reqid old found]
    rfl
  apply giveBack_accounted (2 ^ 32) actor.reqids
  exact out ▸ account

variable (solo : Solo Body) (log effects : List (Effect Body)) (reqid : Nat)
  (context : Context Body)

theorem note_set (actor : Actor Body) (log : List (Effect Body)) (effect : Effect Body) :
    note { solo with actor := actor, log := log } effect =
      { note solo effect with actor := actor, log := log } := by
  cases effect with
  | replied source => cases source <;> rfl
  | _ => rfl

theorem notes_set (solo : Solo Body) (actor : Actor Body) (log : List (Effect Body)) :
    effects.foldl note { solo with actor := actor, log := log } =
      { effects.foldl note solo with actor := actor, log := log } := by
  induction effects generalizing solo with
  | nil => rfl
  | cons _ _ hypothesis =>
    rw [List.foldl_cons, note_set, hypothesis, List.foldl_cons]

theorem advance_append (first second : Actor Body) (effects more : List (Effect Body)) :
    advance solo (second, effects ++ more) =
      advance (advance solo (first, effects)) (second, more) := by
  have noted := notes_set more (effects.foldl note solo) first (solo.log ++ effects)
  unfold advance
  dsimp only
  rw [List.foldl_append, noted, List.append_assoc]

/-- Effects that are neither calls nor values nor saved states are only logged. -/
theorem advance_logged (actor : Actor Body) (effects : List (Effect Body))
    (plain : ∀ effect ∈ effects, ∀ solo : Solo Body, note solo effect = solo) :
    advance solo (actor, effects) = { solo with actor := actor, log := solo.log ++ effects } := by
  have same : effects.foldl note solo = solo := by
    induction effects with
    | nil => rfl
    | cons effect _ hypothesis =>
      rw [List.foldl_cons, plain effect (List.mem_cons_self ..)]
      exact hypothesis fun other member => plain other (List.mem_cons_of_mem _ member)
  unfold advance
  dsimp only
  rw [same]

theorem advance_nil (actor : Actor Body) :
    advance solo (actor, []) = { solo with actor := actor } := by
  unfold advance
  simp

theorem shown_assign (frame : Option (Frame Body)) (reqid : Nat) (context : Context Body) :
    shown { solo with actor := assignReqCtx solo.actor reqid context } frame =
      (shown solo frame).put reqid context := by
  refine View.ext ?_ rfl rfl rfl rfl rfl rfl rfl rfl rfl rfl rfl rfl
  exact lookup_insert solo.actor.contexts reqid context

theorem installs_skip (silent : installs effects = []) :
    installs (log ++ effects) = installs log := by
  unfold installs at *
  rw [List.filterMap_append, silent, List.append_nil]

theorem gathers_skip (silent : ∀ number, gathers effects number = []) :
    gathers (log ++ effects) = gathers log := by
  funext number
  have none_ := silent number
  unfold gathers at *
  rw [List.filterMap_append, none_, List.append_nil]

theorem recycles_skip (silent : ∀ number, recycles effects number = []) :
    recycles (log ++ effects) = recycles log := by
  funext number
  have none_ := silent number
  unfold recycles at *
  rw [List.filterMap_append, none_, List.append_nil]

/-- A value that is appended to the recycled ids of one call. -/
theorem recycles_one (number reqid : Nat) :
    recycles (log ++ [.recycled number reqid]) =
      Function.update (recycles log) number (recycles log number ++ [reqid]) := by
  funext other
  unfold recycles
  rw [List.filterMap_append]
  by_cases same : other = number
  · subst same
    simp
  · simp [Function.update_of_ne same, Ne.symm same]

/-- A group that is appended to those of one call. -/
theorem gathers_one (number : Nat) (messages : List Body) :
    gathers (log ++ [.gathered number messages]) =
      Function.update (gathers log) number (gathers log number ++ [messages]) := by
  funext other
  unfold gathers
  rw [List.filterMap_append]
  by_cases same : other = number
  · subst same
    simp
  · simp [Function.update_of_ne same, Ne.symm same]

/-- A deleted context is dropped from the view. -/
theorem shown_erase (frame : Option (Frame Body)) (reqid number : Nat) :
    shown (advance solo
        ({ releaseReqid solo.actor reqid with contexts := solo.actor.contexts.erase reqid },
          [.recycled number reqid])) frame =
      (shown solo frame).drop reqid number := by
  refine View.ext ?_ rfl rfl rfl rfl rfl rfl rfl rfl rfl ?_ ?_ ?_
  · exact lookup_erase solo.actor.contexts reqid
  · exact installs_skip solo.log _ rfl
  · exact gathers_skip solo.log _ fun _ => rfl
  · exact recycles_one solo.log number reqid

end Mola.Requests
