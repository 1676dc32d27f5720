import Mola.RequestDispatch

/-!
# The entry points that send

Generated code sends by three functions: `SendMsgToIntf`, `SendMsgToIntfAndRecv` for a fiber
that waits for the answer, and `ScatterToIntf`. Each takes the id of a module, an interface
and a handle of 64 bits for the instance, and builds the target of the message from them.

A handle is packed from a request id, a node id and an instance id, which have 32 bits each
but 32, 16 and 16 bits of room. The macros that unpack it take 32 bits for the node. Two
functions unpack the handle. `SendMsgToIntf` takes the node from the name service instead, and
the low word of the handle for the instance. `SendMsgToIntfAndRecv` passes the interface and
the instance in each other's place.

The location tables of the name service have no writer in the source, so their contents are
given. They are keyed here by the handle that is looked up. A lookup for a module that is not
loaded goes through a null pointer. The wait for an answer, the context of a scatter and the
choice of nodes for a scatter without destinations are not modelled here.
-/

namespace Mola

namespace ActorID

/-- The module field, widened to a word. -/
def moduleId (id : ActorID) : UInt32 := id.dmoduleId.toUInt32

end ActorID

namespace Metadata

/-- The type of a scattered message. -/
def typeScatter : UInt16 := 4

end Metadata

namespace Sends

open Dispatch RequestDispatch

/-- `GET_NODE_ID`. -/
def getNodeId (inst : UInt64) : UInt32 := (inst >>> 16).toUInt32

/-- `GET_INST_ID`. -/
def getInstId (inst : UInt64) : UInt32 := (inst &&& 0x0000FFFF).toUInt32

/-- `GET_REQ_ID`. -/
def getReqId (inst : UInt64) : UInt32 := (inst >>> 32).toUInt32

/-- The node of an actor, seen from a node. -/
def nodeOf (here : UInt32) (id : ActorID) : UInt32 :=
  if id.dnodeId = ActorID.localId then here else id.dnodeId

/-- `TO_INST_ID`. The node id is shifted as a word of 32 bits. -/
def toInstId (here : UInt32) (aid : ActorID) (reqid : UInt32) : UInt64 :=
  (reqid.toUInt64 <<< 32) ||| (nodeOf here aid <<< 16).toUInt64 ||| aid.instanceId.toUInt64

/-- `GetMyInstID`. -/
def getMyInstID (world : World) (requester : Requester) : UInt64 :=
  toInstId world.localNode.id requester.id 0

/-- `GetSenderInstID`, which asserts that there is a current message. -/
def getSenderInstID (world : World) (requester : Requester) : Option UInt64 :=
  requester.currentMessage.map fun message =>
    toInstId world.localNode.id message.metadata.sender message.metadata.reqid

/-- The location tables of a module: the nodes that are known by handle. -/
structure Directory where
  cache : UInt64 → Option UInt32
  table : UInt64 → Option UInt32

/-- `search_location`, which puts what it finds in the cache. -/
def searchLocation (directory : Directory) (inst : UInt64) : Option UInt32 × Directory :=
  match directory.table inst with
  | none => (none, directory)
  | some node =>
      (some node, { directory with cache := Function.update directory.cache inst (some node) })

/-- `get_actor_addr`. Without a module, the location table is asked through a null pointer. -/
def getActorAddr (world : World) (directories : UInt16 → Directory) (mid : UInt32)
    (inst : UInt64) : Option (Option UInt32 × (UInt16 → Directory)) :=
  let key := mid.toUInt16
  match world.modules key with
  | none => none
  | some _ =>
      match (directories key).cache inst with
      | some node => some (some node, directories)
      | none =>
          let (found, directory) := searchLocation (directories key) inst
          some (found, Function.update directories key directory)

/-- The target that `SendMsgToIntf` builds. -/
def sendTarget (located : Option UInt32) (mid intf : UInt32) (inst : UInt64) : ActorID :=
  ActorID.make (located.getD ActorID.localId) mid inst.toUInt32 intf

/-- `SendMsgToIntf`. -/
def sendMsgToIntf (requester : Requester) (world : World) (directories : UInt16 → Directory)
    (mid intf : UInt32) (inst : UInt64) (message : Message) (retIntf : UInt32) (ctx : Nat) :
    RequestDispatch.Outcome × (UInt16 → Directory) :=
  match getActorAddr world directories mid inst with
  | none => (.nullPointer, directories)
  | some (located, directories) =>
      (dispatchRequest requester world (sendTarget located mid intf inst) message retIntf ctx,
        directories)

/-- The target that `SendMsgToIntfAndRecv` builds. -/
def recvTarget (mid intf : UInt32) (inst : UInt64) : ActorID :=
  ActorID.make (getNodeId inst) mid intf (getInstId inst)

/-- `SendMsgToIntfAndRecv`, up to the wait for the answer. The request id is that of the
fiber. -/
def sendMsgToIntfAndRecv (requester : Requester) (world : World) (fiberReqid : UInt32)
    (mid intf : UInt32) (inst : UInt64) (req : Message) :
    RequestDispatch.Outcome :=
  if getReqId inst ≠ 0 then .aborted
  else
    match requester.currentMessage with
    | none => .nullPointer
    | some current =>
        dispatchRequest requester world (recvTarget mid intf inst) (req.setReqid fiberReqid)
          current.metadata.target.intfId 0

/-- `set_target` with the four fields, in its order. -/
def setTarget (nodeId moduleId intfId instId : UInt32) (message : Message) : Message :=
  message.setTarget
    { dnodeId := nodeId
      dmoduleId := moduleId.toUInt16
      dintfId := intfId.toUInt16
      dinstId := instId }

/-- A message of a scatter: the target by its destination, and the actor as the sender, with
the interface that gathers. -/
def scatterMessage (requester : Requester) (mid intf gatherIntf reqid : UInt32) (dest : UInt64)
    (message : Message) : Message :=
  let targeted := setTarget (getNodeId dest) mid intf (getInstId dest) message
  ((targeted.setType Metadata.typeScatter).setReqid reqid).setSender
    (requester.id.setIntfId gatherIntf)

/-- The messages of a scatter with destinations. -/
def scatterMessages (requester : Requester) (mid intf gatherIntf reqid : UInt32)
    (dest : Nat → UInt64) (group : List Message) : List Message :=
  group.mapIdx fun index message =>
    scatterMessage requester mid intf gatherIntf reqid (dest index) message

/-- `dispatch` for the messages of a scatter, with the number of those that were accepted. -/
def dispatchAll (thread : Thread) (world : World) : List Message → Option (Nat × World)
  | [] => some (0, world)
  | message :: rest =>
      match dispatch thread world message with
      | .aborted => none
      | .returned code _ world =>
          (dispatchAll thread world rest).map fun (count, final) =>
            (count + if code = 0 then 1 else 0, final)

/-- `ScatterToIntf` with destinations. Null messages are skipped, which makes the scatter
fail. A failed assertion is `none`. -/
def scatterToIntf (requester : Requester) (world : World) (mid intf : UInt32)
    (dest : Nat → UInt64) (mg : List (Option Message)) (gatherIntf : UInt32) :
    Option (Int × Requester × World) :=
  if mg = [] then some (-3, requester, world)
  else
    let group := mg.reduceOption
    let (reqid, requester) := newReqid requester
    if ∃ index < group.length, getReqId (dest index) ≠ 0 then none
    else if mg.length ≠ group.length then some (-4, requester, world)
    else
      (dispatchAll (.worker (some requester.id)) world
        (scatterMessages requester mid intf gatherIntf reqid dest group)).map
        fun (count, world) => (if count = group.length then 0 else -4, requester, world)

/-- The message that `Dispatcher::dispatch` gives on for a request. -/
def outgoing (requester : Requester) (target : ActorID) (message : Message)
    (returnIntf : UInt32) : Message :=
  if returnIntf ≠ ActorID.any ∧ message.metadata.reqid = 0 then
    request requester target message returnIntf
  else address requester target message returnIntf

/-- What a request does after its message was dispatched. -/
def follow (requester : Requester) (message : Message) (returnIntf : UInt32) (ctx : Nat) :
    Dispatch.Outcome → RequestDispatch.Outcome
  | .aborted => .aborted
  | .returned code handle after =>
      if returnIntf ≠ ActorID.any ∧ message.metadata.reqid = 0 then
        settle (newReqid requester).2 ctx code handle after
      else .returned code handle requester after

variable (requester : Requester) (inst : UInt64) (message : Message)

/-- A request dispatches the outgoing message and nothing else. -/
theorem dispatchRequest_outgoing (world : World) (target : ActorID) (message : Message)
    (returnIntf : UInt32) (ctx : Nat) :
    dispatchRequest requester world target message returnIntf ctx =
      follow requester message returnIntf ctx (dispatch (.worker (some requester.id)) world
        (outgoing requester target message returnIntf)) := by
  unfold dispatchRequest outgoing
  by_cases fresh : returnIntf ≠ ActorID.any ∧ message.metadata.reqid = 0
  · rw [if_pos fresh, if_pos fresh]
    change (match dispatch (.worker (some requester.id)) world
        (request requester target message returnIntf) with
      | .aborted => RequestDispatch.Outcome.aborted
      | .returned code handle after => settle (newReqid requester).2 ctx code handle after) = _
    cases dispatch (.worker (some requester.id)) world
        (request requester target message returnIntf) with
    | aborted => rfl
    | returned => exact (if_pos fresh).symm
  · rw [if_neg fresh, if_neg fresh]
    cases dispatch (.worker (some requester.id)) world
        (address requester target message returnIntf) with
    | aborted => rfl
    | returned => exact (if_neg fresh).symm

/-- The message that `SendMsgToIntf` dispatches, if the name service answers. -/
def sent (requester : Requester) (world : World) (directories : UInt16 → Directory)
    (mid intf : UInt32) (inst : UInt64) (message : Message) (retIntf : UInt32) :
    Option Message :=
  (getActorAddr world directories mid inst).map fun (located, _) =>
    outgoing requester (sendTarget located mid intf inst) message retIntf

/-- The message that `SendMsgToIntfAndRecv` dispatches, if its assertions hold. -/
def sentAndReceived (requester : Requester) (fiberReqid : UInt32) (mid intf : UInt32)
    (inst : UInt64) (req : Message) : Option Message :=
  if getReqId inst ≠ 0 then none
  else requester.currentMessage.map fun current =>
    outgoing requester (recvTarget mid intf inst) (req.setReqid fiberReqid)
      current.metadata.target.intfId

/-- `SendMsgToIntf` dispatches this message. -/
theorem sendMsgToIntf_sent (world : World) (directories : UInt16 → Directory) (mid intf : UInt32)
    (inst : UInt64) (message async : Message) (retIntf : UInt32) (ctx : Nat)
    (sends : sent requester world directories mid intf inst message retIntf = some async) :
    (sendMsgToIntf requester world directories mid intf inst message retIntf ctx).1 =
      follow requester message retIntf ctx
        (dispatch (.worker (some requester.id)) world async) := by
  obtain ⟨⟨located, after⟩, found, rfl⟩ := Option.map_eq_some_iff.mp sends
  simp only [sendMsgToIntf, found]
  exact dispatchRequest_outgoing requester world _ message retIntf ctx

/-- `SendMsgToIntfAndRecv` dispatches this message. -/
theorem sendMsgToIntfAndRecv_sent (world : World) (fiberReqid : UInt32) (mid intf : UInt32)
    (inst : UInt64) (req sync : Message)
    (receives : sentAndReceived requester fiberReqid mid intf inst req = some sync) :
    ∃ returnIntf, sendMsgToIntfAndRecv requester world fiberReqid mid intf inst req =
      follow requester (req.setReqid fiberReqid) returnIntf 0
        (dispatch (.worker (some requester.id)) world sync) := by
  unfold sentAndReceived at receives
  split at receives
  · cases receives
  · rename_i noReqid
    obtain ⟨current, handled, rfl⟩ := Option.map_eq_some_iff.mp receives
    refine ⟨current.metadata.target.intfId, ?_⟩
    rw [sendMsgToIntfAndRecv, if_neg noReqid, handled]
    exact dispatchRequest_outgoing requester world _ _ _ 0

/-- The target of a message names a module, an interface and an instance. -/
def Names (message : Message) (mid intf inst : UInt32) : Prop :=
  message.metadata.target.moduleId = mid ∧ message.metadata.target.intfId = intf ∧
    message.metadata.target.instanceId = inst

theorem outgoing_target (target : ActorID) (message : Message) (returnIntf : UInt32) :
    (outgoing requester target message returnIntf).metadata.target = target := by
  unfold outgoing
  split <;> rfl

theorem field_fits {word : UInt32} (fits : word.toNat < 2 ^ 16) :
    word.toUInt16.toUInt32 = word := by
  apply UInt32.toNat_inj.mp
  rw [UInt16.toNat_toUInt32, UInt32.toNat_toUInt16, Nat.mod_eq_of_lt fits]

theorem getInstId_toNat : (getInstId inst).toNat = inst.toNat % 2 ^ 16 := by
  have masked : (inst &&& 0x0000FFFF).toNat = inst.toNat % 2 ^ 16 :=
    Nat.and_two_pow_sub_one_eq_mod inst.toNat 16
  rw [getInstId, UInt64.toNat_toUInt32, masked]
  omega

theorem getNodeId_toNat :
    (getNodeId inst).toNat = inst.toNat / 2 ^ 16 % 2 ^ 32 := by
  rw [getNodeId, UInt64.toNat_toUInt32, UInt64.toNat_shiftRight, Nat.shiftRight_eq_div_pow]
  rfl

theorem getReqId_toNat : (getReqId inst).toNat = inst.toNat / 2 ^ 32 := by
  have small := inst.toNat_lt
  have shifted : (inst >>> 32).toNat = inst.toNat / 2 ^ 32 := by
    rw [UInt64.toNat_shiftRight, Nat.shiftRight_eq_div_pow]
    rfl
  rw [getReqId, UInt64.toNat_toUInt32, shifted]
  omega

/-- A handle with an instance alone has nothing else. -/
theorem small_handle {inst : UInt64} (small : inst.toNat < 2 ^ 16) :
    getInstId inst = inst.toUInt32 ∧ getReqId inst = 0 := by
  constructor
  · apply UInt32.toNat_inj.mp
    rw [getInstId_toNat, UInt64.toNat_toUInt32]
    omega
  · apply UInt32.toNat_inj.mp
    rw [getReqId_toNat]
    exact Nat.div_eq_of_lt (by omega)

/-- `SendMsgToIntf` and `ScatterToIntf` name the interface and the instance that they were
given. `SendMsgToIntfAndRecv` does so exactly if the two are the same number. -/
theorem targets_agree (requester : Requester) (world : World) (directories : UInt16 → Directory)
    (fiberReqid mid intf retIntf reqid : UInt32) (inst : UInt64) (message async sync : Message)
    (moduleFits : mid.toNat < 2 ^ 16) (intfFits : intf.toNat < 2 ^ 16)
    (instFits : inst.toNat < 2 ^ 16)
    (sends : sent requester world directories mid intf inst message retIntf = some async)
    (receives : sentAndReceived requester fiberReqid mid intf inst message = some sync) :
    Names async mid intf inst.toUInt32 ∧
      (∀ scattered ∈ scatterMessages requester mid intf retIntf reqid (fun _ => inst) [message],
        Names scattered mid intf inst.toUInt32) ∧
      (Names sync mid intf inst.toUInt32 ↔ intf = inst.toUInt32) := by
  obtain ⟨instPart, noReqid⟩ := small_handle instFits
  have moduleField := field_fits moduleFits
  have intfField := field_fits intfFits
  refine ⟨?_, ?_, ?_⟩
  · obtain ⟨⟨located, after⟩, -, rfl⟩ := Option.map_eq_some_iff.mp sends
    rw [Names, outgoing_target]
    exact ⟨moduleField, intfField, rfl⟩
  · intro scattered member
    obtain rfl := List.mem_singleton.mp member
    exact ⟨moduleField, intfField, instPart⟩
  · have dispatched : requester.currentMessage.map _ = some sync :=
      (if_neg (not_not_intro noReqid)).symm.trans receives
    obtain ⟨current, -, rfl⟩ := Option.map_eq_some_iff.mp dispatched
    have swapped : (getInstId inst).toUInt16.toUInt32 = inst.toUInt32 := by
      rw [field_fits (by rw [getInstId_toNat]; omega), instPart]
    rw [Names, outgoing_target]
    constructor
    · rintro ⟨-, -, instanceField⟩
      exact instanceField
    · intro same
      exact ⟨moduleField, swapped.trans same.symm, same⟩

/-- Node 1 with module 7. -/
def deployed : World :=
  { outpost false none with
    modules := fun key => if key = 7 then some ⟨1, 7, fun _ => none, [], 0⟩ else none }

/-- An actor that handles a message. -/
def handler : Requester := { clerk with currentMessage := some errand }

/-- Tables without an entry. -/
def unlocated : UInt16 → Directory := fun _ => ⟨fun _ => none, fun _ => none⟩

/-- Interface 5 of instance 5. -/
theorem targets_agree_same :
    ∃ async sync, sent handler deployed unlocated 7 5 5 errand 3 = some async ∧
      sentAndReceived handler 1 7 5 5 errand = some sync ∧ Names async 7 5 5 ∧
      Names sync 7 5 5 := by
  refine ⟨_, _, rfl, rfl, ?_⟩
  obtain ⟨async, -, sync⟩ := targets_agree handler deployed unlocated 1 7 5 3 1 5 errand _ _
    (by decide) (by decide) (by decide) rfl rfl
  exact ⟨async, sync.mpr rfl⟩

/-- Interface 3 of instance 5: the synchronous send asks for interface 5 of instance 3. -/
theorem synchronous_send_misnames :
    ∃ async sync, sent handler deployed unlocated 7 3 5 errand 3 = some async ∧
      sentAndReceived handler 1 7 3 5 errand = some sync ∧ Names async 7 3 5 ∧
      Names sync 7 5 3 :=
  ⟨_, _, rfl, rfl, ⟨rfl, rfl, rfl⟩, ⟨rfl, rfl, rfl⟩⟩

/-- The word of a node and an instance: its halves. -/
theorem packed_halves (node inst : UInt32) :
    ((node <<< 16) ||| inst).toNat % 2 ^ 16 = inst.toNat % 2 ^ 16 ∧
      ((node <<< 16) ||| inst).toNat / 2 ^ 16 =
        (node.toNat % 2 ^ 16 ||| inst.toNat / 2 ^ 16) := by
  have shifted : (node <<< 16).toNat = 2 ^ 16 * (node.toNat % 2 ^ 16) := by
    rw [UInt32.toNat_shiftLeft, Nat.shiftLeft_eq, Nat.mul_comm]
    exact Nat.mul_mod_mul_left (2 ^ 16) node.toNat (2 ^ 16)
  rw [UInt32.toNat_or, shifted, Nat.or_mod_two_pow, Nat.or_div_two_pow, Nat.mul_mod_right,
    Nat.zero_or, Nat.mul_div_cancel_left _ (by decide)]
  exact ⟨rfl, rfl⟩

/-- A handle as a number: the request id above a word with the node and the instance. -/
theorem toInstId_toNat (here : UInt32) (aid : ActorID) (reqid : UInt32) :
    (toInstId here aid reqid).toNat = 2 ^ 32 * reqid.toNat +
      ((nodeOf here aid <<< 16) ||| aid.instanceId).toNat := by
  have small := reqid.toNat_lt
  have high : (reqid.toUInt64 <<< 32).toNat = 2 ^ 32 * reqid.toNat := by
    have wide : 2 ^ 32 * reqid.toNat < 2 ^ 64 := by omega
    rw [UInt64.toNat_shiftLeft, UInt32.toNat_toUInt64, Nat.shiftLeft_eq, Nat.mul_comm]
    exact Nat.mod_eq_of_lt wide
  rw [toInstId, UInt64.toNat_or, UInt64.toNat_or, UInt32.toNat_toUInt64, UInt32.toNat_toUInt64,
    high, Nat.or_assoc, ← UInt32.toNat_or]
  exact (Nat.two_pow_add_eq_or_of_lt (UInt32.toNat_lt _) _).symm

/-- A handle gives back a node, an instance and a request id. -/
def Decodes (handle : UInt64) (node inst reqid : UInt32) : Prop :=
  getNodeId handle = node ∧ getInstId handle = inst ∧ getReqId handle = reqid

/-- A handle gives back what it was packed from exactly if the instance has 16 bits and the
high half of the node is the low half of the request id. -/
theorem toInstId_decodes_iff (here : UInt32) (aid : ActorID) (reqid : UInt32) :
    Decodes (toInstId here aid reqid) (nodeOf here aid) aid.instanceId reqid ↔
      aid.instanceId.toNat < 2 ^ 16 ∧
        (nodeOf here aid).toNat / 2 ^ 16 = reqid.toNat % 2 ^ 16 := by
  have number := toInstId_toNat here aid reqid
  obtain ⟨lowInstance, lowNode⟩ := packed_halves (nodeOf here aid) aid.instanceId
  have small := ((nodeOf here aid <<< 16) ||| aid.instanceId).toNat_lt
  rw [Decodes, ← UInt32.toNat_inj, ← UInt32.toNat_inj, ← UInt32.toNat_inj, getNodeId_toNat,
    getInstId_toNat, getReqId_toNat, number]
  generalize ((nodeOf here aid <<< 16) ||| aid.instanceId).toNat = low at *
  -- A short instance leaves the half of the node as it is.
  have short : aid.instanceId.toNat < 2 ^ 16 → low / 2 ^ 16 = (nodeOf here aid).toNat % 2 ^ 16 := by
    intro few
    rw [lowNode, Nat.div_eq_of_lt few, Nat.or_zero]
  constructor
  · rintro ⟨node, inst, -⟩
    have few : aid.instanceId.toNat < 2 ^ 16 := by omega
    have half := short few
    exact ⟨few, by omega⟩
  · rintro ⟨few, halves⟩
    have half := short few
    refine ⟨?_, ?_, ?_⟩
    · omega
    · omega
    · omega

/-- A target seen from one node is an actor seen from another. -/
def Reaches (there : UInt32) (target : ActorID) (here : UInt32) (actor : ActorID) : Prop :=
  target.moduleId = actor.moduleId ∧ target.instanceId = actor.instanceId ∧
    nodeOf there target = nodeOf here actor

/-- The node that a send goes to: the one that the name service found, or the sender's. -/
def locatedNode (there : UInt32) (located : Option UInt32) : UInt32 :=
  if located.getD ActorID.localId = ActorID.localId then there
  else located.getD ActorID.localId

/-- A send to the handle of an actor reaches it exactly if the shifted node adds nothing to the
instance and the name service leads to its node. -/
theorem sendTarget_reaches_iff (there here : UInt32) (located : Option UInt32) (intf : UInt32)
    (actor : ActorID) :
    Reaches there (sendTarget located actor.moduleId intf (toInstId here actor 0)) here actor ↔
      (nodeOf here actor <<< 16) ||| actor.instanceId = actor.instanceId ∧
        locatedNode there located = nodeOf here actor := by
  have number := toInstId_toNat here actor 0
  have low : (toInstId here actor 0).toUInt32 =
      (nodeOf here actor <<< 16) ||| actor.instanceId := by
    apply UInt32.toNat_inj.mp
    have small := ((nodeOf here actor <<< 16) ||| actor.instanceId).toNat_lt
    rw [UInt64.toNat_toUInt32, number]
    exact (congrArg (· % 2 ^ 32) (Nat.zero_add _)).trans (Nat.mod_eq_of_lt small)
  have moduleField : actor.moduleId.toUInt16.toUInt32 = actor.moduleId :=
    field_fits (by rw [ActorID.moduleId, UInt16.toNat_toUInt32]; exact UInt16.toNat_lt _)
  rw [← low]
  constructor
  · rintro ⟨-, inst, node⟩
    exact ⟨inst, node⟩
  · rintro ⟨inst, node⟩
    exact ⟨moduleField, inst, node⟩

/-- The handles that an actor gets for itself and for the sender of its message decode to what
they were made of, and a send to the actor's own handle reaches it, under exactly these
conditions on the ids. -/
theorem handles_round_trip_iff (world there : World) (actor caller : Requester)
    (directories after : UInt16 → Directory) (located : Option UInt32) (intf retIntf : UInt32)
    (message current async : Message) (handle : UInt64)
    (handles : actor.currentMessage = some current)
    (senders : getSenderInstID world actor = some handle)
    (found : getActorAddr there directories actor.id.moduleId (getMyInstID world actor) =
      some (located, after))
    (sends : sent caller there directories actor.id.moduleId intf (getMyInstID world actor)
      message retIntf = some async) :
    (Decodes (getMyInstID world actor) (nodeOf world.localNode.id actor.id)
        actor.id.instanceId 0 ↔
      actor.id.instanceId.toNat < 2 ^ 16 ∧
        (nodeOf world.localNode.id actor.id).toNat < 2 ^ 16) ∧
    (Decodes handle (nodeOf world.localNode.id current.metadata.sender)
        current.metadata.sender.instanceId current.metadata.reqid ↔
      current.metadata.sender.instanceId.toNat < 2 ^ 16 ∧
        (nodeOf world.localNode.id current.metadata.sender).toNat / 2 ^ 16 =
          current.metadata.reqid.toNat % 2 ^ 16) ∧
    (Reaches there.localNode.id async.metadata.target world.localNode.id actor.id ↔
      (nodeOf world.localNode.id actor.id <<< 16) ||| actor.id.instanceId =
          actor.id.instanceId ∧
        locatedNode there.localNode.id located = nodeOf world.localNode.id actor.id) := by
  refine ⟨?_, ?_, ?_⟩
  · rw [getMyInstID, toInstId_decodes_iff]
    exact and_congr_right fun _ => Nat.div_eq_zero_iff_lt (by decide)
  · have packed : handle =
        toInstId world.localNode.id current.metadata.sender current.metadata.reqid := by
      rw [getSenderInstID, handles] at senders
      exact (Option.some.inj senders).symm
    rw [packed]
    exact toInstId_decodes_iff _ _ _
  · rw [sent, found] at sends
    rw [← Option.some.inj sends, outgoing_target]
    exact sendTarget_reaches_iff _ _ located intf actor.id

/-- An instance that has the id of its node in its high half. -/
def foreseen : Requester := { handler with id := ⟨1, 7, 0, 0x10001⟩ }

/-- The handle of instance 1 on node 1 decodes, and a send to that of instance 0x10001 reaches
it. -/
theorem handles_round_trip_some :
    Decodes (getMyInstID deployed handler) 1 1 0 ∧
      ∃ async, sent handler deployed unlocated 7 3 (getMyInstID deployed foreseen) errand 4 =
        some async ∧ Reaches 1 async.metadata.target 1 foreseen.id := by
  obtain ⟨decodes, -, -⟩ := handles_round_trip_iff deployed deployed handler handler unlocated _
    none 3 4 errand errand _ _ rfl rfl rfl rfl
  obtain ⟨-, -, reaches⟩ := handles_round_trip_iff deployed deployed foreseen handler unlocated _
    none 3 4 errand errand _ _ rfl rfl rfl rfl
  exact ⟨decodes.mpr (by decide), _, rfl, reaches.mpr (by decide)⟩

/-- The handle of the sender of a request with id 1 names node 0x10001 instead of node 1, and a
send to the handle of instance 1 on node 1 asks for instance 0x10001. -/
theorem handles_garbled :
    getNodeId (toInstId 1 ⟨1, 7, 0, 1⟩ 1) = 0x10001 ∧
      ∃ async, sent handler deployed unlocated 7 3 (getMyInstID deployed handler) errand 4 =
        some async ∧ async.metadata.target.instanceId = 0x10001 ∧
        ¬Reaches 1 async.metadata.target 1 handler.id := by
  refine ⟨rfl, _, rfl, rfl, ?_⟩
  rintro ⟨-, instanceField, -⟩
  exact absurd instanceField (by decide)

end Sends

end Mola
