import Mola.HashTable

/-!
# The actors of the key-value store

A request passes through three actors. `Driver` forwards the package of a client to `Hash`,
which parses it, allocates the blocks of the key and the value, and sends a request to the
instance of `HashTable` that the hash of the key selects. The `Ret` of the table goes back to
`Hash`, which copies it, and to `Driver`, which formats the reply. A `Ret` for a key that was
found has the addresses of the table's own blocks.

A step is the handling of one message by one actor, and the messages under way are handled in
any order. The history records what the blocks of a `Ret` held when `OnGetReq` returned it,
and what they hold when `OnReqReturn` reads them. A package on which the parser leaves its
buffer or ends the process has no step. The sockets and the framing of packages are outside
the model, and so is the release of the messages themselves.
-/

namespace Mola.KeyValueStore

open JenkinsHash (keyHash)
open HashTable (Heap Store SetReq GetReq Ret init available alloc handleSet onGetReq setRequest
  getRequest)

/-- `KEY_RANGE_MASK`. -/
def keyRangeMask : UInt32 := 0xffffffff >>> (32 - UInt32.ofNat HashTable.nInstancePower)

/-- The instance of `HashTable` for a key: `(node_id << 16) | inst_id`, with node 0. -/
def instId (key : List UInt8) : Nat := (keyHash key &&& keyRangeMask).toNat

/-- The bytes of an ASCII text. -/
def ascii (text : String) : List UInt8 := text.toList.map fun letter => UInt8.ofNat letter.toNat

/-- A string that ends with NUL before its block does. -/
def cString (bytes : List UInt8) : Option (List UInt8) :=
  if 0 ∈ bytes then some (bytes.takeWhile fun byte => byte ≠ 0) else none

/-- `isspace`. -/
def isSpace (byte : UInt8) : Bool := byte = 32 || (9 ≤ byte && byte ≤ 13)

/-- The digits of `atoi`, as far as the block goes. -/
def digits : List UInt8 → Nat → Option Nat
  | [], _ => none
  | byte :: rest, number =>
      if 48 ≤ byte ∧ byte ≤ 57 then digits rest (number * 10 + (byte - 48).toNat)
      else some number

/-- `size_t vsize = atoi(..)`. A number that does not fit an `int` is undefined; a negative one
is a size that cannot be allocated. -/
def sizeAtoi (bytes : List UInt8) : Option Nat :=
  let bytes := bytes.dropWhile isSpace
  let negative := bytes.head? = some 45
  let bytes := if negative ∨ bytes.head? = some 43 then bytes.tail else bytes
  match digits bytes 0 with
  | none => none
  | some number => if number < 2 ^ 31 ∧ (negative → number = 0) then some number else none

/-- A parsed package. -/
inductive Command where
  | set (key value : List UInt8)
  | get (key : List UInt8)
  | other
deriving DecidableEq

/-- The parsing of `parseAndProcRecvCmd`. A `get` needs a `'\r'` before the NUL. -/
def parseCommand (buffer : List UInt8) : Option Command :=
  if buffer.take 3 = ascii "set" then
    match cString (buffer.drop 4) with
    | none => none
    | some key =>
        let rest := buffer.drop (4 + key.length + 5)
        match sizeAtoi rest with
        | none => none
        | some vsize =>
            let rest := rest.drop 3
            if vsize ≤ rest.length then some (.set key (rest.take vsize)) else none
  else if buffer.take 3 = ascii "get" then
    let rest := buffer.drop 4
    let key := rest.takeWhile fun byte => byte ≠ 13 ∧ byte ≠ 0
    if rest[key.length]? = some 13 then some (.get key) else none
  else some .other

/-- A message to an instance of `HashTable`. -/
inductive Message where
  | set (sreq : SetReq)
  | get (greq : GetReq)

/-- A message to an instance, and the client whose package it is. -/
structure Call where
  client : Nat
  inst : Nat
  message : Message

/-- What `OnGetReq` found: the key it was asked for, and the blocks of the bucket. -/
structure Sight where
  asked : Option (List UInt8)
  key : Option (List UInt8)
  value : Option (List UInt8)
deriving DecidableEq

/-- A `Ret` under way to a client. The last field is history, and `none` for a miss and for
the reply to a set. -/
structure Reply where
  client : Nat
  ret : Ret
  seen : Option Sight

/-- A reply that was formatted, with the blocks at that time. A text of `none` is undefined. -/
structure Shown where
  reply : Reply
  key : Option (List UInt8)
  value : Option (List UInt8)
  text : Option (List UInt8)

/-- The heap and the tables, the messages under way, and the history. -/
structure System where
  store : Store
  requests : List (Nat × List UInt8)
  calls : List Call
  returns : List Reply
  replies : List Reply
  shown : List Shown

/-- The modules are loaded and no client has sent anything. -/
def start (garbage : Nat → Nat → Nat) : System := ⟨init garbage, [], [], [], [], []⟩

/-- The size of the buffer for a reply. -/
def sendBufSize : Nat := 512

/-- The text that `OnReqReturn` sends. -/
def replyText (heap : Heap) (ret : Ret) : Option (List UInt8) :=
  if ret.key = 0 then some (ascii "VALUE miss 4 4\r\nmiss\r\nEND\r\n")
  else if ret.key = 1 then some (ascii "VALUE aaa 3 3\r\nbbb\r\nEND\r\n")
  else
    match (heap ret.key).bind cString, (heap ret.value).bind cString with
    | some key, some value =>
        let text := ascii "VALUE " ++ key ++ ascii (s!" {ret.ksize} {ret.vsize}\r\n") ++ value ++
          ascii "\r\nEND\r\n"
        if text.length < sendBufSize then some text else none
    | _, _ => none

/-- What an instance of `HashTable` does with a message, and its reply. -/
def handle (store : Store) (call : Call) : Store × Option Reply :=
  match call.message with
  | .set sreq => (handleSet store call.inst sreq, some ⟨call.client, ⟨1, 0, 0, 0⟩, none⟩)
  | .get greq =>
      match onGetReq store.heap (store.tables call.inst) greq with
      | none => ({ store with broken := true }, none)
      | some ret =>
          (store, some ⟨call.client, ret,
            if ret.key = 0 then none
            else some ⟨store.heap greq.key, store.heap ret.key, store.heap ret.value⟩⟩)

/-- The handling of a message, which is named by its place among those under way. The parser
is given the addresses that `malloc` returns. -/
inductive Action where
  | onNewPackage (client : Nat) (package : List UInt8)
  | onReq (index keyAt valueAt : Nat)
  | handle (index : Nat)
  | onReqRet (index : Nat)
  | onReqReturn (index : Nat)

/-- `OnReq`, for a package that was parsed. -/
def onReq (system : System) (index client keyAt valueAt : Nat) : Command → Option System
  | .other => some { system with requests := system.requests.eraseIdx index }
  | .set key value =>
      if available system.store.heap keyAt && available system.store.heap valueAt &&
          keyAt ≠ valueAt then
        some { system with
          store := alloc (alloc system.store keyAt (key ++ [0])) valueAt (value ++ [0])
          requests := system.requests.eraseIdx index
          calls := system.calls ++
            [⟨client, instId key, .set (setRequest key value keyAt valueAt)⟩] }
      else none
  | .get key =>
      if available system.store.heap keyAt then
        some { system with
          store := alloc system.store keyAt key
          requests := system.requests.eraseIdx index
          calls := system.calls ++ [⟨client, instId key, .get (getRequest key keyAt)⟩] }
      else none

/-- One actor handles one message. -/
def step (system : System) : Action → Option System
  | .onNewPackage client package =>
      if package = [] then some system
      else some { system with requests := system.requests ++ [(client, package ++ [0])] }
  | .onReq index keyAt valueAt =>
      match system.requests[index]? with
      | none => none
      | some (client, buffer) =>
          match parseCommand buffer with
          | none => none
          | some command => onReq system index client keyAt valueAt command
  | .handle index =>
      match system.calls[index]? with
      | none => none
      | some call =>
          some { system with
            store := (handle system.store call).1
            calls := system.calls.eraseIdx index
            returns := system.returns ++ (handle system.store call).2.toList }
  | .onReqRet index =>
      match system.returns[index]? with
      | none => none
      | some reply =>
          some { system with
            returns := system.returns.eraseIdx index
            replies := system.replies ++ [reply] }
  | .onReqReturn index =>
      match system.replies[index]? with
      | none => none
      | some reply =>
          some { system with
            replies := system.replies.eraseIdx index
            shown := system.shown ++ [⟨reply, system.store.heap reply.ret.key,
              system.store.heap reply.ret.value, replyText system.store.heap reply.ret⟩] }

/-- A formatted reply to a get that found its key: the blocks of the `Ret` are live, and hold
the key that was asked for and what they held when the get was handled. -/
def Shown.Right (shown : Shown) : Prop :=
  ∀ sight ∈ shown.reply.seen, ∃ key value, sight = ⟨some key, some (key ++ [0]), some value⟩ ∧
    shown.key = some (key ++ [0]) ∧ shown.value = some value

/-- A set is handled only when no reply to a get that found the same key is under way. -/
def undisturbed (system : System) : Action → Bool
  | .handle index =>
      match system.calls[index]? with
      | some ⟨_, _, .set sreq⟩ =>
          (system.returns ++ system.replies).all fun reply =>
            match reply.seen with
            | none => true
            | some sight => sight.key ≠ system.store.heap sreq.key
      | _ => true
  | _ => true

end Mola.KeyValueStore
