import Mola.Requests
import Mola.Runs
import Mathlib.Logic.Function.Basic

/-!
# One actor and the calls that it has open

A ledger stands beside an actor. It numbers the calls of the actor and keeps for each
one its request id, how many answers it can get, the answers so far, and the root: the
request or scatter message on whose behalf the call was made. The world answers the
calls of the ledger, in any order, each as often as it has messages out, and sends
requests and scatter messages as it likes. The actor sees request ids only; the ledger
knows which call an answer belongs to, and so says what the actor should find.

The log records what the actor did, and every value that was returned is noted together
with the root that it should answer.
-/

namespace Mola.Requests

open Tickets

universe u
variable {Body : Type u}

/-- A call: its request id and return interface, the number of messages that can answer
it, whether it is a scatter, whether a context was recorded for it, the answers that
were handled, and its root. -/
structure Call (Body : Type u) where
  reqid : Nat
  intf : Nat
  size : Nat
  scatter : Bool
  recorded : Bool
  answers : List Body
  root : Option (Message Body)

/-- A call that can still be answered. -/
def Call.Open (call : Call Body) : Prop := call.answers.length < call.size

/-- An actor with the ledger of its calls, the root of the frame that runs, the roots of
the saved return states, the returned values with their roots, and the log. -/
structure Solo (Body : Type u) where
  actor : Actor Body
  ledger : Nat → Option (Call Body)
  root : Option (Message Body)
  savedRoots : Nat → Option (Message Body)
  replies : List (Message Body × Message Body)
  log : List (Effect Body)

/-- The world delivers a request or scatter message or a message without request id,
answers a call, or the actor takes an action. -/
inductive Action (Body : Type u) where
  | arrive (message : Message Body)
  | answer (call : Nat) (sender : Address) (body : Body)
  | act (act : Act Body)

/-- The root of a value: that of the frame, or that of the saved state. A value returned
by an interface that handled a gather message has none. -/
def rootOf (solo : Solo Body) : Source → Option (Message Body)
  | .callback => solo.root
  | .gatherCallback => solo.root
  | .gatherHandler => none
  | .saved handle => solo.savedRoots handle

/-- Note an effect in the ledger. -/
def note (solo : Solo Body) : Effect Body → Solo Body
  | .called call reqid intf size scatter recorded =>
      { solo with
        ledger := Function.update solo.ledger call
          (some ⟨reqid, intf, size, scatter, recorded, [], solo.root⟩) }
  | .replied source message =>
      { solo with
        replies := solo.replies ++ ((rootOf solo source).map fun root => (message, root)).toList }
  | .saved handle =>
      { solo with savedRoots := Function.update solo.savedRoots handle solo.root }
  | _ => solo

/-- The actor after an action, with its effects noted and logged. -/
def advance (solo : Solo Body) (result : Actor Body × List (Effect Body)) : Solo Body :=
  let noted := result.2.foldl note solo
  { noted with actor := result.1, log := solo.log ++ result.2 }

/-- A message that is no answer to a call. -/
def Message.isCall (message : Message Body) : Bool :=
  message.kind = .request ∨ message.kind = .scatter

/-- The answer to a call, as a responder sends it. -/
def answerTo (solo : Solo Body) (number : Nat) (call : Call Body) (sender : Address)
    (body : Body) : Message Body where
  kind := if call.scatter then .gather else .response
  reqid := call.reqid
  sender := sender
  target := { solo.actor.self with intf := call.intf }
  call := number
  body := body

/-- One step of the actor with its ledger. -/
def soloStep (solo : Solo Body) : Action Body → Option (Solo Body)
  | .arrive message =>
      if message.isCall ∨ message.reqid = 0 then
        (step solo.actor (.receive message)).map
          (advance { solo with root := if message.isCall then some message else none })
      else none
  | .answer number sender body =>
      match solo.ledger number with
      | none => none
      | some call =>
          if call.answers.length < call.size then
            (step solo.actor (.receive (answerTo solo number call sender body))).map
              (advance { solo with
                ledger := Function.update solo.ledger number
                  (some { call with answers := call.answers ++ [body] })
                root := call.root })
          else none
  | .act (.receive _) => none
  | .act act => (step solo.actor act).map (advance solo)

/-- The actor in its init callback, with an empty ledger. -/
def begin (self : Address) (sync : Nat → Bool) : Solo Body where
  actor := create self sync
  ledger := fun _ => none
  root := none
  savedRoots := fun _ => none
  replies := []
  log := []

end Mola.Requests
