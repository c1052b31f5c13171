import Taskweavn.Py.Value

/-!
# Command envelopes

What the user interface and the services behind it hand to each other
(`taskweavn/server/ui_contract`).  A response says whether the command was accepted;
its constructor checks that the flag, the result and the error fit together, and
`CommandResponse` carries the check.

The references of a result, its debug references and the refresh hint tell the
interface what to load again; no service reads them, and they are left out.
-/

namespace Taskweavn

open Lib Py

structure CommandRequest (α : Type) where
  commandId : String
  sessionId : String
  idempotencyKey : Option String := none
  expectedVersion : Option ℕ := none
  payload : α
deriving DecidableEq

structure ApiError where
  code : String
  message : String
  retryable : Bool := false
  details : List (String × PyValue) := []
deriving DecidableEq

inductive CommandStatus
  | accepted
  | rejected
deriving DecidableEq, Repr

structure CommandResult where
  commandId : String
  status : CommandStatus
  message : String
deriving DecidableEq

/-- `CommandResponse._validate_envelope` -/
def envelopeOk (ok : Bool) (result : Option CommandResult) (error : Option ApiError) : Bool :=
  if ok then result.any (fun r => r.status == .accepted) && error.isNone else error.isSome

structure CommandResponse where
  requestId : String
  ok : Bool
  result : Option CommandResult
  error : Option ApiError
  valid : envelopeOk ok result error = true
deriving DecidableEq

namespace CommandResponse

def acceptedWith (requestId message : String) : CommandResponse where
  requestId := requestId
  ok := true
  result := some { commandId := requestId, status := .accepted, message := message }
  error := none
  valid := rfl

def failedWith (requestId : String) (error : ApiError) : CommandResponse where
  requestId := requestId
  ok := false
  result := none
  error := some error
  valid := rfl

/-- `response.ok and response.result is not None` -/
def accepted (r : CommandResponse) : Bool := r.ok && r.result.isSome

end CommandResponse

end Taskweavn
