import DocSignature.Json.Value
import DocSignature.Workspace.Session

/-!
# Errors of requests

A JSON-RPC error that goes to a client has a code, a text and perhaps some data.
-/

set_option autoImplicit false

namespace DocSignature.Rpc

/-- The kinds of error that clients tell apart. -/
inductive ErrorCode where
  | parseError
  | invalidRequest
  | methodNotFound
  | invalidParams
  | internalError
  | notInitialized
deriving DecidableEq, Inhabited, Repr

/-- The number of a code. -/
def ErrorCode.number : ErrorCode → Int
  | parseError => -32700
  | invalidRequest => -32600
  | methodNotFound => -32601
  | invalidParams => -32602
  | internalError => -32603
  | notInitialized => -32002

/-- An error as a client sees it. -/
structure Error where
  code : ErrorCode
  message : String
  data : Option Json := none

namespace Error

/-- A lookup that fails is an internal error (`to_rpc_error`). -/
def ofLookup (e : LookupError) : Error :=
  ⟨.internalError, e.message, none⟩

/-- A document that cannot be found is the fault of the parameters, a lookup that fails is not. -/
def ofRequest (e : RequestError) : Error :=
  match e with
  | .lookup reason => ofLookup reason
  | _ => ⟨.invalidParams, e.message, none⟩

/-- The error of parameters that do not have the right shape. -/
def malformedParams : Error := ⟨.invalidParams, "malformed parameters", none⟩

/-- The error of a request that comes at the wrong time or in the wrong form. -/
def invalidRequest : Error := ⟨.invalidRequest, "Invalid request", none⟩

/-- The error of a request before the session has begun. -/
def notInitialized : Error := ⟨.notInitialized, "Server not initialized", none⟩

/-- The error of a known method that the server does not provide. -/
def notProvided : Error := ⟨.methodNotFound, "Method not found", none⟩

/-- The error of a method that nobody knows. -/
def unknownMethod (method : String) : Error :=
  ⟨.methodNotFound, "Method not found", some (.string method)⟩

/-- An error as an object. -/
def toJson (e : Error) : Json :=
  .object ([("code", .integer e.code.number), ("message", .string e.message)] ++
    (e.data.map fun d => ("data", d)).toList)

end Error

end DocSignature.Rpc
