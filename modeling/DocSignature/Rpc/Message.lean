import DocSignature.Rpc.Error

/-!
# Messages

The messages of JSON-RPC.  Clients send requests, which carry an identifier and want a response, and
notifications, which do not.
-/

set_option autoImplicit false

namespace DocSignature.Rpc

/-- The identifier of a request. -/
inductive RequestId where
  | number (value : Int)
  | text (value : String)
  | null
deriving DecidableEq, Inhabited, Repr

namespace RequestId

/-- Reads an identifier. -/
def ofJson? : Json → Option RequestId
  | .integer n => if -(Int.pow 2 63) ≤ n ∧ n < Int.pow 2 63 then some (.number n) else none
  | .string s => some (.text s)
  | .null => some .null
  | _ => none

/-- An identifier as a value. -/
def toJson : RequestId → Json
  | number n => .integer n
  | text s => .string s
  | null => .null

end RequestId

/-- A message of a client. -/
structure Request where
  method : String
  params : Option Json
  /-- A message without identifier wants no response. -/
  id : Option RequestId

/-- The fields of a value, which is an object or an array of exactly the fields in order. -/
def fields? (names : List String) : Json → Option (List (Option Json))
  | .object ms => some (names.map (Json.member? · ms))
  | .array items => if items.length = names.length then some (items.map some) else none
  | _ => none

/-- Reads a message from its fields. -/
def Request.ofFields? (version method params id : Option Json) : Option Request := do
  if (← (← version).asString?) != "2.0" then none
  let method ← match method with
    | none => some ""
    | some m => m.asString?
  let id ← match id with
    | none => some none
    | some v => (RequestId.ofJson? v).map some
  return { method, params, id }

/-- Reads a message. -/
def Request.ofJson? : Json → Option Request
  | .object ms =>
    ofFields? (Json.member? "jsonrpc" ms) (Json.member? "method" ms) (Json.member? "params" ms)
      (Json.member? "id" ms)
  | .array items =>
    if items.length ≤ 4 then ofFields? items[0]? items[1]? items[2]? items[3]? else none
  | _ => none

/-- The response to a request. -/
structure Response where
  id : RequestId
  result : Except Error Json

/-- A response as an object. -/
def Response.toJson (r : Response) : Json :=
  .object [("jsonrpc", .string "2.0"),
    (match r.result with
      | .ok v => ("result", v)
      | .error e => ("error", e.toJson)),
    ("id", r.id.toJson)]

/-- A notification to the client. -/
def notificationJson (method : String) (params : Json) : Json :=
  .object [("jsonrpc", .string "2.0"), ("method", .string method), ("params", params)]

end DocSignature.Rpc
