import DocSignature.Json.Value
import DocSignature.Signature.Uuid

/-!
# Records as JSON

A record is an object with its fields as members.  Reading one ignores other members, takes a
missing optional field for null, and also accepts an array of exactly the fields in order.
-/

set_option autoImplicit false

namespace DocSignature

namespace Parameter

/-- A parameter as an object. -/
def toJson (p : Parameter) : Json :=
  .object
    [("name", .string p.name),
     ("annotation", .optString p.typehint),
     ("default", .optString p.default)]

/-- Reads a parameter from its fields. -/
def ofFields? (name typehint default : Option Json) : Option Parameter := do
  let name ← (← name).asString?
  let typehint ← Json.asOptional? Json.asString? typehint
  let default ← Json.asOptional? Json.asString? default
  return { name, typehint, default }

/-- Reads a parameter from an object or an array. -/
def ofJson? : Json → Option Parameter
  | .object ms =>
    ofFields? (Json.member? "name" ms) (Json.member? "annotation" ms) (Json.member? "default" ms)
  | .array [name, typehint, default] => ofFields? name typehint default
  | _ => none

end Parameter

namespace Signature

/-- The members of a signature. -/
def members (s : Signature) : List (String × Json) :=
  [("func_name", .string s.funcName),
   ("params", .array (s.params.map Parameter.toJson)),
   ("return_typehint", .optString s.returnTypehint),
   ("raise_types", .array (s.raiseTypes.map .string))]

/-- A signature as an object. -/
def toJson (s : Signature) : Json :=
  .object s.members

end Signature

namespace SignatureRecord

/-- A record as an object. -/
def toJson (r : SignatureRecord) : Json :=
  .object (r.toSignature.members ++ [("id", .string r.id.toText)])

/-- Reads a record from its fields. -/
def ofFields? (funcName params returnTypehint raiseTypes id : Option Json) :
    Option SignatureRecord := do
  let funcName ← (← funcName).asString?
  let params ← (← (← params).asArray?).mapM Parameter.ofJson?
  let returnTypehint ← Json.asOptional? Json.asString? returnTypehint
  let raiseTypes ← (← (← raiseTypes).asArray?).mapM Json.asString?
  let id ← Uuid.ofText? (← (← id).asString?)
  return { funcName, params, returnTypehint, raiseTypes, id }

/-- Reads a record from an object or an array. -/
def ofJson? : Json → Option SignatureRecord
  | .object ms =>
    ofFields? (Json.member? "func_name" ms) (Json.member? "params" ms)
      (Json.member? "return_typehint" ms) (Json.member? "raise_types" ms) (Json.member? "id" ms)
  | .array [funcName, params, returnTypehint, raiseTypes, id] =>
    ofFields? funcName params returnTypehint raiseTypes id
  | _ => none

end SignatureRecord

end DocSignature
