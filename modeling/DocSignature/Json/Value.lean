/-!
# JSON values

Numbers are kept apart by how they are written: an integer without fraction and exponent is exact,
any other number is kept as its text.  The members of an object keep their order.
-/

set_option autoImplicit false

namespace DocSignature

/-- A JSON value. -/
inductive Json where
  | null
  | bool (value : Bool)
  | integer (value : Int)
  /-- A number with a fraction or an exponent, a negative zero, or one beyond 64 bits. -/
  | real (text : String)
  | string (value : String)
  | array (items : List Json)
  | object (members : List (String × Json))
deriving Inhabited, Repr

namespace Json

/-- A natural number as a JSON value. -/
def nat (n : Nat) : Json := .integer n

/-- A text or nothing. -/
def optString : Option String → Json
  | some s => .string s
  | none => .null

/-- The member of an object under a key; of several with one key the last counts. -/
def member? (key : String) (members : List (String × Json)) : Option Json :=
  (members.reverse.find? (·.1 == key)).map (·.2)

/-- The member of a value under a key; only objects have members. -/
def get? (key : String) : Json → Option Json
  | .object members => member? key members
  | _ => none

/-- The text that a value is. -/
def asString? : Json → Option String
  | .string s => some s
  | _ => none

/-- The natural number below a bound that a value is. -/
def asNatBelow? (bound : Nat) : Json → Option Nat
  | .integer n => if 0 ≤ n ∧ n < bound then some n.toNat else none
  | _ => none

/-- The items of an array. -/
def asArray? : Json → Option (List Json)
  | .array items => some items
  | _ => none

/-- A value that may be left out or null. -/
def asOptional? {α : Type} (decode : Json → Option α) : Option Json → Option (Option α)
  | none | some .null => some none
  | some v => (decode v).map some

end Json

end DocSignature
