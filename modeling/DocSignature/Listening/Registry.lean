/-!
# The registry of addresses

A registry (`ServerRegistry`) keeps the addresses that are registered, so that no two servers of one
program are started on the same one.  Addresses are compared as they are written: `localhost` and
`127.0.0.1` are different.
-/

set_option autoImplicit false

namespace DocSignature.Listening

/-- Where a server listens, as it was asked for. -/
structure Address where
  host : String
  port : UInt16
deriving DecidableEq, Inhabited, Repr

/-- An address as it is shown. -/
def Address.text (a : Address) : String :=
  a.host ++ ":" ++ toString a.port.toNat

/-- Why a server cannot be started. -/
inductive ServerError where
  /-- The registry has the address already. -/
  | alreadyRegistered (address : Address)
  /-- Someone else listens on the address. -/
  | addressInUse (address : Address)
  /-- The operating system refuses the address, for the given reason. -/
  | bind (address : Address) (reason : String)
deriving DecidableEq, Inhabited, Repr

namespace ServerError

/-- The text of an error. -/
def message : ServerError → String
  | alreadyRegistered a => "a server is already registered on " ++ a.text
  | addressInUse a => "address " ++ a.text ++ " is already in use"
  | bind a reason => "failed to bind " ++ a.text ++ ": " ++ reason

/-- The text of what lies behind an error. -/
def cause? : ServerError → Option String
  | bind _ reason => some reason
  | _ => none

end ServerError

/-- The addresses that are registered (`ServerRegistry`). -/
structure Registry where
  bound : List Address := []
  /-- No address is there twice. -/
  nodup : bound.Nodup := by simp

namespace Registry

/-- Whether an address is registered (`is_registered`). -/
def isRegistered (r : Registry) (a : Address) : Bool :=
  r.bound.contains a

/-- Registers an address, unless it is registered already (`register`). -/
def register (r : Registry) (a : Address) : Except ServerError Registry :=
  if h : a ∈ r.bound then .error (.alreadyRegistered a)
  else .ok { bound := a :: r.bound, nodup := List.nodup_cons.2 ⟨h, r.nodup⟩ }

/-- Sets an address free (`release`). -/
def release (r : Registry) (a : Address) : Registry where
  bound := r.bound.erase a
  nodup := r.nodup.erase a

end Registry

end DocSignature.Listening
