import DocSignature.Listening.Claims
import DocSignature.Url.Host

/-!
# Binding addresses

A network answers one question: on which endpoint a server listens once it is bound to an address.
`Claims.serve` claims an address and binds it (`bind_tcp`).  `PortTable` is a network held in
memory.
-/

set_option autoImplicit false

namespace DocSignature.Listening

/-- Where a server listens, once it is bound. -/
structure Endpoint where
  ip : String
  port : UInt16
deriving DecidableEq, Inhabited, Repr

/-- Why an address cannot be bound. -/
inductive BindFailure where
  | addressInUse
  /-- Any other reason, in the words of the operating system. -/
  | other (reason : String)
deriving DecidableEq, Inhabited, Repr

/-- The error of a server whose address cannot be bound. -/
def BindFailure.error (a : Address) : BindFailure → ServerError
  | addressInUse => .addressInUse a
  | other reason => .bind a reason

/-- What can be asked of a network. -/
structure Network where
  /-- Binds an address. -/
  bind : Address → Except BindFailure Endpoint

/-- Claims an address for a server and binds it (`bind_tcp`).  If it cannot be bound, the claim
ends. -/
def Claims.serve (c : Claims) (network : Network) (a : Address) :
    Claims × Except ServerError (Nat × Endpoint) :=
  match c.step (.startBind a) with
  | (c, .claimed id) =>
    match network.bind a with
    | .ok endpoint => ((c.step (.bindSucceeds id)).1, .ok (id, endpoint))
    | .error failure => ((c.step (.bindFails id)).1, .error (failure.error a))
  | (c, .refused e) => (c, .error e)
  | (c, .done) => (c, .error (.alreadyRegistered a))

/-! ## A network in memory -/

/-- The endpoints that are in use. -/
structure PortTable where
  used : List Endpoint := []

namespace PortTable

/-- The texts that stand for every endpoint of a machine. -/
def anyAddress : List String := ["0.0.0.0", "::"]

/-- The address of a host: the machine itself, or an address written out. -/
def resolve? (host : String) : Option String :=
  let cs := host.toList
  if cs.map Char.toLower = "localhost".toList then some "127.0.0.1"
  else
    match Url.address6? cs with
    | some gs => some (Url.address6Text gs)
    | none =>
      let parts := Url.splitAll (· == '.') cs
      if parts.length = 4 ∧ parts.all fun p => (Url.decimalByte? p).isSome then some host else none

/-- Whether a port of a machine is in use. -/
def isUsed (t : PortTable) (ip : String) (port : UInt16) : Bool :=
  t.used.any fun e =>
    e.port == port && (e.ip == ip || anyAddress.contains e.ip || anyAddress.contains ip)

/-- The first of the ports that are given out freely. -/
def firstFreePort : Nat := 32768

/-- A port that is not in use. -/
def freePort (t : PortTable) (ip : String) : UInt16 :=
  (((List.range (Nat.pow 2 15)).map fun n => UInt16.ofNat (firstFreePort + n)).find?
    fun p => !t.isUsed ip p).getD (UInt16.ofNat firstFreePort)

/-- The first port that needs no privilege. -/
def firstOpenPort : UInt16 := 1024

/-- A port table as a network.  Port zero stands for any free port. -/
def network (t : PortTable) : Network where
  bind a :=
    match resolve? a.host with
    | none => .error (.other "failed to lookup address information: Name or service not known")
    | some ip =>
      if a.port = 0 then .ok ⟨ip, t.freePort ip⟩
      else if a.port < firstOpenPort then .error (.other "Permission denied (os error 13)")
      else if t.isUsed ip a.port then .error .addressInUse
      else .ok ⟨ip, a.port⟩

end PortTable

end DocSignature.Listening
