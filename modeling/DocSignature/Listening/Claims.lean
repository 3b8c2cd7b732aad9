import DocSignature.Listening.Registry

/-!
# Claims on addresses

Whoever registers an address (`register`) holds a claim on it, the guard `Registration`, until the
guard is dropped.  A server first claims its address and then binds it (`bind_tcp`), which may take
a while and may fail; its claim lasts from the first moment on, and ends when binding fails or when
the server is dropped.
-/

set_option autoImplicit false

namespace DocSignature.Listening

/-- What a claim is for. -/
inductive Stage where
  /-- The claim is held for its own sake. -/
  | held
  /-- A server has claimed its address and not bound it yet. -/
  | binding
  /-- A server listens on the address. -/
  | listening
deriving DecidableEq, Inhabited, Repr

/-- A claim that has not ended (`Registration`). -/
structure Claim where
  id : Nat
  address : Address
  stage : Stage
deriving DecidableEq, Inhabited, Repr

/-- A registry and the claims on it. -/
structure Claims where
  registry : Registry := {}
  /-- The claims that have not ended. -/
  live : List Claim := []
  /-- The identifier of the next claim. -/
  next : Nat := 0

/-- What can happen to claims. -/
inductive Action where
  /-- Someone registers an address. -/
  | register (address : Address)
  /-- A server claims its address and starts to bind it. -/
  | startBind (address : Address)
  /-- A server has bound its address. -/
  | bindSucceeds (id : Nat)
  /-- A server could not bind its address. -/
  | bindFails (id : Nat)
  /-- A claim is dropped, alone or with the server that holds it. -/
  | drop (id : Nat)
deriving DecidableEq, Inhabited, Repr

/-- What an action comes to. -/
inductive Reply where
  /-- A new claim. -/
  | claimed (id : Nat)
  | refused (reason : ServerError)
  /-- Nothing more to say. -/
  | done
deriving DecidableEq, Inhabited, Repr

namespace Claims

/-- The claim with an identifier. -/
def get? (c : Claims) (id : Nat) : Option Claim :=
  c.live.find? (·.id == id)

/-- Makes a claim. -/
def claim (c : Claims) (a : Address) (stage : Stage) : Claims × Reply :=
  match c.registry.register a with
  | .error e => (c, .refused e)
  | .ok registry =>
    ({ registry, live := ⟨c.next, a, stage⟩ :: c.live, next := c.next + 1 }, .claimed c.next)

/-- Ends a claim (`drop`). -/
def endClaim (c : Claims) (k : Claim) : Claims :=
  { c with registry := c.registry.release k.address, live := c.live.filter (·.id != k.id) }

/-- The claims after an action, and what it comes to.  Actions on claims that have ended, and on
binds that are not under way, come to nothing. -/
def step (c : Claims) : Action → Claims × Reply
  | .register a => c.claim a .held
  | .startBind a => c.claim a .binding
  | .bindSucceeds id =>
    ({ c with live := c.live.map fun k =>
        if k.id = id ∧ k.stage = .binding then { k with stage := .listening } else k }, .done)
  | .bindFails id =>
    match c.get? id with
    | some k => if k.stage = .binding then (c.endClaim k, .done) else (c, .done)
    | none => (c, .done)
  | .drop id =>
    match c.get? id with
    | some k => (c.endClaim k, .done)
    | none => (c, .done)

/-- The claims after some actions. -/
def run (c : Claims) (actions : List Action) : Claims :=
  actions.foldl (fun c a => (c.step a).1) c

end Claims

end DocSignature.Listening
