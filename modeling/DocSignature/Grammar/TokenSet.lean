/-!
# Sets of tokens

A set of token numbers is a natural number whose binary digits say which tokens are members.
-/

set_option autoImplicit false

namespace DocSignature.Grammar

/-- A set of token numbers, one binary digit each. -/
structure TokenSet where
  bits : Nat
deriving BEq, DecidableEq, Inhabited

namespace TokenSet

/-- The set without members. -/
def empty : TokenSet := ⟨0⟩

/-- The set of one token. -/
def single (t : Nat) : TokenSet := ⟨1 <<< t⟩

/-- Whether a token is a member. -/
def contains (s : TokenSet) (t : Nat) : Bool := s.bits.testBit t

/-- Members of either set. -/
def union (a b : TokenSet) : TokenSet := ⟨a.bits ||| b.bits⟩

/-- Members of both sets. -/
def inter (a b : TokenSet) : TokenSet := ⟨a.bits &&& b.bits⟩

/-- Members of the first set that are not in the second. -/
def diff (a b : TokenSet) : TokenSet := ⟨a.bits ^^^ (a.bits &&& b.bits)⟩

/-- Whether there is no member. -/
def isEmpty (s : TokenSet) : Bool := s.bits == 0

/-- The set with one more token. -/
def insert (s : TokenSet) (t : Nat) : TokenSet := s.union (.single t)

/-- The set of the tokens of an array. -/
def ofArray (ts : Array Nat) : TokenSet := ts.foldl insert empty

/-- The tokens below `bound` that a test accepts, gathered in pieces of 32. -/
def ofTest (bound : Nat) (test : Nat → Bool) : TokenSet :=
  let piece := fun (k : Nat) => (List.range 32).foldl (fun acc i =>
    if 32 * k + i < bound && test (32 * k + i) then acc + (1 <<< i) else acc) 0
  ⟨(List.range (bound / 32 + 1)).foldl (fun acc k => acc + (piece k <<< (32 * k))) 0⟩

/-- The members below `bound`, in increasing order. -/
def toArray (s : TokenSet) (bound : Nat) : Array Nat :=
  (Array.range bound).filter s.contains

/-- The digits in pieces of 63, so that all of them count. -/
instance : Hashable TokenSet where
  hash s := mixHash (hash (s.bits % Nat.pow 2 63)) (hash (s.bits >>> 63))

end TokenSet

end DocSignature.Grammar
