/-!
# Events

What a lookup tells an observer on its way to an answer.  Events are part of the result: a lookup
gives the list of them in the order in which they happened.
-/

set_option autoImplicit false

namespace DocSignature

/-- How much an event matters. -/
inductive Level where
  | trace
  | debug
  | warn
deriving DecidableEq, Inhabited, Repr

/-- An event of a lookup. -/
inductive Event where
  /-- A source was parsed. -/
  | parsed (bytes : Nat) (hasErrors : Bool)
  /-- Two definitions of one scope contain the line; the first one is taken. -/
  | overlap (line : Nat) (first second : String)
  /-- The search goes on inside a definition. -/
  | narrowing (line : Nat) (name : String) (start stop : Nat)
  /-- No definition contains the line. -/
  | noDefinition (line : Nat)
  /-- The innermost definition is a class. -/
  | resolvedToClass (line : Nat) (name : String)
  /-- A return annotation consists of a number of nodes other than one. -/
  | annotationIgnored (nodes : Nat)
deriving DecidableEq, Repr

namespace Event

/-- How much an event matters. -/
def level : Event → Level
  | parsed .. | narrowing .. => .trace
  | overlap .. => .warn
  | noDefinition .. | resolvedToClass .. | annotationIgnored .. => .debug

/-- What an event says, apart from its details. -/
def message : Event → String
  | parsed .. => "parsed python source"
  | overlap .. => "overlapping sibling definitions contain the same line"
  | narrowing .. => "narrowing into definition"
  | noDefinition .. => "no definition encloses line"
  | resolvedToClass .. => "line resolves to a class"
  | annotationIgnored .. => "ignoring return annotation without exactly one node"

end Event

end DocSignature
