/-!
# Signature records

A signature describes a function to an editor: its name, its parameters, its return annotation and
the exceptions it raises, each as it stands in the source.  A record is a signature with an
identifier that tells one answer from another.
-/

set_option autoImplicit false

namespace DocSignature

/-- One entry of a parameter list. -/
structure Parameter where
  name : String
  typehint : Option String
  default : Option String
deriving DecidableEq, Inhabited, Repr

/-- What a function's header and body tell about its use. -/
structure Signature where
  funcName : String
  params : List Parameter
  returnTypehint : Option String
  raiseTypes : List String
deriving DecidableEq, Inhabited, Repr

/-- A UUID, as 128 bits. -/
abbrev Uuid := BitVec 128

/-- A signature with the identifier of the answer that carries it. -/
structure SignatureRecord extends Signature where
  id : Uuid
deriving DecidableEq, Repr

/-- Whether two records have the same signature, whatever their identifiers (`same_signature`). -/
def SignatureRecord.sameSignature (a b : SignatureRecord) : Bool :=
  a.toSignature == b.toSignature

end DocSignature
