import DocSignature.Signature.Definition
import DocSignature.Signature.Event
import DocSignature.Signature.Record

/-!
# Reading a signature off a function

What `extract_signature` reads comes from the function's own node: the entries of its parameter
list, the node between `->` and `:`, and the `raise` statements of its body that belong to no inner
definition.
-/

set_option autoImplicit false

namespace DocSignature

open Syntax

/-- What keeps a lookup from giving an answer. -/
inductive LookupError where
  /-- The parser gave no tree. -/
  | noTree
  /-- A function has no parameter list. -/
  | missingParameters (name : String) (line : Nat)
deriving DecidableEq, Inhabited, Repr

/-- The text of an error. -/
def LookupError.message : LookupError → String
  | noTree => "parser produced no syntax tree"
  | missingParameters name line =>
    "function \x60" ++ name ++ "\x60 at line " ++ toString line ++ " has no parameter list"

/-- The trimmed text of the child that fills a role (`field_text`). -/
def fieldText (tree : SyntaxTree) (node : Nat) (field : Field) : Option String :=
  (tree.childByField node field).map tree.text

/-- The name of a parameter entry (`parameter_name`): the identifier that fills its `name` role,
else the first identifier below it, else its whole text.  The stars of `*args` and `**kwargs` stand
before the identifier and are left out. -/
def parameterName (tree : SyntaxTree) (param : Nat) : String :=
  let named := (tree.childByField param .name).filter fun n => tree.kind n == .identifier
  let inside := ((tree.descendants param).drop 1).find? fun n => tree.kind n == .identifier
  tree.text ((named <|> inside).getD param)

/-- A parameter entry. -/
def parameterOf (tree : SyntaxTree) (param : Nat) : Parameter where
  name := parameterName tree param
  typehint := fieldText tree param .type
  default := fieldText tree param .value

/-- The entries of a parameter list. -/
def parametersOf (tree : SyntaxTree) (list : Nat) : List Parameter :=
  ((tree.children list).filter fun c => tree.kind c == .parameter).map (parameterOf tree)

/-- The members of a list between the first that satisfies `opens` and the first after it that
satisfies `closes`, if there are both. -/
def between? {α : Type} (opens closes : α → Bool) (xs : List α) : Option (List α) :=
  match xs.dropWhile (!opens ·) with
  | [] => none
  | _ :: rest =>
    let inside := rest.takeWhile (!closes ·)
    if inside.length < rest.length then some inside else none

/-- The nodes between `->` and the `:` after it among a function's own children, comments left
out. -/
def returnNodes (tree : SyntaxTree) (function : Nat) : Option (List Nat) :=
  (between? (tree.isOperator · "->") (tree.isOperator · ":") (tree.children function)).map
    (·.filter fun c => tree.kind c != .comment)

/-- The return annotation (`return_annotation`): the text of the one node between `->` and `:`. -/
def returnHint (tree : SyntaxTree) (function : Nat) : Option String :=
  match returnNodes tree function with
  | some [hint] => some (tree.text hint)
  | _ => none

/-- A return annotation that does not consist of one node is worth an event. -/
def returnEvents (tree : SyntaxTree) (function : Nat) : List Event :=
  match returnNodes tree function with
  | none | some [_] => []
  | some nodes => [.annotationIgnored nodes.length]

/-- The node that a `raise` statement raises: the first one after `raise` and before `from` that is
neither a comment nor punctuation. -/
def raisedNode (tree : SyntaxTree) (statement : Nat) : Option Nat :=
  (((tree.children statement).dropWhile (tree.isKeyword · "raise")).takeWhile
    fun c => !tree.isKeyword c "from").find?
    fun c => tree.kind c != .comment && tree.kind c != .operator

/-- The exception that a `raise` statement names (`raised_type`): what is called when it raises the
result of a call, otherwise the raised expression. -/
def raisedType (tree : SyntaxTree) (statement : Nat) : Option String :=
  (raisedNode tree statement).map fun raised =>
    let target := match tree.kind raised with
      | .call => (tree.childByField raised .function).getD raised
      | _ => raised
    tree.text target

/-- The `raise` statements of the scope whose statements stand below a node, in source order
(`collect_raises`). -/
def scopeRaises (tree : SyntaxTree) (scope : Nat) : List Nat :=
  (tree.children scope).attach.flatMap fun ⟨child, _⟩ =>
    if tree.kind child == .raiseStatement then [child]
    else if (tree.kind child).isStatementContainer then scopeRaises tree child
    else []
termination_by tree.size - scope
decreasing_by exact SyntaxTree.sub_lt_of_mem_children ‹_›

/-- The exceptions that the statements of a scope raise, in source order (`raised_types`). -/
def raisedTypes (tree : SyntaxTree) (scope : Nat) : List String :=
  (scopeRaises tree scope).filterMap (raisedType tree)

namespace Definition

/-- The node of a definition's parameter list. -/
def parameterList (d : Definition) : Option Nat :=
  (d.tree.children d.id).find? fun c => d.tree.kind c == .parameters

/-- The signature of a function (`extract_signature`).  Only a function without a parameter list has
none. -/
def signature (d : Definition) : Except LookupError Signature :=
  match d.parameterList with
  | none => .error (.missingParameters d.name d.span.start)
  | some list => .ok
    { funcName := d.name
      params := parametersOf d.tree list
      returnTypehint := returnHint d.tree d.id
      raiseTypes := (d.body.map (raisedTypes d.tree)).getD [] }

/-- The signature of a definition with a parameter list. -/
theorem signature_of_parameterList {d : Definition} {list : Nat}
    (h : d.parameterList = some list) :
    d.signature = .ok
      { funcName := d.name
        params := parametersOf d.tree list
        returnTypehint := returnHint d.tree d.id
        raiseTypes := (d.body.map (raisedTypes d.tree)).getD [] } := by
  rw [signature, h]

/-- The events of reading a function's signature. -/
def signatureEvents (d : Definition) : List Event :=
  match d.parameterList with
  | none => []
  | some _ => returnEvents d.tree d.id

end Definition

end DocSignature
