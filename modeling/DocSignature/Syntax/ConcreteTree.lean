import DocSignature.Syntax.Kind
import DocSignature.Syntax.LineSpan

/-!
# Concrete syntax trees

A concrete tree is what a parser of Python gives: every node and every token that shows, with its
kind in the words of the grammar and its place in the text.
-/

set_option autoImplicit false

namespace DocSignature.Syntax

/-- A place in a text: a row counted from zero and a column in bytes. -/
structure Point where
  row : Nat
  column : Nat
deriving DecidableEq, Inhabited, Repr

/-- Places are ordered by row, then by column. -/
def Point.before (a b : Point) : Prop :=
  a.row < b.row ∨ (a.row = b.row ∧ a.column < b.column)

/-- The bytes of a text from `start` up to, but not including, `stop`. -/
structure ByteRange where
  start : Nat
  stop : Nat
deriving DecidableEq, Inhabited, Repr

/-- What is known of one node of a concrete tree. -/
structure ConcreteNode where
  /-- The kind in the words of the grammar, or the text of a token. -/
  name : String
  /-- Whether the node has a name of its own, as opposed to a token known by its text. -/
  named : Bool
  /-- Whether the node is text that fits nowhere. -/
  isError : Bool := false
  /-- Whether the node is a token that the text lacks. -/
  isMissing : Bool := false
  /-- The role of the node in its parent. -/
  field : Option String := none
  start : Point
  stop : Point
  bytes : ByteRange
deriving DecidableEq, Inhabited, Repr

/-- The kind of a concrete node under a parent whose kind is known.  Errors come first, then tokens
by their text, then named nodes by their name: an identifier or a starred name is a parameter only
right inside a parameter list. -/
def ConcreteNode.classify (n : ConcreteNode) (parent : Option Kind) : Kind :=
  if n.isError || (n.isMissing && n.named) then .error
  else if n.named then .ofName n.name (parent == some .parameters)
  else .ofToken n.name

/-- The lines a concrete node occupies. -/
def ConcreteNode.span (n : ConcreteNode) : LineSpan :=
  .ofRows n.start.row n.stop.row n.stop.column

/-- A concrete tree. -/
inductive ConcreteTree where
  | node (info : ConcreteNode) (children : List ConcreteTree)
deriving Inhabited

namespace ConcreteTree

/-- What is known of the root. -/
def info : ConcreteTree → ConcreteNode
  | node i _ => i

/-- The subtrees right below the root. -/
def children : ConcreteTree → List ConcreteTree
  | node _ cs => cs

/-- What a node made of its parts says about itself. -/
@[simp]
theorem info_node (i : ConcreteNode) (cs : List ConcreteTree) : (node i cs).info = i := rfl

/-- The children of a node made of its parts. -/
@[simp]
theorem children_node (i : ConcreteNode) (cs : List ConcreteTree) : (node i cs).children = cs := rfl

mutual

/-- The number of nodes of a tree. -/
def size : ConcreteTree → Nat
  | node _ cs => 1 + forestSize cs

/-- The number of nodes of a row of trees. -/
def forestSize : List ConcreteTree → Nat
  | [] => 0
  | t :: ts => t.size + forestSize ts

end

/-- A tree has at least its root. -/
theorem size_pos (t : ConcreteTree) : 0 < t.size := by
  obtain ⟨info, cs⟩ := t
  rw [size]
  omega

end ConcreteTree

end DocSignature.Syntax
