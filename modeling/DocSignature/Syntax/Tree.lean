import DocSignature.Syntax.ConcreteTree
import DocSignature.Text.Blank

/-!
# Syntax trees

A syntax tree keeps the text of a file and all of its nodes in one array.  Nodes refer to each other
by their place in the array, and a node always comes before its children.  That order is part of the
type, so every walk from parent to child comes to an end.
-/

set_option autoImplicit false

namespace DocSignature.Syntax

/-- A node of a syntax tree (`SyntaxNode`). -/
structure Node where
  kind : Kind
  /-- The role of the node in its parent. -/
  field : Option Field
  span : LineSpan
  bytes : ByteRange
  /-- The places of the children, in order. -/
  children : Array Nat := #[]
deriving DecidableEq, Inhabited, Repr

/-- A text with the nodes read from it. -/
structure SyntaxTree where
  source : String
  nodes : Array Node
  /-- A node comes before its children. -/
  ordered : ∀ id (h : id < nodes.size), ∀ child ∈ nodes[id].children,
    id < child ∧ child < nodes.size

namespace SyntaxTree

/-- The tree without nodes over a text. -/
def empty (source : String) : SyntaxTree where
  source := source
  nodes := #[]
  ordered := by intro id h; simp at h

/-- The number of nodes. -/
def size (t : SyntaxTree) : Nat := t.nodes.size

/-- The place of the root. -/
def root : Nat := 0

/-- Appends a node, for now without children. -/
def push (t : SyntaxTree) (node : Node) : SyntaxTree where
  source := t.source
  nodes := t.nodes.push { node with children := #[] }
  ordered := by
    intro id h child hc
    rw [Array.getElem_push] at hc
    split at hc
    · have := t.ordered id ‹_› child hc
      rw [Array.size_push]
      omega
    · simp at hc

/-- Appends a child to the children of a node (`add_child`).  The child has to be a node of the tree
that comes after its parent; otherwise nothing changes. -/
def addChild (t : SyntaxTree) (parent child : Nat) : SyntaxTree :=
  if h : parent < child ∧ child < t.nodes.size then
    { source := t.source
      nodes := t.nodes.modify parent fun n => { n with children := n.children.push child }
      ordered := by
        intro id hid c hc
        rw [Array.size_modify] at hid
        rw [Array.getElem_modify] at hc
        rw [Array.size_modify]
        split at hc
        · rcases Array.mem_push.1 hc with hc | hc
          · exact t.ordered id hid c hc
          · omega
        · exact t.ordered id hid c hc }
  else t

/-- The kind of a node; a place outside the tree holds an error. -/
def kind (t : SyntaxTree) (id : Nat) : Kind :=
  match t.nodes[id]? with
  | some n => n.kind
  | none => .error

/-- The role of a node in its parent. -/
def field (t : SyntaxTree) (id : Nat) : Option Field :=
  t.nodes[id]?.bind (·.field)

/-- The lines of a node. -/
def span (t : SyntaxTree) (id : Nat) : LineSpan :=
  (t.nodes[id]?.map (·.span)).getD default

/-- The bytes of a node. -/
def bytes (t : SyntaxTree) (id : Nat) : ByteRange :=
  (t.nodes[id]?.map (·.bytes)).getD default

/-- The places of a node's children, in order. -/
def children (t : SyntaxTree) (id : Nat) : List Nat :=
  match t.nodes[id]? with
  | some n => n.children.toList
  | none => []

/-- A child comes after its parent and belongs to the tree. -/
theorem lt_of_mem_children {t : SyntaxTree} {id child : Nat} (h : child ∈ t.children id) :
    id < child ∧ child < t.size := by
  unfold children at h
  split at h
  · next n hn =>
    obtain ⟨hid, rfl⟩ := Array.getElem?_eq_some_iff.1 hn
    exact t.ordered id hid child (by simpa using h)
  · simp at h

/-- What stands between a node and the end of the array shrinks from parent to child. -/
theorem sub_lt_of_mem_children {t : SyntaxTree} {id child : Nat} (h : child ∈ t.children id) :
    t.size - child < t.size - id := by
  have := lt_of_mem_children h
  omega

/-- The first child of a node that fills a role (`child_by_field`). -/
def childByField (t : SyntaxTree) (id : Nat) (field : Field) : Option Nat :=
  (t.children id).find? fun child => t.field child == some field

/-- The text of a byte range of the source as it stands. -/
def slice (t : SyntaxTree) (r : ByteRange) : String :=
  String.Pos.Raw.extract t.source ⟨r.start⟩ ⟨r.stop⟩

/-- The text of a node without blank characters at its ends. -/
def text (t : SyntaxTree) (id : Nat) : String :=
  Text.trim (t.slice (t.bytes id))

/-- Whether a node is a piece of punctuation with a given text (`is_operator`). -/
def isOperator (t : SyntaxTree) (id : Nat) (token : String) : Bool :=
  t.kind id == .operator && t.text id == token

/-- Whether a node is a given keyword. -/
def isKeyword (t : SyntaxTree) (id : Nat) (word : String) : Bool :=
  t.kind id == .keyword && t.text id == word

/-- The number of steps a walk of everything below a node takes, the node included. -/
def weight (t : SyntaxTree) (id : Nat) : Nat :=
  1 + (t.children id).attach.foldr (fun c n => t.weight c.1 + n) 0
termination_by t.size - id
decreasing_by exact sub_lt_of_mem_children c.2

/-- The number of steps a walk of some nodes takes. -/
def stackWeight (t : SyntaxTree) (stack : List Nat) : Nat :=
  stack.foldr (fun id n => t.weight id + n) 0

/-- The weight of a node is one more than the weights of its children. -/
theorem weight_eq (t : SyntaxTree) (id : Nat) :
    t.weight id = 1 + t.stackWeight (t.children id) := by
  rw [weight, stackWeight, List.foldr_attach (f := fun c n => t.weight c + n)]

/-- The weight of a stack is that of its top and that of the rest. -/
theorem stackWeight_cons (t : SyntaxTree) (id : Nat) (rest : List Nat) :
    t.stackWeight (id :: rest) = t.weight id + t.stackWeight rest := rfl

/-- Two rows of nodes weigh what both of them weigh. -/
theorem stackWeight_append (t : SyntaxTree) (xs ys : List Nat) :
    t.stackWeight (xs ++ ys) = t.stackWeight xs + t.stackWeight ys := by
  induction xs with
  | nil => simp [stackWeight]
  | cons x xs ih =>
    rw [List.cons_append, stackWeight_cons, stackWeight_cons, ih]
    omega

/-- Walks the nodes that wait on a stack (`next`): takes the first one and puts its children before
the others. -/
def walk (t : SyntaxTree) : List Nat → List Nat
  | [] => []
  | id :: rest => id :: t.walk (t.children id ++ rest)
termination_by stack => t.stackWeight stack
decreasing_by
  rw [stackWeight_append, stackWeight_cons, weight_eq t id]
  omega

/-- A node and everything below it, each node before its children (`descendants`). -/
def descendants (t : SyntaxTree) (id : Nat) : List Nat :=
  t.walk [id]

end SyntaxTree

end DocSignature.Syntax
