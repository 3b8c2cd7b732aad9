import DocSignature.Syntax.Cursor
import DocSignature.Syntax.Tree

/-!
# From concrete trees to syntax trees

Lowering (`lower`) copies a concrete tree into one array, node by node, each node before its
children and siblings in order.  A cursor goes over the tree, and the copies of the nodes above it
wait on a stack of open ancestors.  The kind of a node is settled on the way, from the node and the
kind of its parent.
-/

set_option autoImplicit false

namespace DocSignature.Syntax

/-- The copy of one concrete node, without its children. -/
def ConcreteNode.lower (n : ConcreteNode) (parent : Option Kind) : Node where
  kind := n.classify parent
  field := n.field.bind Field.ofName?
  span := n.span
  bytes := n.bytes

/-- A node that has been copied while its children have not: its place and its kind. -/
abbrev Ancestor := Nat × Kind

namespace Cursor

/-- Leaves the subtree under the cursor for the next node that is not in it.  Every step up closes
the nearest open ancestor. -/
def climb (cursor : Cursor) (ancestors : List Ancestor) : Option (Cursor × List Ancestor) :=
  match cursor.nextSibling? with
  | some next => some (next, ancestors)
  | none =>
    match _h : cursor.parent? with
    | some up => up.climb ancestors.tail
    | none => none
termination_by cursor.above.length
decreasing_by exact length_above_parent? _h

/-- A climb ends on a node that comes after the subtree. -/
theorem remaining_climb {cursor next : Cursor} {ancestors rest : List Ancestor}
    (h : cursor.climb ancestors = some (next, rest)) : next.remaining ≤ cursor.after := by
  fun_induction climb cursor ancestors with
  | case1 cursor ancestors sibling hsibling =>
    obtain ⟨rfl, -⟩ := Prod.mk.inj (Option.some.inj h)
    exact Nat.le_of_eq (remaining_nextSibling? hsibling)
  | case2 cursor ancestors _ up hup ih => exact Nat.le_trans (ih h) (after_parent? hup)
  | case3 => simp at h

end Cursor

namespace SyntaxTree

/-- Copies one concrete node to the end of a tree and enters it with its parent (`lower_node`). -/
def copyNode (t : SyntaxTree) (parent : Option Ancestor) (info : ConcreteNode) : SyntaxTree :=
  let id := t.size
  let copied := t.push (info.lower (parent.map (·.2)))
  match parent with
  | some (p, _) => copied.addChild p id
  | none => copied

/-- Copies the node under a cursor and all that come after it. -/
def lowerFrom (t : SyntaxTree) (cursor : Cursor) (ancestors : List Ancestor) : SyntaxTree :=
  let id := t.size
  let copied := t.copyNode ancestors.head? cursor.focus.info
  match _h : cursor.firstChild? with
  | some child => copied.lowerFrom child ((id, copied.kind id) :: ancestors)
  | none =>
    match _h : cursor.climb ancestors with
    | some (next, rest) => copied.lowerFrom next rest
    | none => copied
termination_by cursor.remaining
decreasing_by
  · exact Cursor.remaining_firstChild? _h
  · exact Nat.lt_of_le_of_lt (Cursor.remaining_climb _h) cursor.after_lt_remaining

/-- The syntax tree of a concrete tree over its text (`lower`). -/
def lower (source : String) (tree : ConcreteTree) : SyntaxTree :=
  (SyntaxTree.empty source).lowerFrom (Cursor.ofTree tree) []

end SyntaxTree

end DocSignature.Syntax
