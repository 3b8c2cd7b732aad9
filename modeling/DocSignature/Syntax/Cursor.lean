import DocSignature.Syntax.ConcreteTree

/-!
# Cursors

A cursor stands on a node of a concrete tree and moves one step at a time: to the first child, to
the next sibling, to the parent.  It keeps what it needs to go on from where it stands, and nothing
is copied on the way.
-/

set_option autoImplicit false

namespace DocSignature.Syntax

namespace Cursor

/-- A node above a cursor, taken apart at the child that the cursor went down to. -/
structure Frame where
  info : ConcreteNode
  /-- The children before that child, the nearest one first. -/
  earlier : List ConcreteTree
  /-- The children after that child. -/
  later : List ConcreteTree

end Cursor

/-- A node of a concrete tree with the way back to the root. -/
structure Cursor where
  focus : ConcreteTree
  /-- The nodes above, the nearest one first. -/
  above : List Cursor.Frame

namespace Cursor

/-- The cursor on the root of a tree. -/
def ofTree (tree : ConcreteTree) : Cursor := ⟨tree, []⟩

/-- The first child, if there is one. -/
def firstChild? (cursor : Cursor) : Option Cursor :=
  match cursor.focus with
  | .node info (c :: cs) => some ⟨c, ⟨info, [], cs⟩ :: cursor.above⟩
  | .node _ [] => none

/-- The next sibling, if there is one. -/
def nextSibling? (cursor : Cursor) : Option Cursor :=
  match cursor.above with
  | ⟨info, earlier, c :: cs⟩ :: up => some ⟨c, ⟨info, cursor.focus :: earlier, cs⟩ :: up⟩
  | _ => none

/-- The parent; the root has none. -/
def parent? (cursor : Cursor) : Option Cursor :=
  match cursor.above with
  | ⟨info, earlier, later⟩ :: up =>
    some ⟨.node info (earlier.reverse ++ cursor.focus :: later), up⟩
  | [] => none

/-- The number of nodes after the subtree under the cursor. -/
def after (cursor : Cursor) : Nat :=
  cursor.above.foldr (fun f n => ConcreteTree.forestSize f.later + n) 0

/-- The number of nodes from the cursor to the end of its tree. -/
def remaining (cursor : Cursor) : Nat :=
  cursor.focus.size + cursor.after

/-- What comes after the subtree is less than all that remains. -/
theorem after_lt_remaining (cursor : Cursor) : cursor.after < cursor.remaining := by
  have := cursor.focus.size_pos
  unfold remaining
  omega

/-- Going down to the first child passes one node. -/
theorem remaining_firstChild? {cursor child : Cursor} (h : cursor.firstChild? = some child) :
    child.remaining < cursor.remaining := by
  obtain ⟨⟨info, _ | ⟨c, cs⟩⟩, above⟩ := cursor
  · simp [firstChild?] at h
  · obtain rfl := Option.some.inj h
    simp only [remaining, after, ConcreteTree.size, ConcreteTree.forestSize, List.foldr_cons]
    omega

/-- From the next sibling on there is what comes after the subtree. -/
theorem remaining_nextSibling? {cursor next : Cursor} (h : cursor.nextSibling? = some next) :
    next.remaining = cursor.after := by
  obtain ⟨focus, _ | ⟨⟨info, earlier, _ | ⟨c, cs⟩⟩, up⟩⟩ := cursor
  · simp [nextSibling?] at h
  · simp [nextSibling?] at h
  · obtain rfl := Option.some.inj h
    simp only [remaining, after, ConcreteTree.forestSize, List.foldr_cons]
    omega

/-- What comes after the parent comes after the node too. -/
theorem after_parent? {cursor up : Cursor} (h : cursor.parent? = some up) :
    up.after ≤ cursor.after := by
  obtain ⟨focus, _ | ⟨⟨info, earlier, later⟩, rest⟩⟩ := cursor
  · simp [parent?] at h
  · obtain rfl := Option.some.inj h
    simp only [after, List.foldr_cons]
    omega

/-- The parent has one node less above it. -/
theorem length_above_parent? {cursor up : Cursor} (h : cursor.parent? = some up) :
    up.above.length < cursor.above.length := by
  obtain ⟨focus, _ | ⟨⟨info, earlier, later⟩, rest⟩⟩ := cursor
  · simp [parent?] at h
  · obtain rfl := Option.some.inj h
    simp

end Cursor

end DocSignature.Syntax
