import DocSignature.Syntax.Tree

/-!
# Definitions

A definition is a function or class of a syntax tree.  Definitions belong to scopes: the scope of a
file, or that of another definition's body.  A scope reaches through decorators and compound
statements, but never into another function or class, so the definitions of a file form a forest.
-/

set_option autoImplicit false

namespace DocSignature

open Syntax

/-- What a definition defines. -/
inductive DefinitionKind where
  | function : DefinitionKind
  | class : DefinitionKind
deriving DecidableEq, Inhabited, Repr

/-- A function or class of a tree. -/
structure Definition where
  tree : SyntaxTree
  /-- The place of its node in the tree. -/
  id : Nat
  kind : DefinitionKind

namespace Definition

/-- A node as a definition, if it is one. -/
def ofNode? (tree : SyntaxTree) (id : Nat) : Option Definition :=
  match tree.kind id with
  | .functionDefinition => some ⟨tree, id, .function⟩
  | .classDefinition => some ⟨tree, id, .class⟩
  | _ => none

/-- The node of a definition read from a tree is the node it was read from. -/
theorem of_ofNode?_eq_some {tree : SyntaxTree} {id : Nat} {d : Definition}
    (h : ofNode? tree id = some d) : d.tree = tree ∧ d.id = id := by
  unfold ofNode? at h
  split at h <;> simp at h <;> subst h <;> exact ⟨rfl, rfl⟩

/-- The name that a definition declares, empty where the parser found none. -/
def name (d : Definition) : String :=
  ((d.tree.childByField d.id .name).map d.tree.text).getD ""

/-- The lines of a definition. -/
def span (d : Definition) : LineSpan :=
  d.tree.span d.id

/-- Whether a line belongs to a definition. -/
def contains (d : Definition) (line : Nat) : Bool :=
  d.span.contains line

/-- The block of statements of a definition. -/
def body (d : Definition) : Option Nat :=
  d.tree.childByField d.id .body

end Definition

/-- The definitions of the scope whose statements stand below a node, in source order
(`scope_definitions`). -/
def scopeDefinitions (tree : SyntaxTree) (scope : Nat) : List Definition :=
  (tree.children scope).attach.flatMap fun ⟨child, _⟩ =>
    match Definition.ofNode? tree child with
    | some d => [d]
    | none =>
      if (tree.kind child).isStatementContainer then scopeDefinitions tree child else []
termination_by tree.size - scope
decreasing_by exact SyntaxTree.sub_lt_of_mem_children ‹_›

/-- The definitions of a scope are nodes of its tree that come after the scope. -/
theorem mem_scopeDefinitions {tree : SyntaxTree} {scope : Nat} {d : Definition}
    (h : d ∈ scopeDefinitions tree scope) :
    d.tree = tree ∧ scope < d.id ∧ d.id < tree.size := by
  induction scope using scopeDefinitions.induct tree with
  | case1 scope ih =>
    rw [scopeDefinitions, List.mem_flatMap] at h
    obtain ⟨⟨child, hchild⟩, -, hd⟩ := h
    have hlt := SyntaxTree.lt_of_mem_children hchild
    simp only at hd
    split at hd
    · next e he =>
      obtain rfl := List.mem_singleton.1 hd
      obtain ⟨htree, hid⟩ := Definition.of_ofNode?_eq_some he
      exact ⟨htree, hid ▸ hlt.1, hid ▸ hlt.2⟩
    · split at hd
      · obtain ⟨htree, hid, hsize⟩ := ih child hchild hd
        exact ⟨htree, by omega, hsize⟩
      · simp at hd

/-- The definitions of a file that stand in no other definition, in source order
(`top_level_definitions`). -/
def topLevelDefinitions (tree : SyntaxTree) : List Definition :=
  scopeDefinitions tree SyntaxTree.root

namespace Definition

/-- The definitions of a definition's own scope, in source order. -/
def nested (d : Definition) : List Definition :=
  match d.body with
  | some body => scopeDefinitions d.tree body
  | none => []

/-- A nested definition belongs to the same tree and comes later in it. -/
theorem mem_nested {d e : Definition} (h : e ∈ d.nested) :
    e.tree = d.tree ∧ d.id < e.id ∧ e.id < d.tree.size := by
  unfold nested at h
  split at h
  · next body hbody =>
    obtain ⟨htree, hid, hsize⟩ := mem_scopeDefinitions h
    have := SyntaxTree.lt_of_mem_children (List.mem_of_find?_eq_some hbody)
    exact ⟨htree, by omega, hsize⟩
  · simp at h

/-- What stands between a definition and the end of its tree shrinks from a definition to those
nested in it. -/
theorem sub_lt_of_mem_nested {d e : Definition} (h : e ∈ d.nested) :
    e.tree.size - e.id < d.tree.size - d.id := by
  obtain ⟨htree, hid, hsize⟩ := mem_nested h
  rw [htree]
  omega

end Definition

end DocSignature
