import DocSignature.Proofs.Syntax.Kinds
import DocSignature.Proofs.Syntax.Paths
import DocSignature.Signature.Definition
import Mathlib.Logic.Relation

/-!
# The forest of definitions

The definitions of a file form a forest: its roots are the definitions of the file's own scope
(`top_level_definitions`), and below a definition stand those nested in it.  `Definition.Encloses`
is the order of the forest and `allDefinitions` lists what belongs to it.  In a lowered tree every
definition of the forest is the copy of a definition of the concrete tree, and what is nested in it
is the copy of something further down.
-/

set_option autoImplicit false

namespace DocSignature

open Syntax Syntax.SyntaxTree Syntax.ConcreteTree

namespace Definition

/-- A definition is another one or nested in it at some depth. -/
def Encloses : Definition → Definition → Prop :=
  Relation.ReflTransGen fun d e => e ∈ d.nested

/-- A definition with all that is nested in it, each before what is nested in it. -/
def withNested (d : Definition) : List Definition :=
  d :: d.nested.attach.flatMap fun ⟨e, _⟩ => e.withNested
termination_by d.tree.size - d.id
decreasing_by exact sub_lt_of_mem_nested ‹_›

/-- A definition comes before all that is nested in the definitions of its own scope. -/
theorem withNested_eq (d : Definition) : d.withNested = d :: d.nested.flatMap withNested := by
  rw [withNested, List.flatMap_subtype (g := withNested) (fun _ _ => rfl), List.unattach_attach]

/-- A definition is listed with the definitions that enclose it. -/
theorem mem_withNested {d e : Definition} : e ∈ d.withNested ↔ d.Encloses e := by
  induction d using withNested.induct with
  | case1 d ih =>
    rw [withNested_eq, List.mem_cons, List.mem_flatMap]
    constructor
    · rintro (rfl | ⟨n, hn, he⟩)
      · exact .refl
      · exact .head hn ((ih n hn).1 he)
    · intro h
      obtain rfl | ⟨n, hn, hne⟩ := h.cases_head
      · exact .inl rfl
      · exact .inr ⟨n, hn, (ih n hn).2 hne⟩

end Definition

/-- The definitions of a file at any depth. -/
def allDefinitions (tree : SyntaxTree) : List Definition :=
  (topLevelDefinitions tree).flatMap Definition.withNested

/-- The definitions of a file are its roots and what they enclose. -/
theorem mem_allDefinitions {tree : SyntaxTree} {d : Definition} :
    d ∈ allDefinitions tree ↔ ∃ r ∈ topLevelDefinitions tree, r.Encloses d := by
  simp only [allDefinitions, List.mem_flatMap, Definition.mem_withNested]

/-- What is nested in a definition of a file is a definition of the file. -/
theorem mem_allDefinitions_of_encloses {tree : SyntaxTree} {d e : Definition}
    (h : d ∈ allDefinitions tree) (hde : d.Encloses e) : e ∈ allDefinitions tree := by
  obtain ⟨r, hr, hrd⟩ := mem_allDefinitions.1 h
  exact mem_allDefinitions.2 ⟨r, hr, hrd.trans hde⟩

namespace Definition

/-- A node is a definition just if its kind is that of one. -/
theorem isSome_ofNode? (tree : SyntaxTree) (id : Nat) :
    (ofNode? tree id).isSome = (tree.kind id).isDefinition := by
  unfold ofNode?
  cases tree.kind id <;> rfl

/-- A definition of a lowered tree as the copy of the node at the end of a path. -/
structure IsCopyAt (source : String) (c : ConcreteTree) (p : Path) (s : ConcreteTree)
    (d : Definition) : Prop where
  subtree : c.subtree? p = some s
  node : ofNode? (lower source c) (c.place p) = some d

section

variable {source : String} {c s : ConcreteTree} {p : Path} {d : Definition}

/-- A definition copied from a concrete tree belongs to the lowered tree. -/
theorem IsCopyAt.tree_eq (h : IsCopyAt source c p s d) : d.tree = lower source c :=
  (of_ofNode?_eq_some h.node).1

/-- A definition copied from a path stands at the place of the path. -/
theorem IsCopyAt.id_eq (h : IsCopyAt source c p s d) : d.id = c.place p :=
  (of_ofNode?_eq_some h.node).2

/-- The lines of a definition are those of the node it is the copy of. -/
theorem IsCopyAt.span_eq (h : IsCopyAt source c p s d) : d.span = s.info.span := by
  rw [Definition.span, h.tree_eq, h.id_eq]
  exact (holds_lower_subtree source h.subtree).span

/-- Only definitions are copied to definitions. -/
theorem IsCopyAt.isDefinition (h : IsCopyAt source c p s d) : s.info.isDefinition := by
  have hsome := isSome_ofNode? (lower source c) (c.place p)
  rw [h.node, (holds_lower_subtree source h.subtree).kind] at hsome
  exact (NamedKinds.definitions.test_classify s.info _).symm.trans hsome.symm

end

end Definition

/-- The definitions of a scope of a lowered tree are copies of nodes below the scope. -/
theorem exists_isCopyAt_of_mem_scopeDefinitions {source : String} {c s : ConcreteTree} {p : Path}
    (hs : c.subtree? p = some s) {d : Definition}
    (h : d ∈ scopeDefinitions (lower source c) (c.place p)) :
    ∃ q e, Definition.IsCopyAt source c (p ++ q) e d := by
  generalize hscope : c.place p = scope at h
  induction scope using scopeDefinitions.induct (lower source c) generalizing p s with
  | case1 scope ih =>
    subst hscope
    rw [scopeDefinitions, List.mem_flatMap] at h
    obtain ⟨⟨child, hchild⟩, -, hd⟩ := h
    obtain ⟨k, e, he, -, rfl⟩ := exists_of_mem_children_lower hs hchild
    simp only at hd
    split at hd
    · next found hfound =>
      obtain rfl := List.mem_singleton.1 hd
      exact ⟨[k], e, he, hfound⟩
    · split at hd
      · obtain ⟨q, f, hcopy⟩ := ih _ hchild he rfl hd
        rw [List.append_assoc] at hcopy
        exact ⟨[k] ++ q, f, hcopy⟩
      · simp at hd

/-- What is nested in the copy of a definition is the copy of a node below it. -/
theorem Definition.IsCopyAt.exists_of_mem_nested {source : String} {c s : ConcreteTree} {p : Path}
    {d e : Definition} (h : IsCopyAt source c p s d) (he : e ∈ d.nested) :
    ∃ q f, IsCopyAt source c (p ++ q) f e := by
  unfold nested at he
  split at he
  · next body hbody =>
    rw [Definition.body, h.tree_eq, h.id_eq] at hbody
    obtain ⟨k, b, hb, -, rfl, -⟩ := exists_of_childByField_lower h.subtree hbody
    rw [h.tree_eq] at he
    obtain ⟨q, f, hcopy⟩ := exists_isCopyAt_of_mem_scopeDefinitions hb he
    rw [List.append_assoc] at hcopy
    exact ⟨[k] ++ q, f, hcopy⟩
  · simp at he

/-- Every definition of a lowered tree is the copy of a node. -/
theorem exists_isCopyAt_of_mem_allDefinitions {source : String} {c : ConcreteTree} {d : Definition}
    (h : d ∈ allDefinitions (lower source c)) : ∃ p s, Definition.IsCopyAt source c p s d := by
  obtain ⟨r, hr, hrd⟩ := mem_allDefinitions.1 h
  induction hrd with
  | refl => exact exists_isCopyAt_of_mem_scopeDefinitions (p := []) rfl hr
  | tail hrd hstep ih =>
    obtain ⟨p, s, hcopy⟩ := ih (mem_allDefinitions.2 ⟨r, hr, hrd⟩)
    obtain ⟨q, f, hcopy⟩ := hcopy.exists_of_mem_nested hstep
    exact ⟨p ++ q, f, hcopy⟩

end DocSignature
