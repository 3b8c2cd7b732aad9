import DocSignature.Proofs.Syntax.Kinds
import DocSignature.Proofs.Syntax.Paths
import Mathlib.Data.List.Infix
import Mathlib.Tactic.MkIffOfInductiveProp

/-!
# Where statements stand

The grammar of Python puts statements into files and blocks, blocks into compound statements, their
clauses and the bodies of definitions, and nothing of the kind into expressions.
`ConcreteTree.StatementsPlaced` says so of a concrete tree.  In such a tree the way from a
definition, or from the root, down to a statement of its scope leads through statement containers
only, and every other way down is barren.
-/

set_option autoImplicit false

namespace DocSignature.Syntax

/-- The names of statements that hold blocks. -/
def compoundNames : List String :=
  ["if_statement", "for_statement", "while_statement", "try_statement", "with_statement",
    "match_statement"]

/-- The names of the parts of such statements that hold blocks of their own. -/
def clauseNames : List String :=
  ["elif_clause", "else_clause", "except_clause", "except_group_clause", "finally_clause"]

namespace ConcreteNode

/-- The grammar lets a node stand right below another one. -/
@[mk_iff]
structure MayStandIn (n parent : ConcreteNode) : Prop where
  statement : n.isOneOf (["raise_statement", "decorated_definition"] ++ compoundNames) →
    parent.isOneOf ["module", "block"]
  definition : n.isDefinition → parent.isOneOf ["module", "block", "decorated_definition"]
  clause : n.isOneOf clauseNames → parent.isOneOf compoundNames
  case : n.isOneOf ["case_clause"] → parent.isOneOf ["block"]
  block : n.isOneOf ["block"] →
    parent.isOneOf (compoundNames ++ clauseNames ++ ["case_clause"]) ∨
      (parent.isDefinition ∧ n.fills .body)
  file : ¬ n.isOneOf ["module"]

instance : DecidableRel MayStandIn :=
  fun n parent => decidable_of_iff' _ (mayStandIn_iff n parent)

/-- A definition or a `raise` statement stands right in a statement container. -/
theorem MayStandIn.isContainer_of_statement {n parent : ConcreteNode} (h : n.MayStandIn parent)
    (hn : n.isDefinition ∨ n.isRaise) : parent.isContainer := by
  rcases hn with hn | hn
  · exact isOneOf_mono (by decide) (h.definition hn)
  · exact isOneOf_mono (by decide) (h.statement (isOneOf_mono (by decide) hn))

/-- A statement container stands in another one, or it is the body of a definition. -/
theorem MayStandIn.of_isContainer {n parent : ConcreteNode} (h : n.MayStandIn parent)
    (hn : n.isContainer) :
    parent.isContainer ∨ (parent.isDefinition ∧ n.fills .body) := by
  have hcases : n.isOneOf ((["raise_statement", "decorated_definition"] ++ compoundNames) ++
      clauseNames ++ ["case_clause"] ++ ["block"] ++ ["module"]) :=
    isOneOf_mono (by decide) hn
  simp only [isOneOf_append _ _ ["module"], isOneOf_append _ _ ["block"],
    isOneOf_append _ _ ["case_clause"], isOneOf_append _ _ clauseNames, Bool.or_eq_true] at hcases
  rcases hcases with (((hn | hn) | hn) | hn) | hn
  · exact .inl (isOneOf_mono (by decide) (h.statement hn))
  · exact .inl (isOneOf_mono (by decide) (h.clause hn))
  · exact .inl (isOneOf_mono (by decide) (h.case hn))
  · exact (h.block hn).imp_left (isOneOf_mono (by decide))
  · exact absurd hn h.file

end ConcreteNode

namespace ConcreteTree

/-- Statements stand only where the grammar puts them. -/
@[mk_iff]
structure StatementsPlaced (c : ConcreteTree) : Prop where
  /-- The tree is that of a file. -/
  root : c.info.isOneOf ["module"]
  /-- Every node stands where it may. -/
  placed : ∀ s ∈ c.subtrees, ∀ d ∈ s.children, d.info.MayStandIn s.info
  /-- A definition has no two bodies. -/
  oneBody : ∀ s ∈ c.subtrees, s.info.isDefinition →
    s.children.Pairwise fun d e => ¬ (d.info.fills .body ∧ e.info.fills .body)

instance : DecidablePred StatementsPlaced :=
  fun c => decidable_of_iff' _ (statementsPlaced_iff c)

/-- A file is neither defined nor raised. -/
theorem StatementsPlaced.not_root {c : ConcreteTree} (h : c.StatementsPlaced) :
    ¬ (c.info.isDefinition ∨ c.info.isRaise) := by
  intro hroot
  have hcontainer : c.info.isContainer := ConcreteNode.isOneOf_mono (by decide) h.root
  rw [ConcreteNode.isContainer_eq_false hroot] at hcontainer
  exact Bool.false_ne_true hcontainer

/-- Whether a path leads to a node that passes a test. -/
def isAt (c : ConcreteTree) (test : ConcreteNode → Bool) (p : Path) : Bool :=
  (c.subtree? p).any fun s => test s.info

/-- A test at a path is the test of the node there. -/
theorem isAt_eq {c s : ConcreteTree} {p : Path} (h : c.subtree? p = some s)
    (test : ConcreteNode → Bool) : c.isAt test p = test s.info := by
  rw [isAt, h, Option.any_some]

/-- The nearest definition that a node stands in: the longest way to a definition on the way to the
node, the node itself left out. -/
def enclosing? (c : ConcreteTree) (p : Path) : Option Path :=
  p.inits.dropLast.reverse.find? (c.isAt (·.isDefinition))

/-- The root stands in no definition. -/
theorem enclosing?_nil (c : ConcreteTree) : c.enclosing? [] = none := rfl

/-- A child stands in its parent, if that is a definition, and otherwise in what the parent stands
in. -/
theorem enclosing?_concat (c : ConcreteTree) (p : Path) (k : Nat) :
    c.enclosing? (p ++ [k]) =
      if c.isAt (·.isDefinition) p then some p else c.enclosing? p := by
  have hconcat : ∀ (q : Path) j, (q ++ [j]).inits = q.inits ++ [q ++ [j]] := by
    simp [List.inits_append]
  have hlast : p.inits = p.inits.dropLast ++ [p] := by
    obtain rfl | ⟨q, j, rfl⟩ := p.eq_nil_or_concat'
    · rfl
    · rw [hconcat, List.dropLast_concat]
  rw [enclosing?, hconcat, List.dropLast_concat, hlast, List.reverse_concat, List.find?_cons]
  cases c.isAt (·.isDefinition) p <;> rfl

/-- A definition that a node stands in is on the way to the node. -/
theorem of_enclosing?_eq_some {c : ConcreteTree} {p q : Path} (h : c.enclosing? q = some p) :
    c.isAt (·.isDefinition) p ∧ p <+: q ∧ p ≠ q := by
  induction q using List.reverseRecOn with
  | nil => simp [enclosing?_nil] at h
  | append_singleton q k ih =>
    rw [enclosing?_concat] at h
    split at h
    · next hdef =>
      obtain rfl := Option.some.inj h
      exact ⟨hdef, List.prefix_append q [k], by simp⟩
    · obtain ⟨hdef, hpre, -⟩ := ih h
      have hlonger := hpre.trans (List.prefix_append q [k])
      refine ⟨hdef, hlonger, ?_⟩
      rintro rfl
      have hlength := hpre.length_le
      rw [List.length_append, List.length_singleton] at hlength
      omega

/-- What stands somewhere in a definition stands in it or in one below it. -/
theorem exists_enclosing?_of_isAt {c : ConcreteTree} {p : Path} (h : c.isAt (·.isDefinition) p)
    (k : Nat) (l : Path) : ∃ e, c.enclosing? (p ++ k :: l) = some e ∧ p <+: e := by
  induction l using List.reverseRecOn with
  | nil => exact ⟨p, by rw [enclosing?_concat, if_pos h], List.prefix_rfl⟩
  | append_singleton l j ih =>
    rw [← List.cons_append, ← List.append_assoc, enclosing?_concat]
    split
    · exact ⟨_, rfl, List.prefix_append p (k :: l)⟩
    · exact ih

/-- The definition whose scope the children of a node belong to. -/
def scopeOf? (c : ConcreteTree) (p : Path) : Option Path :=
  if c.isAt (·.isDefinition) p then some p else c.enclosing? p

/-- The scope of a node's children belongs to the node or to one on the way to it. -/
theorem prefix_of_scopeOf?_eq_some {c : ConcreteTree} {p e : Path} (h : c.scopeOf? p = some e) :
    e <+: p := by
  unfold scopeOf? at h
  split at h
  · obtain rfl := Option.some.inj h
    exact List.prefix_rfl
  · exact (of_enclosing?_eq_some h).2.1

/-- Whether a path leads to a node that passes a test and has a given nearest definition. -/
def belongs (c : ConcreteTree) (test : ConcreteNode → Bool) (scope : Option Path) (q : Path) :
    Bool :=
  c.isAt test q && c.enclosing? q == scope

/-- What belongs to a scope passes the test. -/
theorem test_of_belongs {c d : ConcreteTree} {test : ConcreteNode → Bool} {scope : Option Path}
    {q : Path} (hd : c.subtree? q = some d) (h : c.belongs test scope q) : test d.info := by
  rw [belongs, isAt_eq hd, Bool.and_eq_true] at h
  exact h.1

/-- A child belongs to the scope of its parent's children. -/
theorem belongs_concat (c : ConcreteTree) (test : ConcreteNode → Bool) (p : Path) (k : Nat) :
    c.belongs test (c.scopeOf? p) (p ++ [k]) = c.isAt test (p ++ [k]) := by
  simp [belongs, enclosing?_concat, scopeOf?]

/-- Nothing below a definition belongs to the scope that the definition stands in. -/
theorem not_belongs_of_isAt {c : ConcreteTree} {p : Path} {k : Nat}
    (h : c.isAt (·.isDefinition) (p ++ [k])) (test : ConcreteNode → Bool) (j : Nat) (l : Path) :
    ¬ c.belongs test (c.scopeOf? p) (p ++ [k] ++ j :: l) := by
  intro hbelongs
  obtain ⟨e, he, hpre⟩ := exists_enclosing?_of_isAt h j l
  simp only [belongs, Bool.and_eq_true, beq_iff_eq, he] at hbelongs
  -- the nearest definition would have to be on the way to `p`, but it is not even that short
  have hshort := prefix_of_scopeOf?_eq_some hbelongs.2.symm
  have hlength := (hpre.trans hshort).length_le
  rw [List.length_append, List.length_singleton] at hlength
  omega

/-- What belongs to a definition stands somewhere below it. -/
theorem filter_belongs_some {c s : ConcreteTree} {p : Path} (h : c.subtree? p = some s)
    (test : ConcreteNode → Bool) :
    c.paths.filter (c.belongs test (some p)) =
      (c.pathsFrom p).tail.filter (c.belongs test (some p)) := by
  have hbelow : ∀ q, c.belongs test (some p) q → p <+: q ∧ p ≠ q := by
    intro q hq
    rw [belongs, Bool.and_eq_true, beq_iff_eq] at hq
    exact (of_enclosing?_eq_some hq.2).2
  exact filter_paths_eq_tail h (fun q hq => (hbelow q hq).1) fun hp => (hbelow p hp).2 rfl

/-- What belongs to no definition stands below the root, if the root does not pass the test. -/
theorem filter_belongs_none {c : ConcreteTree} {test : ConcreteNode → Bool}
    (hroot : ¬ test c.info) :
    c.paths.filter (c.belongs test none) =
      (c.pathsFrom []).tail.filter (c.belongs test none) :=
  filter_paths_eq_tail rfl (fun _ _ => List.nil_prefix) fun h => hroot (test_of_belongs rfl h)

section

variable {c s d : ConcreteTree} {p l : Path}

/-- Below a node that is neither a statement container nor a definition there is no other one. -/
theorem StatementsPlaced.no_container_below (h : c.StatementsPlaced) (hs : c.subtree? p = some s)
    (hnone : ¬ s.info.isContainer ∧ ¬ s.info.isDefinition) (hd : c.subtree? (p ++ l) = some d) :
    ¬ d.info.isContainer ∧ ¬ d.info.isDefinition := by
  induction l using List.reverseRecOn generalizing d with
  | nil =>
    rw [List.append_nil, hs] at hd
    obtain rfl := Option.some.inj hd
    exact hnone
  | append_singleton l k ih =>
    rw [← List.append_assoc] at hd
    obtain ⟨e, he, hchild⟩ := exists_of_subtree?_concat hd
    obtain ⟨hcontainer, hdefinition⟩ := ih he
    have hplaced := h.placed e (mem_subtrees_of_subtree? he) d (List.mem_of_getElem? hchild)
    constructor
    · intro hd
      rcases hplaced.of_isContainer hd with hparent | ⟨hparent, -⟩
      · exact hcontainer hparent
      · exact hdefinition hparent
    · intro hd
      exact hcontainer (hplaced.isContainer_of_statement (.inl hd))

/-- Below a node that is neither a statement container nor a definition nothing is defined and
nothing is raised. -/
theorem StatementsPlaced.barren (h : c.StatementsPlaced) (hs : c.subtree? p = some s)
    (hnone : ¬ s.info.isContainer ∧ ¬ s.info.isDefinition) {k : Nat}
    (hd : c.subtree? (p ++ k :: l) = some d) : ¬ (d.info.isDefinition ∨ d.info.isRaise) := by
  have hsplit : p ++ k :: l = (p ++ (k :: l).dropLast) ++ [(k :: l).getLast (by simp)] := by
    rw [List.append_assoc, List.dropLast_concat_getLast]
  rw [hsplit] at hd
  obtain ⟨e, he, hchild⟩ := exists_of_subtree?_concat hd
  have hplaced := h.placed e (mem_subtrees_of_subtree? he) d (List.mem_of_getElem? hchild)
  intro hd
  exact (h.no_container_below hs hnone he).1 (hplaced.isContainer_of_statement hd)

/-- So a search below such a node for definitions or `raise` statements is in vain. -/
theorem StatementsPlaced.filter_tail_eq_nil (h : c.StatementsPlaced) (hs : c.subtree? p = some s)
    (hnone : ¬ s.info.isContainer ∧ ¬ s.info.isDefinition) {pick : Path → Bool}
    (hpick : ∀ q d, c.subtree? q = some d → pick q → d.info.isDefinition ∨ d.info.isRaise) :
    (c.pathsFrom p).tail.filter pick = [] := by
  refine List.filter_eq_nil_iff.2 fun q hq hp => ?_
  obtain ⟨k, l, d, rfl, hd⟩ := exists_of_mem_tail_pathsFrom hq
  exact h.barren hs hnone hd (hpick _ d hd hp)

end

end ConcreteTree

end DocSignature.Syntax
