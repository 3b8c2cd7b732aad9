import DocSignature.Proofs.Signature.Scopes
import DocSignature.Proofs.Syntax.Descendants

/-!
# The region of a scope

A scan of a scope goes down through statement containers only.  So what it finds are the nodes it
looks for among all that is below the scope, as far as every node in between is a container: the
region of the scope.  This asks nothing of the tree but that every node has one parent; errors and
nodes in places where the grammar never puts them end the region like any other node.
-/

set_option autoImplicit false

namespace DocSignature

open Syntax Syntax.SyntaxTree

/-- All nodes between a scope and a node below it, both left out, are statement containers. -/
def InRegion (t : SyntaxTree) (scope n : Nat) : Prop :=
  ∀ m ∈ (t.descendants scope).tail, n ∈ (t.descendants m).tail →
    t.kind m ∈ [.file, .block, .compoundStatement, .decoratedDefinition]

instance (t : SyntaxTree) (scope n : Nat) : Decidable (InRegion t scope n) :=
  inferInstanceAs (Decidable (∀ m ∈ (t.descendants scope).tail, n ∈ (t.descendants m).tail →
    t.kind m ∈ [.file, .block, .compoundStatement, .decoratedDefinition]))

/-- The kinds of node that a scan goes through. -/
theorem Syntax.Kind.isStatementContainer_iff_mem (k : Kind) :
    k.isStatementContainer ↔ k ∈ [.file, .block, .compoundStatement, .decoratedDefinition] := by
  cases k <;> decide

section

variable {t : SyntaxTree} (hparent : t.HasOneParent) {scope c n : Nat} (hc : c ∈ t.children scope)

include hparent hc

/-- Nothing is between a scope and its children. -/
theorem inRegion_child : InRegion t scope c := by
  intro m hm hcm
  have hle := le_of_mem_descendants (hparent.mem_descendants_of_child hc hcm)
  have hlt := lt_of_mem_tail_descendants hm
  omega

/-- Between a scope and what is below one of its children are the child and what is between the
child and that. -/
theorem inRegion_below_child (hn : n ∈ (t.descendants c).tail) :
    InRegion t scope n ↔ (t.kind c).isStatementContainer ∧ InRegion t c n := by
  have hbelow : ∀ {m}, m ∈ t.descendants c → m ∈ (t.descendants scope).tail :=
    fun hm => mem_tail_descendants.2 ⟨c, hc, hm⟩
  rw [Kind.isStatementContainer_iff_mem]
  constructor
  · intro h
    refine ⟨h c (hbelow (self_mem_descendants t c)) hn, ?_⟩
    intro m hm hnm
    exact h m (hbelow (mem_descendants.2 (.inr hm))) hnm
  · rintro ⟨hcontainer, h⟩ m hm hnm
    -- a node between the scope and `n` is below the same child of the scope as `n`
    obtain ⟨d, hd, hmd⟩ := mem_tail_descendants.1 hm
    have hnd := mem_descendants_trans hmd (mem_descendants.2 (.inr hnm))
    obtain rfl := hparent.eq_of_mem_descendants hc hd (mem_descendants.2 (.inr hn)) hnd
    obtain rfl | hm := mem_descendants.1 hmd
    · exact hcontainer
    · exact h m hm hnm

end

/-- A scan finds the nodes of the region that it looks for, if it does not look for containers. -/
theorem scopeNodes_eq_filter {t : SyntaxTree} (hparent : t.HasOneParent) {test : Kind → Bool}
    (htest : ∀ k, test k → ¬ k.isStatementContainer) (scope : Nat) :
    scopeNodes t test scope = (t.descendants scope).tail.filter fun n =>
      test (t.kind n) ∧ InRegion t scope n := by
  induction scope using induction_on_children t with
  | h scope ih =>
    rw [scopeNodes_eq, tail_descendants, List.filter_flatMap]
    refine List.flatMap_congr fun c hc => ?_
    have hbelow : (t.descendants c).tail.filter (fun n => test (t.kind n) ∧ InRegion t scope n) =
        if (t.kind c).isStatementContainer then scopeNodes t test c else [] := by
      rw [ih c hc]
      split
      · next hcontainer =>
        refine List.filter_congr fun n hn => ?_
        simp [inRegion_below_child hparent hc hn, hcontainer]
      · next hcontainer =>
        refine List.filter_eq_nil_iff.2 fun n hn => ?_
        simp [inRegion_below_child hparent hc hn, hcontainer]
    have hself : InRegion t scope c := inRegion_child hparent hc
    rw [descendants_eq, ← tail_descendants, List.filter_cons, hbelow]
    by_cases hfound : test (t.kind c)
    · simp [hfound, hself, htest _ hfound]
    · simp [hfound]

/-- The definitions of a scope are the functions and classes of its region. -/
theorem map_id_scopeDefinitions_eq_filter {t : SyntaxTree} (hparent : t.HasOneParent)
    (scope : Nat) :
    (scopeDefinitions t scope).map (·.id) = (t.descendants scope).tail.filter fun n =>
      t.kind n ∈ [.functionDefinition, .classDefinition] ∧ InRegion t scope n := by
  have hkind : ∀ k : Kind, NamedKinds.definitions.test k ↔
      k ∈ [.functionDefinition, .classDefinition] := by
    intro k
    cases k <;> decide
  have htest : ∀ k, NamedKinds.definitions.test k → ¬ k.isStatementContainer := by
    intro k
    cases k <;> decide
  rw [map_id_scopeDefinitions, scopeNodes_eq_filter hparent htest]
  simp only [hkind]

/-- The `raise` statements of a scope are those of its region. -/
theorem scopeRaises_eq_filter {t : SyntaxTree} (hparent : t.HasOneParent) (scope : Nat) :
    scopeRaises t scope = (t.descendants scope).tail.filter fun n =>
      t.kind n = .raiseStatement ∧ InRegion t scope n := by
  have hkind : ∀ k : Kind, NamedKinds.raises.test k ↔ k = .raiseStatement := by
    intro k
    cases k <;> decide
  have htest : ∀ k, NamedKinds.raises.test k → ¬ k.isStatementContainer := by
    intro k
    cases k <;> decide
  rw [scopeRaises_eq, scopeNodes_eq_filter hparent htest]
  simp only [hkind]

/-- Both scans of a scope visit its region.  In any tree where every node has one parent, the
definitions of a scope are, in order and once each, the functions and classes below it with nothing
but statement containers in between, and the exceptions raised in it are those that the `raise`
statements there name, in order, left out only where a statement names none. -/
theorem scans_visit_the_region (t : SyntaxTree) (hparent : t.HasOneParent) (scope : Nat) :
    (scopeDefinitions t scope).map (·.id) = (t.descendants scope).tail.filter (fun n =>
      t.kind n ∈ [.functionDefinition, .classDefinition] ∧ InRegion t scope n) ∧
    (∀ d ∈ scopeDefinitions t scope, Definition.ofNode? t d.id = some d) ∧
    ((scopeDefinitions t scope).map (·.id)).Nodup ∧
    raisedTypes t scope = ((t.descendants scope).tail.filter fun n =>
      t.kind n = .raiseStatement ∧ InRegion t scope n).filterMap (raisedType t) := by
  have hdefinitions := map_id_scopeDefinitions_eq_filter hparent scope
  refine ⟨hdefinitions, ?_, ?_, ?_⟩
  · intro d hd
    rw [scopeDefinitions_eq] at hd
    obtain ⟨n, -, hn⟩ := List.mem_filterMap.1 hd
    rwa [(Definition.of_ofNode?_eq_some hn).2]
  · rw [hdefinitions]
    exact (hparent.nodup_descendants scope).tail.filter _
  · rw [raisedTypes, scopeRaises_eq_filter hparent]

/-- A broken file over the text `raise ABCD`.  A function and a `raise` of `A` stand in an error, a
`raise` of `B` stands in an expression, and below a block are a decorated class that raises `C`, an
`if` with a `raise` of `D`, and a `raise` of nothing. -/
def brokenFile : ConcreteTree :=
  let at_ (start stop : Nat) : ConcreteNode :=
    { name := "", named := true, start := ⟨0, start⟩, stop := ⟨0, stop⟩, bytes := ⟨start, stop⟩ }
  let raise (start : Nat) : ConcreteTree := .named "raise_statement"
    [.node { at_ 0 5 with name := "raise", named := false } [],
      .node { at_ start (start + 1) with name := "identifier" } []]
  let error := .node { at_ 0 10 with name := "ERROR", isError := true }
    [.named "function_definition" [], raise 6]
  let class_ := .named "class_definition" [.named "block" [raise 8] (some "body")]
  .named "module"
    [error, .named "expression_statement" [raise 7],
      .named "block" [.named "decorated_definition" [class_],
        .named "if_statement" [.named "block" [raise 9]], .named "raise_statement" []]]

/-- In this file the class is the only definition of the file's scope, and `D` is all that is
raised in it. -/
theorem brokenFile_region :
    let t := lower "raise ABCD" brokenFile
    t.HasOneParent ∧ (scopeDefinitions t root).map (t.kind ·.id) = [.classDefinition] ∧
      raisedTypes t root = ["D"] := by
  intro t
  have hparent := hasOneParent_lower "raise ABCD" brokenFile
  obtain ⟨hdefinitions, -, -, hraises⟩ := scans_visit_the_region t hparent root
  refine ⟨hparent, ?_, hraises.trans (by decide +kernel)⟩
  have hkinds : (scopeDefinitions t root).map (t.kind ·.id) =
      ((scopeDefinitions t root).map (·.id)).map t.kind := by
    rw [List.map_map]
    rfl
  rw [hkinds, hdefinitions]
  decide +kernel

end DocSignature
