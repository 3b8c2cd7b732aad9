import DocSignature.Proofs.Signature.Correspondence
import DocSignature.Proofs.Signature.LookupOutcomes

/-!
# Shifting lines shifts answers

With `k` lines more at the beginning of a file every row of its concrete tree is `k` further down
and nothing else changes.  Rows count from zero, lines from one, and a range that ends at the start
of a row does not reach into it; still the lines of every node are shifted by `k` and by nothing
else.  So lowering the shifted tree gives the lowered tree with shifted lines, resolution goes down
the same chain of definitions, and the answer is the same, but for the line that an error reports.
-/

set_option autoImplicit false

namespace DocSignature

open Syntax Syntax.SyntaxTree Syntax.ConcreteTree

namespace Syntax

/-! ## Shifted trees -/

/-- Lines moved down. -/
def LineSpan.shifted (k : Nat) (span : LineSpan) : LineSpan := ⟨span.start + k, span.stop + k⟩

/-- A place some rows further down. -/
def Point.shifted (k : Nat) (p : Point) : Point := ⟨p.row + k, p.column⟩

/-- A concrete node some rows further down.  Its bytes stay where they are. -/
def ConcreteNode.shifted (k : Nat) (n : ConcreteNode) : ConcreteNode :=
  { n with start := n.start.shifted k, stop := n.stop.shifted k }

/-- A node of a syntax tree some lines further down. -/
def Node.shifted (k : Nat) (n : Node) : Node := { n with span := n.span.shifted k }

namespace ConcreteTree

mutual

/-- A concrete tree with all of its nodes some rows further down. -/
def shifted (k : Nat) : ConcreteTree → ConcreteTree
  | node info cs => node (info.shifted k) (shiftedAll k cs)

/-- A row of concrete trees moved down. -/
def shiftedAll (k : Nat) : List ConcreteTree → List ConcreteTree
  | [] => []
  | c :: cs => c.shifted k :: shiftedAll k cs

end

end ConcreteTree

/-- A syntax tree with all of its nodes some lines further down. -/
def SyntaxTree.shifted (k : Nat) (t : SyntaxTree) : SyntaxTree where
  source := t.source
  nodes := t.nodes.map (Node.shifted k)
  ordered := by
    intro id hid child hchild
    rw [Array.size_map] at hid ⊢
    rw [Array.getElem_map] at hchild
    exact t.ordered id hid child hchild

/-! ## Lowering a shifted tree -/

/-- A moved line is in the moved lines just if the line was in the lines. -/
theorem LineSpan.contains_shifted (k : Nat) (span : LineSpan) (line : Nat) :
    (span.shifted k).contains (line + k) = span.contains line := by
  simp [contains, shifted]

/-- The lines of moved rows are the moved lines. -/
theorem LineSpan.ofRows_add (k startRow endRow endColumn : Nat) :
    ofRows (startRow + k) (endRow + k) endColumn =
      (ofRows startRow endRow endColumn).shifted k := by
  -- both rows move, so the range stops short of its last row just if it did before
  simp only [ofRows, shifted, Nat.add_lt_add_iff_right, LineSpan.mk.injEq]
  split <;> omega

/-- A moved node is lowered to the moved node. -/
theorem ConcreteNode.lower_shifted (k : Nat) (n : ConcreteNode) (parent : Option Kind) :
    (n.shifted k).lower parent = (n.lower parent).shifted k := by
  have hspan : (n.shifted k).span = n.span.shifted k := LineSpan.ofRows_add k _ _ _
  unfold ConcreteNode.lower
  rw [hspan]
  rfl

namespace ConcreteTree

variable (k : Nat)

mutual

/-- Moving a tree leaves its size as it is. -/
theorem size_shifted (c : ConcreteTree) : (c.shifted k).size = c.size := by
  obtain ⟨info, cs⟩ := c
  rw [shifted, size, size, forestSize_shiftedAll]

/-- Moving a row of trees leaves its size as it is. -/
theorem forestSize_shiftedAll (cs : List ConcreteTree) :
    forestSize (shiftedAll k cs) = forestSize cs := by
  cases cs with
  | nil => rfl
  | cons c cs => rw [shiftedAll, forestSize, forestSize, size_shifted, forestSize_shiftedAll]

end

/-- Moving a row of trees leaves the places as they are. -/
theorem places_shiftedAll (start : Nat) (cs : List ConcreteTree) :
    places start (shiftedAll k cs) = places start cs := by
  induction cs generalizing start with
  | nil => rfl
  | cons c cs ih => rw [shiftedAll, places, places, size_shifted, ih]

mutual

/-- The copy of a shifted tree is the shifted copy of the tree. -/
theorem copies_shifted (start : Nat) (parent : Option Kind) (c : ConcreteTree) :
    (c.shifted k).copies start parent = (c.copies start parent).map (Node.shifted k) := by
  obtain ⟨info, cs⟩ := c
  -- rows have no part in the kind, so the children are copied below the same kind
  have hclassify : (info.shifted k).classify parent = info.classify parent := rfl
  rw [shifted, copies, copies, ConcreteNode.lower_shifted, places_shiftedAll, hclassify,
    forestCopies_shiftedAll, List.map_cons]
  rfl

/-- The copies of a moved row are the moved copies. -/
theorem forestCopies_shiftedAll (start : Nat) (parent : Kind) (cs : List ConcreteTree) :
    forestCopies start parent (shiftedAll k cs) =
      (forestCopies start parent cs).map (Node.shifted k) := by
  cases cs with
  | nil => rfl
  | cons c cs =>
    rw [shiftedAll, forestCopies, forestCopies, size_shifted, copies_shifted,
      forestCopies_shiftedAll, List.map_append]

end

end ConcreteTree

namespace SyntaxTree

/-- Trees with the same source and nodes are the same. -/
theorem eq_of_source_of_nodes {t t' : SyntaxTree} (hsource : t.source = t'.source)
    (hnodes : t.nodes = t'.nodes) : t = t' := by
  cases t
  cases t'
  cases hsource
  cases hnodes
  rfl

/-- Shifting and lowering go in either order. -/
theorem lower_shifted (source : String) (c : ConcreteTree) (k : Nat) :
    lower source (c.shifted k) = (lower source c).shifted k := by
  apply eq_of_source_of_nodes
  · rw [source_lower]
    exact (source_lower source c).symm
  · apply Array.ext'
    rw [nodes_lower, copies_shifted, ← nodes_lower source c]
    exact Array.toList_map.symm

section

variable (t : SyntaxTree) (k n : Nat)

/-- The nodes of a moved tree are the moved nodes. -/
theorem getElem?_nodes_shifted : (t.shifted k).nodes[n]? = t.nodes[n]?.map (Node.shifted k) := by
  simp [shifted]

/-- Moving a tree changes no kind. -/
theorem kind_shifted : (t.shifted k).kind n = t.kind n := by
  unfold kind
  rw [getElem?_nodes_shifted]
  cases t.nodes[n]? <;> rfl

/-- Moving a tree changes no role. -/
theorem field_shifted : (t.shifted k).field n = t.field n := by
  unfold field
  rw [getElem?_nodes_shifted]
  cases t.nodes[n]? <;> rfl

/-- Moving a tree changes no text. -/
theorem text_shifted : (t.shifted k).text n = t.text n := by
  unfold text bytes
  rw [getElem?_nodes_shifted]
  cases t.nodes[n]? <;> rfl

/-- Moving a tree changes no children. -/
theorem children_shifted : (t.shifted k).children n = t.children n := by
  unfold children
  rw [getElem?_nodes_shifted]
  cases t.nodes[n]? <;> rfl

variable {t n}

/-- The lines of a node are shifted.  A place outside the tree has the same lines as before. -/
theorem span_shifted (h : n < t.size) : (t.shifted k).span n = (t.span n).shifted k := by
  unfold span
  rw [getElem?_nodes_shifted, Array.getElem?_eq_getElem h]
  rfl

end

/-- Every node corresponds to itself in the shifted tree. -/
theorem matches_shifted (t : SyntaxTree) (k : Nat) : t.Matches (t.shifted k) Eq where
  kind := by
    rintro n _ rfl
    exact (kind_shifted t k n).symm
  field := by
    rintro n _ rfl
    exact (field_shifted t k n).symm
  text := by
    rintro n _ rfl
    exact (text_shifted t k n).symm
  children := by
    rintro n _ rfl
    rw [children_shifted, List.forall₂_eq_eq_eq]

/-- No node of a lowered tree reaches above the first line. -/
theorem start_span_lower_pos (source : String) {c : ConcreteTree} {n : Nat}
    (h : n < (lower source c).size) : 0 < ((lower source c).span n).start := by
  obtain ⟨p, s, hs, rfl⟩ := exists_place_eq (size_lower source c ▸ h)
  rw [(holds_lower_subtree source hs).span]
  exact Nat.succ_pos _

end SyntaxTree

end Syntax

/-! ## Definitions and signatures -/

/-- An error that is reported some lines further down. -/
def LookupError.shifted (k : Nat) : LookupError → LookupError
  | noTree => noTree
  | missingParameters name line => missingParameters name (line + k)

section

variable (t : SyntaxTree) (k n : Nat)

/-- A scan of a moved tree finds the same nodes. -/
theorem scopeNodes_shifted (test : Kind → Bool) :
    scopeNodes (t.shifted k) test n = scopeNodes t test n := by
  have hmatches := t.matches_shifted k
  have hsame : List.Forall₂ Eq (scopeNodes t test n) (scopeNodes (t.shifted k) test n) :=
    forall₂_scopeNodes (fun _ _ h => hmatches.kind h) (fun _ _ h _ => hmatches.children h)
      (hmatches.children rfl)
  rw [List.forall₂_eq_eq_eq] at hsame
  exact hsame.symm

/-- The child in a role is the same in a moved tree. -/
theorem childByField_shifted (f : Field) :
    (t.shifted k).childByField n f = t.childByField n f := by
  unfold childByField
  rw [children_shifted]
  simp only [field_shifted]

/-- The entries of a parameter list are the same in a moved tree. -/
theorem parametersOf_shifted : parametersOf (t.shifted k) n = parametersOf t n := by
  unfold parametersOf
  simp only [children_shifted, kind_shifted]
  exact List.map_congr_left fun p _ => ((t.matches_shifted k).parameterOf_eq rfl).symm

/-- The return annotation is the same in a moved tree. -/
theorem returnHint_shifted : returnHint (t.shifted k) n = returnHint t n := by
  unfold returnHint returnNodes SyntaxTree.isOperator
  simp only [children_shifted, kind_shifted, text_shifted]

/-- The exceptions of a scope are the same in a moved tree. -/
theorem raisedTypes_shifted : raisedTypes (t.shifted k) n = raisedTypes t n := by
  unfold raisedTypes
  rw [scopeRaises_eq, scopeRaises_eq, scopeNodes_shifted]
  exact List.filterMap_congr fun r _ => ((t.matches_shifted k).raisedType_eq rfl).symm

end

namespace Definition

/-- A definition in the tree with shifted lines. -/
def shifted (k : Nat) (d : Definition) : Definition := { d with tree := d.tree.shifted k }

variable (k : Nat) (d : Definition)

/-- The lines of a moved definition are the moved lines. -/
theorem span_shifted {d : Definition} (h : d.id < d.tree.size) :
    (d.shifted k).span = d.span.shifted k :=
  SyntaxTree.span_shifted k h

/-- A moved definition has the same name. -/
theorem name_shifted : (d.shifted k).name = d.name :=
  congrArg (·.getD "") ((d.tree.matches_shifted k).fieldText_eq rfl .name).symm

/-- A moved definition has the same body. -/
theorem body_shifted : (d.shifted k).body = d.body := childByField_shifted d.tree k d.id .body

/-- A moved definition has the same parameter list. -/
theorem parameterList_shifted : (d.shifted k).parameterList = d.parameterList := by
  unfold parameterList shifted
  simp only [children_shifted, kind_shifted]

/-- The signature is the same, and an error is reported further down. -/
theorem signature_shifted (h : d.id < d.tree.size) :
    (d.shifted k).signature = d.signature.mapError (·.shifted k) := by
  have htypes : raisedTypes (d.shifted k).tree = raisedTypes d.tree :=
    funext fun b => raisedTypes_shifted d.tree k b
  have hparams : parametersOf (d.shifted k).tree = parametersOf d.tree :=
    funext fun list => parametersOf_shifted d.tree k list
  have hhint : returnHint (d.shifted k).tree (d.shifted k).id = returnHint d.tree d.id :=
    returnHint_shifted d.tree k d.id
  unfold signature
  rw [parameterList_shifted, name_shifted, span_shifted k h, body_shifted, htypes, hparams, hhint]
  cases d.parameterList <;> rfl

/-- A moved definition has a moved line just if the definition had the line. -/
theorem contains_shifted {d : Definition} (h : d.id < d.tree.size) (line : Nat) :
    (d.shifted k).contains (line + k) = d.contains line := by
  rw [contains, contains, span_shifted k h, LineSpan.contains_shifted]

end Definition

/-- The definitions of a scope of a moved tree are the moved definitions. -/
theorem scopeDefinitions_shifted (t : SyntaxTree) (k scope : Nat) :
    scopeDefinitions (t.shifted k) scope = (scopeDefinitions t scope).map (·.shifted k) := by
  have hnode : ∀ n, Definition.ofNode? (t.shifted k) n =
      (Definition.ofNode? t n).map (·.shifted k) := by
    intro n
    unfold Definition.ofNode?
    rw [kind_shifted]
    split <;> rfl
  rw [scopeDefinitions_eq, scopeDefinitions_eq, scopeNodes_shifted, List.map_filterMap]
  simp only [hnode]

/-- The definitions nested in a moved one are the moved nested ones. -/
theorem Definition.nested_shifted (k : Nat) (d : Definition) :
    (d.shifted k).nested = d.nested.map (·.shifted k) := by
  unfold nested
  rw [body_shifted]
  cases d.body with
  | none => rfl
  | some b => exact scopeDefinitions_shifted d.tree k b

/-! ## Resolution -/

section

variable {k line : Nat}

/-- The first moved definition with a moved line is the first one with the line, moved. -/
theorem find?_contains_shifted {ds : List Definition} (h : ∀ d ∈ ds, d.id < d.tree.size) :
    (ds.map (·.shifted k)).find? (·.contains (line + k)) =
      (ds.find? (·.contains line)).map (·.shifted k) := by
  have hcontains : ds.filter (fun d => (d.shifted k).contains (line + k)) =
      ds.filter (·.contains line) :=
    List.filter_congr fun d hd => Definition.contains_shifted k (h d hd) line
  rw [List.find?_map, ← List.head?_filter, ← List.head?_filter]
  exact congrArg (fun found => found.head?.map (Definition.shifted k)) hcontains

/-- The shifted chain is the way down at the shifted line. -/
theorem IsDescent.shifted {scope chain : List Definition} (h : IsDescent line scope chain)
    (hscope : ∀ d ∈ scope, d.id < d.tree.size) :
    IsDescent (line + k) (scope.map (·.shifted k)) (chain.map (·.shifted k)) where
  first := by rw [find?_contains_shifted hscope, List.getElem?_map, h.first]
  next := by
    intro i _ hi
    rw [List.getElem?_map] at hi
    obtain ⟨d, hd, rfl⟩ := Option.map_eq_some_iff.1 hi
    have hnested : ∀ e ∈ d.nested, e.id < e.tree.size := by
      intro e he
      obtain ⟨htree, -, hsize⟩ := Definition.mem_nested he
      rwa [htree]
    rw [Definition.nested_shifted, find?_contains_shifted hnested, List.getElem?_map, h.next i d hd]

/-- The definitions of a file are nodes of its tree. -/
theorem lt_size_of_mem_topLevelDefinitions {t : SyntaxTree} {d : Definition}
    (h : d ∈ topLevelDefinitions t) : d.id < d.tree.size := by
  obtain ⟨htree, -, hsize⟩ := mem_scopeDefinitions h
  rwa [htree]

/-- The definitions inside one that is a node of the tree are nodes of the tree. -/
theorem Definition.Encloses.lt_size {d e : Definition} (h : d.Encloses e)
    (hd : d.id < d.tree.size) : e.id < e.tree.size := by
  cases h with
  | refl => exact hd
  | tail _ hstep =>
    obtain ⟨htree, -, hsize⟩ := Definition.mem_nested hstep
    rwa [htree]

/-- At a moved line of a moved tree resolution ends at the moved definition. -/
theorem fst_resolveEnclosing_shifted (t : SyntaxTree) (k line : Nat) :
    (resolveEnclosing (line + k) (topLevelDefinitions (t.shifted k))).1 =
      (resolveEnclosing line (topLevelDefinitions t)).1.map (·.shifted k) := by
  obtain ⟨chain, hchain, heq⟩ := resolveEnclosing_eq line (topLevelDefinitions t)
  obtain ⟨chain', hchain', heq'⟩ :=
    resolveEnclosing_eq (line + k) (topLevelDefinitions (t.shifted k))
  have htop : topLevelDefinitions (t.shifted k) = (topLevelDefinitions t).map (·.shifted k) :=
    scopeDefinitions_shifted t k root
  have hway := hchain.shifted (k := k) fun _ => lt_size_of_mem_topLevelDefinitions
  rw [← htop] at hway
  rw [heq, heq', hway.unique hchain', List.getLast?_map]

/-- What resolution ends at is a node of the tree. -/
theorem lt_size_of_resolveEnclosing {t : SyntaxTree} {d : Definition}
    (h : (resolveEnclosing line (topLevelDefinitions t)).1 = some d) : d.id < d.tree.size := by
  rw [fst_resolveEnclosing] at h
  obtain ⟨r, hhead, rfl⟩ := Option.map_eq_some_iff.1 h
  obtain ⟨htop, hline⟩ := List.mem_filter.1 (List.mem_of_mem_head? hhead)
  exact (narrow_spec hline).1.lt_size (lt_size_of_mem_topLevelDefinitions htop)

end

/-! ## Answers -/

/-- The result of a lookup is the outcome at the definition that resolution ends at. -/
theorem result_lookupInTree_eq (t : SyntaxTree) (line : Nat) :
    (lookupInTree t line).result =
      outcomeAt (resolveEnclosing line (topLevelDefinitions t)).1 := by
  rw [lookupInTree_eq]

/-- The answer at the shifted line is the shifted answer. -/
theorem result_lookupInTree_shifted (t : SyntaxTree) (k line : Nat) :
    (lookupInTree (t.shifted k) (line + k)).result =
      (lookupInTree t line).result.mapError (·.shifted k) := by
  rw [result_lookupInTree_eq, result_lookupInTree_eq, fst_resolveEnclosing_shifted]
  cases hfound : (resolveEnclosing line (topLevelDefinitions t)).1 with
  | none => rfl
  | some d =>
    have hsignature := d.signature_shifted k (lt_size_of_resolveEnclosing hfound)
    have hkind : (d.shifted k).kind = d.kind := rfl
    simp only [Option.map_some, outcomeAt, hkind, hsignature]
    cases d.kind with
    | function => cases d.signature <;> rfl
    | «class» => rfl

/-- Only a missing parameter list keeps a lookup in a tree from an answer. -/
theorem exists_of_result_eq_error {t : SyntaxTree} {line : Nat} {e : LookupError}
    (h : (lookupInTree t line).result = .error e) :
    ∃ name first, e = .missingParameters name first := by
  rw [result_lookupInTree_eq, outcomeAt_eq_error_iff] at h
  obtain ⟨d, -, -, hd⟩ := h
  exact ⟨d.name, d.span.start, (signature_eq_error_iff.1 hd).2⟩

/-- A line above all definitions has no signature. -/
theorem result_lookupInTree_of_lt {t : SyntaxTree} {line : Nat}
    (h : ∀ d ∈ topLevelDefinitions t, line < d.span.start) :
    (lookupInTree t line).result = .ok none := by
  have hnone : containing line (topLevelDefinitions t) = [] := by
    apply List.filter_eq_nil_iff.2
    intro d hd
    have hstart := h d hd
    rw [Definition.contains, LineSpan.contains_iff]
    omega
  rw [result_lookupInTree_eq, fst_resolveEnclosing, hnone]
  rfl

/-- Lines are counted from one, so no definition starts at line zero. -/
theorem start_span_pos_of_mem_topLevelDefinitions {source : String} {c : ConcreteTree}
    {d : Definition} (h : d ∈ topLevelDefinitions (lower source c)) : 0 < d.span.start := by
  obtain ⟨htree, -, hsize⟩ := mem_scopeDefinitions h
  rw [Definition.span, htree]
  exact start_span_lower_pos source hsize

/-- Shifting lines shifts answers.  Take any concrete tree and the tree with all rows `k` further
down.  At a line of the first and at the line `k` further down in the second, lookups in the lowered
trees both give no signature, or both give signatures whose records describe the same, or both fail
for want of a parameter list, with the same name and with lines that are `k` apart.  Up to line `k`
the second tree has no signature, and no lowered tree has one at line zero. -/
theorem shifted_lines_shift_answers (source : String) (c : ConcreteTree) (k : Nat) :
    (∀ line, let answer := (lookupInTree (lower source c) line).result
      let answer' := (lookupInTree (lower source (c.shifted k)) (line + k)).result
      (answer = .ok none ∧ answer' = .ok none) ∨
      (∃ sig sig', answer = .ok (some sig) ∧ answer' = .ok (some sig') ∧
        ∀ id id', SignatureRecord.sameSignature ⟨sig, id⟩ ⟨sig', id'⟩) ∨
      ∃ name first, answer = .error (.missingParameters name first) ∧
        answer' = .error (.missingParameters name (first + k))) ∧
    (∀ line ≤ k, (lookupInTree (lower source (c.shifted k)) line).result = .ok none) ∧
    (lookupInTree (lower source c) 0).result = .ok none := by
  rw [lower_shifted]
  refine ⟨?_, ?_, ?_⟩
  · intro line answer answer'
    have hshifted : answer' = answer.mapError (·.shifted k) :=
      result_lookupInTree_shifted (lower source c) k line
    rw [hshifted]
    cases hanswer : answer with
    | ok found =>
      cases found with
      | none => exact .inl ⟨rfl, rfl⟩
      | some sig => exact .inr (.inl ⟨sig, sig, rfl, rfl, fun _ _ => beq_self_eq_true sig⟩)
    | error e =>
      obtain ⟨name, first, rfl⟩ := exists_of_result_eq_error hanswer
      exact .inr (.inr ⟨name, first, rfl, rfl⟩)
  · intro line hline
    apply result_lookupInTree_of_lt
    intro e he
    rw [topLevelDefinitions, scopeDefinitions_shifted] at he
    obtain ⟨d, hd, rfl⟩ := List.mem_map.1 he
    have hspan := Definition.span_shifted k (lt_size_of_mem_topLevelDefinitions hd)
    have hpos := start_span_pos_of_mem_topLevelDefinitions hd
    have hstart : (d.shifted k).span.start = d.span.start + k := congrArg LineSpan.start hspan
    omega
  · exact result_lookupInTree_of_lt fun d => start_span_pos_of_mem_topLevelDefinitions

end DocSignature
