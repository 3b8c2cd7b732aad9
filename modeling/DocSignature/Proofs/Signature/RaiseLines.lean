import DocSignature.Proofs.Signature.Innermost
import DocSignature.Proofs.Signature.Scopes
import DocSignature.Signature.Lookup

/-!
# Looking up the line of a `raise` statement

Which function a `raise` statement belongs to is decided by the structure of the tree, and which
function a line belongs to by spans.  The two agree: a statement that the scan of a function's body
finds lies below the function, so its first line is a line of the function, and unless a nested
definition has that line too the function is the innermost definition there.
`raise_line_reports_the_raise` draws the conclusion for lookups.
-/

set_option autoImplicit false

namespace DocSignature

open Syntax Syntax.SyntaxTree Syntax.ConcreteTree Definition

/-! ## `raise` statements as nodes below their function -/

/-- What a scan of a lowered tree finds are copies of nodes below the scope. -/
theorem exists_of_mem_scopeNodes_lower {source : String} {c s : ConcreteTree} {p : Path}
    (hs : c.subtree? p = some s) {test : Kind → Bool} {j : Nat}
    (h : j ∈ scopeNodes (lower source c) test (c.place p)) :
    ∃ q e, c.subtree? (p ++ q) = some e ∧ j = c.place (p ++ q) := by
  generalize hscope : c.place p = scope at h
  induction scope using scopeNodes.induct (lower source c) generalizing p s with
  | case1 scope ih =>
    subst hscope
    rw [scopeNodes_eq, List.mem_flatMap] at h
    obtain ⟨child, hchild, hj⟩ := h
    obtain ⟨k, e, he, -, rfl⟩ := exists_of_mem_children_lower hs hchild
    split at hj
    · obtain rfl := List.mem_singleton.1 hj
      exact ⟨[k], e, he, rfl⟩
    · split at hj
      · obtain ⟨q, f, hf, hplace⟩ := ih _ hchild he rfl hj
        rw [List.append_assoc] at hf hplace
        exact ⟨[k] ++ q, f, hf, hplace⟩
      · simp at hj

/-- The `raise` statements looked at for the copy of a definition are copies of `raise` statements
below it. -/
theorem Definition.IsCopyAt.exists_of_mem_raises {source : String} {c s : ConcreteTree} {p : Path}
    {d : Definition} (h : IsCopyAt source c p s d) {r : Nat} (hr : r ∈ d.raises) :
    ∃ q e, c.subtree? (p ++ q) = some e ∧ r = c.place (p ++ q) ∧ e.info.isRaise := by
  unfold raises at hr
  cases hbody : d.body with
  | none => simp [hbody] at hr
  | some body =>
    rw [hbody, Option.map_some, Option.getD_some, h.tree_eq, scopeRaises_eq] at hr
    have htest := test_of_mem_scopeNodes hr
    rw [Definition.body, h.tree_eq, h.id_eq] at hbody
    obtain ⟨k, b, hb, -, rfl, -⟩ := exists_of_childByField_lower h.subtree hbody
    obtain ⟨q, e, he, rfl⟩ := exists_of_mem_scopeNodes_lower hb hr
    rw [(holds_lower_subtree source he).kind, NamedKinds.raises.test_classify] at htest
    rw [List.append_assoc] at he
    exact ⟨[k] ++ q, e, he, by rw [List.append_assoc], htest⟩

/-! ## Lines -/

/-- A range that is not empty occupies the line it starts on. -/
theorem Syntax.ConcreteNode.contains_start_span {n : ConcreteNode} (h : n.start.before n.stop) :
    n.span.contains n.span.start := by
  refine (LineSpan.contains_ofRows_iff h _).2 ⟨n.start.row, n.start.column, rfl, ?_, h⟩
  exact n.start.not_before_self

/-- The `raise` statements of a concrete tree are not empty. -/
def Syntax.ConcreteTree.RaisesNonEmpty (c : ConcreteTree) : Prop :=
  ∀ s ∈ c.subtrees, s.info.isRaise → s.info.start.before s.info.stop

instance (c : ConcreteTree) : Decidable c.RaisesNonEmpty :=
  inferInstanceAs (Decidable (∀ s ∈ c.subtrees, s.info.isRaise → s.info.start.before s.info.stop))

/-- The line on which a `raise` statement of a function starts is a line of the function. -/
theorem Definition.IsCopyAt.contains_start_raise {source : String} {c s : ConcreteTree} {p : Path}
    {d : Definition} (h : IsCopyAt source c p s d) (hnest : c.RangesNest)
    (hfull : c.DefinitionsNonEmpty) (hraises : c.RaisesNonEmpty) {r : Nat} (hr : r ∈ d.raises) :
    d.contains ((lower source c).span r).start := by
  obtain ⟨q, e, he, rfl, hraise⟩ := h.exists_of_mem_raises hr
  have hspan : (lower source c).span (c.place (p ++ q)) = e.info.span :=
    (holds_lower_subtree source he).span
  have hwithin : e.info.Within s.info := hnest.within h.subtree he
  have hefull := hraises e (mem_subtrees_of_subtree? he) hraise
  have hsfull := hfull s (mem_subtrees_of_subtree? h.subtree) h.isDefinition
  rw [Definition.contains, h.span_eq, hspan]
  exact hwithin.contains_span hefull hsfull (ConcreteNode.contains_start_span hefull)

/-! ## Lookups -/

/-- Where definitions nest and those of one scope are apart, resolution ends at the innermost
definition. -/
theorem IsInnermost.resolveEnclosing_eq {tree : SyntaxTree} {line : Nat} {d : Definition}
    (h : IsInnermost tree line d) (hnest : DefinitionsNest tree) (hapart : SiblingsApart tree) :
    (resolveEnclosing line (topLevelDefinitions tree)).1 = some d := by
  cases hfound : (resolveEnclosing line (topLevelDefinitions tree)).1 with
  | none => exact absurd h.2.1 ((resolveEnclosing_eq_none_iff hnest line).1 hfound d h.1)
  | some f =>
    obtain ⟨hinner, hencl⟩ := resolveEnclosing_eq_some hnest hapart hfound
    rw [h.eq_of_encloses hnest (hencl d h.1 h.2.1) hinner.2.1]

/-- Where resolution ends at a function, the result of a lookup is its signature. -/
theorem result_lookupInTree_of_function {tree : SyntaxTree} {line : Nat} {d : Definition}
    (h : (resolveEnclosing line (topLevelDefinitions tree)).1 = some d)
    (hkind : d.kind = .function) : (lookupInTree tree line).result = d.signature.map some := by
  unfold lookupInTree
  split
  · next events hnone =>
    rw [hnone] at h
    simp at h
  · next e events hsome =>
    rw [hsome] at h
    obtain rfl := Option.some.inj h
    simp only [hkind]

/-- Looking up the line on which a `raise` statement starts reports what it raises.  In a tree
lowered from a concrete tree in which every node lies inside its parent and neither definitions nor
`raise` statements are empty, and where the definitions of one scope share no line, take a function
with a parameter list and a `raise` statement that its body is scanned for.  If no definition nested
in the function has the line on which the statement starts, then a lookup at that line succeeds and
gives the signature of the function, and the exception that the statement raises is among those of
that signature. -/
theorem raise_line_reports_the_raise (source : String) (c : ConcreteTree) (hnest : c.RangesNest)
    (hfull : c.DefinitionsNonEmpty) (hraises : c.RaisesNonEmpty)
    (hapart : SiblingsApart (lower source c)) {f : Definition}
    (hf : f ∈ allDefinitions (lower source c)) (hfunction : f.kind = .function)
    (hlist : f.parameterList.isSome) {r : Nat} (hr : r ∈ f.raises) {raised : String}
    (hraised : raisedType (lower source c) r = some raised)
    (hnested : ∀ n ∈ f.nested, ¬ n.contains ((lower source c).span r).start) :
    ∃ sig, f.signature = .ok sig ∧
      (lookupInTree (lower source c) ((lower source c).span r).start).result = .ok (some sig) ∧
      raised ∈ sig.raiseTypes := by
  obtain ⟨p, s, hcopy⟩ := exists_isCopyAt_of_mem_allDefinitions hf
  have hline := hcopy.contains_start_raise hnest hfull hraises hr
  -- structure and spans agree: the function the statement belongs to is the one at its line
  have hinnermost : IsInnermost (lower source c) ((lower source c).span r).start f :=
    ⟨hf, hline, hnested⟩
  have hfound := hinnermost.resolveEnclosing_eq (definitionsNest_lower source hnest hfull) hapart
  obtain ⟨list, hlist⟩ := Option.isSome_iff_exists.1 hlist
  have hsig := signature_of_parameterList hlist
  refine ⟨_, hsig, ?_, ?_⟩
  · rw [result_lookupInTree_of_function hfound hfunction, hsig]
    rfl
  · rw [raiseTypes_of_signature hsig, hcopy.tree_eq]
    exact List.mem_filterMap.2 ⟨r, hr, hraised⟩

/-- The text of a function that defines another one and raises under an `if`. -/
def guardingText : String :=
  "def f():\n    def g():\n        raise A\n    if x:\n        raise B\n"

/-- The tree of this text, as far as it matters here. -/
def guardingFile : ConcreteTree :=
  let header (row column start : Nat) : List ConcreteTree :=
    [.named "identifier" [] (some "name") ⟨row, column⟩ ⟨row, column + 1⟩ ⟨start, start + 1⟩,
      .named "parameters" [] none ⟨row, column + 1⟩ ⟨row, column + 3⟩ ⟨start + 1, start + 3⟩]
  let raise (row start : Nat) : ConcreteTree := .named "raise_statement"
    [.node { name := "raise", named := false, start := ⟨row, 8⟩, stop := ⟨row, 13⟩,
             bytes := ⟨start, start + 5⟩ } [],
      .named "identifier" [] none ⟨row, 14⟩ ⟨row, 15⟩ ⟨start + 6, start + 7⟩]
    none ⟨row, 8⟩ ⟨row, 15⟩ ⟨start, start + 7⟩
  let inner := ConcreteTree.named "function_definition"
    (header 1 8 17 ++ [.named "block" [raise 2 30] (some "body") ⟨2, 8⟩ ⟨2, 15⟩ ⟨30, 37⟩])
    none ⟨1, 4⟩ ⟨2, 15⟩ ⟨13, 37⟩
  let guard := ConcreteTree.named "if_statement"
    [.named "block" [raise 4 56] none ⟨4, 8⟩ ⟨4, 15⟩ ⟨56, 63⟩] none ⟨3, 4⟩ ⟨4, 15⟩ ⟨42, 63⟩
  .named "module"
    [.named "function_definition"
      (header 0 4 4 ++ [.named "block" [inner, guard] (some "body") ⟨1, 4⟩ ⟨4, 15⟩ ⟨13, 63⟩])
      none ⟨0, 0⟩ ⟨4, 15⟩ ⟨0, 63⟩] none ⟨0, 0⟩ ⟨5, 0⟩ ⟨0, 64⟩

/-- Line five of this text is in the outer function only, and looking it up reports `B`. -/
theorem guardingFile_reports_raise :
    let tree := lower guardingText guardingFile
    (guardingFile.RangesNest ∧ guardingFile.DefinitionsNonEmpty ∧ guardingFile.RaisesNonEmpty ∧
      SiblingsApart tree) ∧
    (tree.span 14).start = 5 ∧ raisedType tree 14 = some "B" ∧
    ∃ f ∈ allDefinitions tree, (f.kind = .function ∧ f.parameterList.isSome ∧ 14 ∈ f.raises ∧
      ∀ n ∈ f.nested, ¬ n.contains 5) ∧
      ∃ sig, f.signature = .ok sig ∧ (lookupInTree tree 5).result = .ok (some sig) ∧
        "B" ∈ sig.raiseTypes := by
  intro tree
  have hnest : guardingFile.RangesNest := by decide +kernel
  have hfull : guardingFile.DefinitionsNonEmpty := by decide +kernel
  have hraises : guardingFile.RaisesNonEmpty := by decide +kernel
  have hapart : SiblingsApart tree := by decide +kernel
  have hline : (tree.span 14).start = 5 := by decide +kernel
  have hraised : raisedType tree 14 = some "B" := by decide +kernel
  have houter : ∃ f ∈ allDefinitions tree, f.kind = .function ∧ f.parameterList.isSome ∧
      14 ∈ f.raises ∧ ∀ n ∈ f.nested, ¬ n.contains 5 := by decide +kernel
  obtain ⟨f, hf, hfunction, hlist, hr, hnested⟩ := houter
  have hreport := raise_line_reports_the_raise guardingText guardingFile hnest hfull hraises hapart
    hf hfunction hlist hr hraised (by rwa [hline])
  rw [hline] at hreport
  exact ⟨⟨hnest, hfull, hraises, hapart⟩, hline, hraised, f, hf, ⟨hfunction, hlist, hr, hnested⟩,
    hreport⟩

end DocSignature
