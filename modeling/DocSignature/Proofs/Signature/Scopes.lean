import DocSignature.Proofs.Signature.Forest
import DocSignature.Proofs.Syntax.Placement
import DocSignature.Signature.Extraction

/-!
# Scopes are complete

Definitions (`scope_definitions`) and `raise` statements (`collect_raises`) are looked for in the
same way, scope by scope, through statement containers only.  `scopeNodes` is that scan.  Where
statements stand as the grammar puts them, the scan of a scope finds every node it looks for whose
nearest definition is the one the scope belongs to, once and in order, and no other node.  So the
forest of definitions misses none and no `raise` statement is lost or told of two functions.
-/

set_option autoImplicit false

namespace DocSignature

open Syntax Syntax.SyntaxTree Syntax.ConcreteTree

/-- The nodes of a scope whose kinds pass a test, in source order. -/
def scopeNodes (tree : SyntaxTree) (test : Kind → Bool) (scope : Nat) : List Nat :=
  (tree.children scope).attach.flatMap fun ⟨child, _⟩ =>
    if test (tree.kind child) then [child]
    else if (tree.kind child).isStatementContainer then scopeNodes tree test child
    else []
termination_by tree.size - scope
decreasing_by exact SyntaxTree.sub_lt_of_mem_children ‹_›

/-- A scan goes over the children of a node and on into those that hold statements. -/
theorem scopeNodes_eq (tree : SyntaxTree) (test : Kind → Bool) (scope : Nat) :
    scopeNodes tree test scope = (tree.children scope).flatMap fun child =>
      if test (tree.kind child) then [child]
      else if (tree.kind child).isStatementContainer then scopeNodes tree test child
      else [] := by
  rw [scopeNodes, List.flatMap_subtype (g := fun child =>
    if test (tree.kind child) then [child]
    else if (tree.kind child).isStatementContainer then scopeNodes tree test child
    else []) (fun _ _ => rfl), List.unattach_attach]

/-- The `raise` statements of a scope are what a scan for them finds. -/
theorem scopeRaises_eq (tree : SyntaxTree) (scope : Nat) :
    scopeRaises tree scope = scopeNodes tree NamedKinds.raises.test scope := by
  induction scope using scopeRaises.induct tree with
  | case1 scope ih =>
    rw [scopeRaises, scopeNodes]
    refine List.flatMap_congr fun c _ => ?_
    obtain ⟨child, hchild⟩ := c
    simp only [ih child hchild]
    rfl

/-- The definitions of a scope are what a scan for them finds. -/
theorem scopeDefinitions_eq (tree : SyntaxTree) (scope : Nat) :
    scopeDefinitions tree scope =
      (scopeNodes tree NamedKinds.definitions.test scope).filterMap (Definition.ofNode? tree) := by
  induction scope using scopeDefinitions.induct tree with
  | case1 scope ih =>
    rw [scopeDefinitions, scopeNodes, List.filterMap_flatMap]
    refine List.flatMap_congr fun c _ => ?_
    obtain ⟨child, hchild⟩ := c
    have hsome : NamedKinds.definitions.test (tree.kind child) =
        (Definition.ofNode? tree child).isSome := (Definition.isSome_ofNode? tree child).symm
    cases hfound : Definition.ofNode? tree child with
    | some d =>
      rw [hfound, Option.isSome_some] at hsome
      simp [hsome, hfound]
    | none =>
      rw [hfound, Option.isSome_none] at hsome
      simp only [hsome, hfound, Bool.false_eq_true, if_false, ih child hchild]
      split <;> rfl

/-- A scan finds only what it looks for. -/
theorem test_of_mem_scopeNodes {tree : SyntaxTree} {test : Kind → Bool} {scope j : Nat}
    (h : j ∈ scopeNodes tree test scope) : test (tree.kind j) := by
  induction scope using scopeNodes.induct tree with
  | case1 scope ih =>
    rw [scopeNodes_eq, List.mem_flatMap] at h
    obtain ⟨child, hchild, hj⟩ := h
    split at hj
    · next htest =>
      obtain rfl := List.mem_singleton.1 hj
      exact htest
    · split at hj
      · exact ih child hchild hj
      · simp at hj

/-- The definitions of a scope stand at the nodes that a scan for them finds. -/
theorem map_id_scopeDefinitions (tree : SyntaxTree) (scope : Nat) :
    (scopeDefinitions tree scope).map (·.id) =
      scopeNodes tree NamedKinds.definitions.test scope := by
  have hself : ∀ j ∈ scopeNodes tree NamedKinds.definitions.test scope,
      (Definition.ofNode? tree j).map (·.id) = some j := by
    intro j hj
    have hsome := (Definition.isSome_ofNode? tree j).trans (test_of_mem_scopeNodes hj)
    obtain ⟨d, hd⟩ := Option.isSome_iff_exists.1 hsome
    rw [hd, Option.map_some, (Definition.of_ofNode?_eq_some hd).2]
  rw [scopeDefinitions_eq, List.map_filterMap, List.filterMap_congr hself, List.filterMap_some]

/-! ## Scans of lowered trees -/

section

variable (source : String) {c s : ConcreteTree} {p : Path}

/-- A kind of a lowered tree passes a test just if the name of the node is one that it goes by. -/
theorem test_kind_lower (kinds : NamedKinds) (h : c.subtree? p = some s) :
    kinds.test ((lower source c).kind (c.place p)) = c.isAt (·.isOneOf kinds.names) p := by
  rw [isAt_eq h, (holds_lower_subtree source h).kind, kinds.test_classify]

/-- A scan of a lowered tree, told by paths. -/
theorem scopeNodes_lower_eq (kinds : NamedKinds) (h : c.subtree? p = some s) :
    scopeNodes (lower source c) kinds.test (c.place p) =
      (List.range s.children.length).flatMap fun k =>
        if c.isAt (·.isOneOf kinds.names) (p ++ [k]) then [c.place (p ++ [k])]
        else if c.isAt (·.isContainer) (p ++ [k]) then
          scopeNodes (lower source c) kinds.test (c.place (p ++ [k]))
        else [] := by
  rw [scopeNodes_eq, children_lower source h, List.flatMap_map]
  refine List.flatMap_congr fun k hk => ?_
  obtain ⟨d, hd⟩ := exists_subtree?_concat h (List.mem_range.1 hk)
  rw [test_kind_lower source kinds hd,
    show ((lower source c).kind (c.place (p ++ [k]))).isStatementContainer =
      c.isAt (·.isContainer) (p ++ [k]) from test_kind_lower source NamedKinds.containers hd]

/-- What a scan of a lowered tree finds: all nodes that it looks for whose nearest definition is the
one that the scope belongs to. -/
theorem scopeNodes_lower (hplaced : c.StatementsPlaced) {kinds : NamedKinds}
    (hkinds : kinds.Scanned) (h : c.subtree? p = some s) :
    scopeNodes (lower source c) kinds.test (c.place p) =
      ((c.pathsFrom p).tail.filter
        (c.belongs (·.isOneOf kinds.names) (c.scopeOf? p))).map c.place := by
  induction s generalizing p with
  | node info cs ih =>
    rw [scopeNodes_lower_eq source kinds h, pathsFrom_eq h, List.tail_cons, List.filter_flatMap,
      List.map_flatMap]
    refine List.flatMap_congr fun k hk => ?_
    obtain ⟨d, hd⟩ := exists_subtree?_concat h (List.mem_range.1 hk)
    have hchild : d ∈ cs := List.mem_of_getElem? (subtree?_concat h k ▸ hd)
    rw [pathsFrom_eq_cons hd, List.filter_cons, belongs_concat, isAt_eq hd, isAt_eq hd]
    by_cases hdefinition : d.info.isDefinition
    · -- the scope ends here
      have hrest : (c.pathsFrom (p ++ [k])).tail.filter
          (c.belongs (·.isOneOf kinds.names) (c.scopeOf? p)) = [] := by
        refine List.filter_eq_nil_iff.2 fun q hq => ?_
        obtain ⟨j, l, -, rfl, -⟩ := exists_of_mem_tail_pathsFrom hq
        exact not_belongs_of_isAt ((isAt_eq hd _).trans hdefinition) _ j l
      rw [hrest, ConcreteNode.isContainer_eq_false (.inl hdefinition)]
      split <;> rfl
    by_cases hcontainer : d.info.isContainer
    · -- the scope goes on inside
      have hnot : ¬ d.info.isOneOf kinds.names := by
        intro hone
        rw [ConcreteNode.isContainer_eq_false (hkinds _ hone)] at hcontainer
        simp at hcontainer
      have hscope : c.scopeOf? (p ++ [k]) = c.scopeOf? p := by
        rw [scopeOf?, isAt_eq hd, if_neg hdefinition, enclosing?_concat, scopeOf?]
      rw [if_neg hnot, if_pos hcontainer, if_neg hnot, ih d hchild hd, hscope]
    · rw [if_neg hcontainer, hplaced.filter_tail_eq_nil hd ⟨hcontainer, hdefinition⟩
        fun q e he hbelongs => hkinds _ (test_of_belongs he hbelongs)]
      split <;> rfl

/-- Right below a definition stands nothing that is scanned for, and a statement container only as
the body. -/
theorem children_of_isDefinition (hplaced : c.StatementsPlaced) (h : c.subtree? p = some s)
    (hdefinition : s.info.isDefinition) {d : ConcreteTree} (hd : d ∈ s.children) :
    ¬ (d.info.isDefinition ∨ d.info.isRaise) ∧ (d.info.isContainer → d.info.fills .body) := by
  have hmay := hplaced.placed s (mem_subtrees_of_subtree? h) d hd
  have hnot : ¬ s.info.isContainer := by
    rw [ConcreteNode.isContainer_eq_false (.inl hdefinition)]
    exact Bool.false_ne_true
  refine ⟨fun hd => hnot (hmay.isContainer_of_statement hd), ?_⟩
  intro hcontainer
  exact ((hmay.of_isContainer hcontainer).resolve_left hnot).2

/-- Of a definition's children only one is the body. -/
theorem eq_of_fills_body (hplaced : c.StatementsPlaced) (h : c.subtree? p = some s)
    (hdefinition : s.info.isDefinition) {j k : Nat} {d e : ConcreteTree}
    (hd : s.children[j]? = some d) (he : s.children[k]? = some e) (hdbody : d.info.fills .body)
    (hebody : e.info.fills .body) : j = k := by
  have hone := List.pairwise_iff_getElem.1
    (hplaced.oneBody s (mem_subtrees_of_subtree? h) hdefinition)
  obtain ⟨hj, rfl⟩ := List.getElem?_eq_some_iff.1 hd
  obtain ⟨hk, rfl⟩ := List.getElem?_eq_some_iff.1 he
  rcases Nat.lt_trichotomy j k with hlt | heq | hlt
  · exact absurd ⟨hdbody, hebody⟩ (hone j k hj hk hlt)
  · exact heq
  · exact absurd ⟨hebody, hdbody⟩ (hone k j hk hj hlt)

/-- A scan of a definition's body finds what a scan of the whole definition would. -/
theorem scopeNodes_body (hplaced : c.StatementsPlaced) {kinds : NamedKinds}
    (hkinds : kinds.Scanned) (h : c.subtree? p = some s) (hdefinition : s.info.isDefinition) :
    (((lower source c).childByField (c.place p) .body).map
        (scopeNodes (lower source c) kinds.test)).getD [] =
      scopeNodes (lower source c) kinds.test (c.place p) := by
  have hrest : ∀ k d, s.children[k]? = some d → ¬ d.info.fills .body →
      (if c.isAt (·.isOneOf kinds.names) (p ++ [k]) then [c.place (p ++ [k])]
        else if c.isAt (·.isContainer) (p ++ [k]) then
          scopeNodes (lower source c) kinds.test (c.place (p ++ [k]))
        else []) = [] := by
    intro k d hd hbody
    obtain ⟨hnone, hcontainer⟩ :=
      children_of_isDefinition hplaced h hdefinition (List.mem_of_getElem? hd)
    have hpath : c.subtree? (p ++ [k]) = some d := (subtree?_concat h k).trans hd
    rw [isAt_eq hpath, isAt_eq hpath, if_neg fun hone => hnone (hkinds _ hone),
      if_neg fun hd => hbody (hcontainer hd)]
  rw [scopeNodes_lower_eq source kinds h]
  cases hbody : (lower source c).childByField (c.place p) .body with
  | none =>
    refine (List.flatMap_eq_nil_iff.2 fun k hk => ?_).symm
    obtain ⟨d, hd⟩ := exists_subtree?_concat h (List.mem_range.1 hk)
    rw [subtree?_concat h] at hd
    exact hrest k d hd (not_of_childByField_lower h hbody d (List.mem_of_getElem? hd))
  | some j =>
    obtain ⟨k, b, hb, hchild, rfl, hfills⟩ := exists_of_childByField_lower h hbody
    have hk : k < s.children.length := (List.getElem?_eq_some_iff.1 hchild).1
    obtain ⟨hnone, -⟩ :=
      children_of_isDefinition hplaced h hdefinition (List.mem_of_getElem? hchild)
    rw [flatMap_eq_of_mem List.nodup_range (List.mem_range.2 hk)]
    · rw [Option.map_some, Option.getD_some, isAt_eq hb, isAt_eq hb,
        if_neg fun hone => hnone (hkinds _ hone)]
      split
      · rfl
      · -- a body that holds no statements has nothing below it to find
        next hcontainer =>
        rw [scopeNodes_lower source hplaced hkinds hb,
          hplaced.filter_tail_eq_nil hb ⟨hcontainer, fun hdef => hnone (.inl hdef)⟩
            fun q e he hbelongs => hkinds _ (test_of_belongs he hbelongs), List.map_nil]
    · intro i hi hne
      obtain ⟨d, hd⟩ := exists_subtree?_concat h (List.mem_range.1 hi)
      rw [subtree?_concat h] at hd
      exact hrest i d hd fun hdbody =>
        hne (eq_of_fills_body hplaced h hdefinition hd hchild hdbody hfills)

/-- A scan of a whole definition finds what belongs to it. -/
theorem scopeNodes_definition (hplaced : c.StatementsPlaced) {kinds : NamedKinds}
    (hkinds : kinds.Scanned) (h : c.subtree? p = some s) (hdefinition : s.info.isDefinition) :
    scopeNodes (lower source c) kinds.test (c.place p) =
      (c.paths.filter (c.belongs (·.isOneOf kinds.names) (some p))).map c.place := by
  rw [scopeNodes_lower source hplaced hkinds h, scopeOf?, isAt_eq h, if_pos hdefinition,
    filter_belongs_some h]

/-- A scan of a whole file finds what belongs to no definition. -/
theorem scopeNodes_root (hplaced : c.StatementsPlaced) {kinds : NamedKinds}
    (hkinds : kinds.Scanned) :
    scopeNodes (lower source c) kinds.test root =
      (c.paths.filter (c.belongs (·.isOneOf kinds.names) none)).map c.place := by
  have hscope : c.scopeOf? [] = none := by
    rw [scopeOf?, isAt_eq rfl, if_neg fun h => hplaced.not_root (.inl h), enclosing?_nil]
  have hscan := scopeNodes_lower source hplaced hkinds (p := []) rfl
  rw [hscope] at hscan
  rw [filter_belongs_none fun h => hplaced.not_root (hkinds _ h)]
  exact hscan

end

/-! ## The forest of definitions -/

namespace Definition

/-- The `raise` statements that are looked at for the record of a definition. -/
def raises (d : Definition) : List Nat :=
  (d.body.map (scopeRaises d.tree)).getD []

/-- The exceptions of a record are those of the `raise` statements looked at. -/
theorem raiseTypes_of_signature {d : Definition} {sig : Signature} (h : d.signature = .ok sig) :
    sig.raiseTypes = d.raises.filterMap (raisedType d.tree) := by
  unfold signature at h
  split at h
  · simp at h
  · obtain rfl := Except.ok.inj h
    cases hbody : d.body with
    | none => simp [raises, hbody]
    | some body => simp [raises, hbody, raisedTypes]

section

variable {source : String} {c s : ConcreteTree} {p : Path} {d : Definition}

/-- What is nested in a definition is what a scan of the whole definition finds. -/
theorem IsCopyAt.nested_eq (h : IsCopyAt source c p s d) (hplaced : c.StatementsPlaced) :
    d.nested = scopeDefinitions (lower source c) (c.place p) := by
  have hscan := scopeNodes_body source hplaced NamedKinds.scanned_definitions h.subtree
    h.isDefinition
  rw [scopeDefinitions_eq, ← hscan, nested, Definition.body, h.tree_eq, h.id_eq]
  cases hbody : (lower source c).childByField (c.place p) .body with
  | none => rfl
  | some body => simp [scopeDefinitions_eq]

/-- The definitions nested in a definition are those that belong to it, in order. -/
theorem IsCopyAt.map_id_nested (h : IsCopyAt source c p s d) (hplaced : c.StatementsPlaced) :
    d.nested.map (·.id) =
      (c.paths.filter (c.belongs (·.isDefinition) (some p))).map c.place := by
  rw [h.nested_eq hplaced, map_id_scopeDefinitions]
  exact scopeNodes_definition source hplaced NamedKinds.scanned_definitions h.subtree
    h.isDefinition

/-- The `raise` statements looked at for a definition are those that belong to it, in order. -/
theorem IsCopyAt.raises_eq (h : IsCopyAt source c p s d) (hplaced : c.StatementsPlaced) :
    d.raises = (c.paths.filter (c.belongs (·.isRaise) (some p))).map c.place := by
  have hscan := scopeNodes_body source hplaced NamedKinds.scanned_raises h.subtree
    h.isDefinition
  rw [raises, Definition.body, h.tree_eq, h.id_eq, funext (scopeRaises_eq (lower source c)), hscan]
  exact scopeNodes_definition source hplaced NamedKinds.scanned_raises h.subtree
    h.isDefinition

end

/-- A definition of a concrete tree has a copy. -/
theorem exists_isCopyAt (source : String) {c s : ConcreteTree} {p : Path}
    (h : c.subtree? p = some s) (hdefinition : s.info.isDefinition) :
    ∃ d, IsCopyAt source c p s d := by
  have hsome : (ofNode? (lower source c) (c.place p)).isSome := by
    rw [isSome_ofNode?]
    exact (test_kind_lower source NamedKinds.definitions h).trans ((isAt_eq h _).trans hdefinition)
  obtain ⟨d, hd⟩ := Option.isSome_iff_exists.1 hsome
  exact ⟨d, h, hd⟩

end Definition

open Definition

section

variable {source : String} {c : ConcreteTree}

/-- The definitions of a scope of a lowered tree, told by paths. -/
theorem scopeDefinitions_lower_eq {s : ConcreteTree} {p : Path} (h : c.subtree? p = some s) :
    scopeDefinitions (lower source c) (c.place p) =
      (List.range s.children.length).flatMap fun k =>
        if c.isAt (·.isDefinition) (p ++ [k]) then
          (ofNode? (lower source c) (c.place (p ++ [k]))).toList
        else if c.isAt (·.isContainer) (p ++ [k]) then
          scopeDefinitions (lower source c) (c.place (p ++ [k]))
        else [] := by
  rw [scopeDefinitions_eq, scopeNodes_lower_eq source NamedKinds.definitions h,
    List.filterMap_flatMap]
  refine List.flatMap_congr fun k _ => ?_
  change List.filterMap _ (if c.isAt (·.isDefinition) (p ++ [k]) then _ else _) = _
  split
  · cases hnode : ofNode? (lower source c) (c.place (p ++ [k])) <;> simp [hnode]
  · split
    · rw [scopeDefinitions_eq]
    · rfl

/-- The definitions of a scope, each followed by all that it encloses, are all definitions below the
scope, in order. -/
theorem map_id_flatMap_withNested (hplaced : c.StatementsPlaced) {s : ConcreteTree} {p : Path}
    (h : c.subtree? p = some s) :
    ((scopeDefinitions (lower source c) (c.place p)).flatMap withNested).map (·.id) =
      ((c.pathsFrom p).tail.filter (c.isAt (·.isDefinition))).map c.place := by
  induction s generalizing p with
  | node info cs ih =>
    rw [scopeDefinitions_lower_eq h, List.flatMap_assoc, List.map_flatMap, pathsFrom_eq h,
      List.tail_cons, List.filter_flatMap, List.map_flatMap]
    refine List.flatMap_congr fun k hk => ?_
    obtain ⟨d, hd⟩ := exists_subtree?_concat h (List.mem_range.1 hk)
    have hchild : d ∈ cs := List.mem_of_getElem? (subtree?_concat h k ▸ hd)
    rw [pathsFrom_eq_cons hd, List.filter_cons, isAt_eq hd, isAt_eq hd]
    by_cases hdefinition : d.info.isDefinition
    · obtain ⟨e, he⟩ := exists_isCopyAt source hd hdefinition
      rw [if_pos hdefinition, if_pos hdefinition, he.node, Option.toList_some,
        List.flatMap_singleton, withNested_eq, List.map_cons, List.map_cons, he.id_eq,
        he.nested_eq hplaced, ih d hchild hd]
    · rw [if_neg hdefinition, if_neg hdefinition]
      split
      · exact ih d hchild hd
      · next hcontainer =>
        rw [hplaced.filter_tail_eq_nil hd ⟨hcontainer, hdefinition⟩
          fun q f hf hpick => .inl ((isAt_eq hf _).symm.trans hpick)]
        rfl

/-- The forest of definitions lists every definition of the tree once and in order. -/
theorem map_id_allDefinitions (hplaced : c.StatementsPlaced) :
    (allDefinitions (lower source c)).map (·.id) =
      (c.paths.filter (c.isAt (·.isDefinition))).map c.place := by
  have hroot : ¬ c.isAt (·.isDefinition) [] := by
    rw [isAt_eq rfl]
    exact fun h => hplaced.not_root (.inl h)
  rw [filter_paths_eq_tail rfl (fun _ _ => List.nil_prefix) hroot]
  exact map_id_flatMap_withNested hplaced (p := []) rfl

/-- Every definition of the tree is in the forest. -/
theorem Definition.IsCopyAt.mem_allDefinitions (hplaced : c.StatementsPlaced) {s : ConcreteTree}
    {p : Path} {d : Definition} (h : IsCopyAt source c p s d) :
    d ∈ allDefinitions (lower source c) := by
  have hmem : c.place p ∈ (allDefinitions (lower source c)).map (·.id) := by
    rw [map_id_allDefinitions hplaced]
    have hpath : p ∈ c.paths := mem_paths.2 ⟨s, h.subtree⟩
    have hdefinition := (isAt_eq h.subtree (·.isDefinition)).trans h.isDefinition
    exact List.mem_map_of_mem (List.mem_filter.2 ⟨hpath, hdefinition⟩)
  obtain ⟨e, he, hid⟩ := List.mem_map.1 hmem
  obtain ⟨q, t, hcopy⟩ := exists_isCopyAt_of_mem_allDefinitions he
  obtain rfl := place_inj hcopy.subtree h.subtree (hcopy.id_eq.symm.trans hid)
  obtain rfl := Option.some.inj (hcopy.node.symm.trans h.node)
  exact he

/-- A `raise` statement is looked at once for its nearest definition, and for no other one. -/
theorem exists_unique_raises (source : String) (hplaced : c.StatementsPlaced)
    {r : ConcreteTree} {p q : Path} (hr : c.subtree? q = some r) (hraise : r.info.isRaise)
    (hp : c.enclosing? q = some p) :
    ∃ d ∈ allDefinitions (lower source c), d.id = c.place p ∧ d.raises.count (c.place q) = 1 ∧
      ∀ e ∈ allDefinitions (lower source c), c.place q ∈ e.raises → e = d := by
  have hmem : ∀ {p' s' e}, IsCopyAt source c p' s' e → (c.place q ∈ e.raises ↔ p' = p) := by
    intro p' s' e he
    rw [he.raises_eq hplaced, List.mem_map]
    constructor
    · rintro ⟨q', hq', hplace⟩
      obtain ⟨hpath, hbelongs⟩ := List.mem_filter.1 hq'
      obtain ⟨r', hr'⟩ := mem_paths.1 hpath
      obtain rfl := place_inj hr' hr hplace
      simp only [belongs, hp, Bool.and_eq_true, beq_iff_eq, Option.some.injEq] at hbelongs
      exact hbelongs.2.symm
    · rintro rfl
      refine ⟨q, List.mem_filter.2 ⟨mem_paths.2 ⟨r, hr⟩, ?_⟩, rfl⟩
      simp [belongs, hp, isAt_eq hr, hraise]
  obtain ⟨s, hs, hdefinition⟩ := (Option.any_eq_true _ _).1 (of_enclosing?_eq_some hp).1
  obtain ⟨d, hd⟩ := exists_isCopyAt source hs hdefinition
  refine ⟨d, hd.mem_allDefinitions hplaced, hd.id_eq, ?_, ?_⟩
  · have hnodup : d.raises.Nodup := hd.raises_eq hplaced ▸ nodup_map_place_filter c _
    exact List.count_eq_one_of_mem hnodup ((hmem hd).2 rfl)
  · intro e he hraises
    obtain ⟨p', s', hcopy⟩ := exists_isCopyAt_of_mem_allDefinitions he
    obtain rfl := (hmem hcopy).1 hraises
    exact Option.some.inj (hcopy.node.symm.trans hd.node)

end

/-- Scopes are complete.  Lowered from a tree whose statements stand where the grammar puts them,
the forest of definitions lists every function and class of the tree once and in order; at its top
are those that stand in no definition, and below each definition are those whose nearest definition
it is.  The `raise` statements looked at for a definition are those whose nearest definition it is,
so each one inside a definition is looked at once, for one definition only, and these statements are
all that the record of a definition is told of. -/
theorem scopes_are_complete (source : String) (c : ConcreteTree) (hplaced : c.StatementsPlaced) :
    let tree := lower source c
    (allDefinitions tree).map (·.id) = (c.paths.filter (c.isAt (·.isDefinition))).map c.place ∧
    (topLevelDefinitions tree).map (·.id) =
      (c.paths.filter (c.belongs (·.isDefinition) none)).map c.place ∧
    (∀ d ∈ allDefinitions tree, ∃ p s, IsCopyAt source c p s d ∧
      d.nested.map (·.id) =
        (c.paths.filter (c.belongs (·.isDefinition) (some p))).map c.place ∧
      d.raises = (c.paths.filter (c.belongs (·.isRaise) (some p))).map c.place) ∧
    (∀ q r p, c.subtree? q = some r → r.info.isRaise → c.enclosing? q = some p →
      ∃ d ∈ allDefinitions tree, d.id = c.place p ∧ d.raises.count (c.place q) = 1 ∧
        ∀ e ∈ allDefinitions tree, c.place q ∈ e.raises → e = d) ∧
    ∀ d : Definition, ∀ sig, d.signature = .ok sig →
      sig.raiseTypes = d.raises.filterMap (raisedType d.tree) := by
  intro tree
  refine ⟨map_id_allDefinitions hplaced, ?_, ?_, ?_, fun d sig => raiseTypes_of_signature⟩
  · rw [topLevelDefinitions, map_id_scopeDefinitions]
    exact scopeNodes_root source hplaced NamedKinds.scanned_definitions
  · intro d hd
    obtain ⟨p, s, hcopy⟩ := exists_isCopyAt_of_mem_allDefinitions hd
    exact ⟨p, s, hcopy, hcopy.map_id_nested hplaced, hcopy.raises_eq hplaced⟩
  · intro q r p hr hraise hp
    exact exists_unique_raises source hplaced hr hraise hp

/-- A file with a decorated function under an `if`, and in the function a class that is defined in
an `except` clause.  The function, the class and the file itself raise. -/
def raisingFile : ConcreteTree :=
  let raise := ConcreteTree.named "raise_statement" []
  let class_ := .named "class_definition" [.named "block" [raise] (some "body")]
  let try_ := .named "try_statement"
    [.named "block" [raise], .named "except_clause" [.named "block" [class_]]]
  let function := .named "function_definition" [.named "block" [try_] (some "body")]
  .named "module"
    [.named "if_statement" [.named "block" [.named "decorated_definition" [function]]], raise]

/-- In this file the function has its own `raise` statement and no other one. -/
theorem raisingFile_scopes : raisingFile.StatementsPlaced ∧
    (allDefinitions (lower "" raisingFile)).map (·.id) = [4, 11] ∧
    (topLevelDefinitions (lower "" raisingFile)).map (·.id) = [4] ∧
    ∃ d ∈ allDefinitions (lower "" raisingFile), d.id = 4 ∧ d.raises.count 8 = 1 ∧
      ∀ e ∈ allDefinitions (lower "" raisingFile), 8 ∈ e.raises → e = d := by
  have hplaced : raisingFile.StatementsPlaced := by decide +kernel
  obtain ⟨hall, htop, -, hraises, -⟩ := scopes_are_complete "" raisingFile hplaced
  refine ⟨hplaced, hall.trans (by decide +kernel), htop.trans (by decide +kernel), ?_⟩
  exact hraises [0, 0, 0, 0, 0, 0, 0, 0] (.named "raise_statement" []) [0, 0, 0, 0] rfl
    (by decide +kernel) (by decide +kernel)

end DocSignature
