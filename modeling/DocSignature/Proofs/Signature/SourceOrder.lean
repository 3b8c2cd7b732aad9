import DocSignature.Proofs.Signature.LookupOutcomes
import DocSignature.Proofs.Text.Verbatim

/-!
# Signatures are verbatim and in source order

Every string of a signature is read off one node of the function, so it is a stretch of the source
with the blank characters at its ends left out.  Where ranges nest and siblings stand one after the
other, what a scan finds in one branch of the tree ends before anything it finds in a later branch
begins, at any depth.  So the parameters and the raised exceptions of a signature come in the order
in which they stand in the source, each from an entry or a statement of its own.
-/

set_option autoImplicit false

namespace DocSignature

open Syntax Syntax.SyntaxTree

namespace Syntax.SyntaxTree

/-- A node ends before another one begins, or where it begins. -/
def Precedes (t : SyntaxTree) (a b : Nat) : Prop := (t.bytes a).stop ≤ (t.bytes b).start

instance (t : SyntaxTree) : DecidableRel t.Precedes :=
  fun a b => inferInstanceAs (Decidable ((t.bytes a).stop ≤ (t.bytes b).start))

/-- The byte ranges of a tree are ranges of its source that split no character, and they nest and
stand in order. -/
structure RangesInOrder (t : SyntaxTree) : Prop where
  start_le_stop : ∀ n < t.size, (t.bytes n).start ≤ (t.bytes n).stop
  start_valid : ∀ n < t.size, String.Pos.Raw.IsValid t.source ⟨(t.bytes n).start⟩
  stop_valid : ∀ n < t.size, String.Pos.Raw.IsValid t.source ⟨(t.bytes n).stop⟩
  within : ∀ n < t.size, ∀ c ∈ t.children n,
    (t.bytes n).start ≤ (t.bytes c).start ∧ (t.bytes c).stop ≤ (t.bytes n).stop
  ordered : ∀ n < t.size, (t.children n).IsChain t.Precedes

/-- A text is, verbatim, that of a node in the subtree of a given one. -/
def IsTextWithin (t : SyntaxTree) (n : Nat) (s : String) : Prop :=
  ∃ m ∈ t.descendants n, Text.IsVerbatim t.source (t.bytes m) s

/-- There are no bytes where there is no node. -/
theorem bytes_of_size_le {t : SyntaxTree} {n : Nat} (h : t.size ≤ n) : t.bytes n = ⟨0, 0⟩ := by
  unfold bytes
  rw [Array.getElem?_eq_none h]
  rfl

/-- A text from a subtree is a text from every subtree around it. -/
theorem IsTextWithin.mono {t : SyntaxTree} {a b : Nat} {s : String} (hb : b ∈ t.descendants a)
    (h : t.IsTextWithin b s) : t.IsTextWithin a s := by
  obtain ⟨m, hm, hverbatim⟩ := h
  exact ⟨m, mem_descendants_trans hb hm, hverbatim⟩

/-- A child stands in the subtree. -/
theorem mem_descendants_of_mem_children {t : SyntaxTree} {a c : Nat} (h : c ∈ t.children a) :
    c ∈ t.descendants a :=
  mem_descendants_iff_reaches.2 (.single h)

namespace RangesInOrder

variable {t : SyntaxTree} (h : t.RangesInOrder) {a b n : Nat}

include h

/-- The text of a node is cut out of the source. -/
theorem isVerbatim_text (n : Nat) : Text.IsVerbatim t.source (t.bytes n) (t.text n) := by
  by_cases hn : n < t.size
  · exact Text.isVerbatim_trim_extract (h.start_valid n hn) (h.stop_valid n hn)
      (h.start_le_stop n hn)
  · -- a place outside the tree has the empty range at the start of the source
    have hzero : String.Pos.Raw.IsValid t.source ⟨0⟩ := String.Pos.Raw.isValid_zero
    unfold text slice
    rw [bytes_of_size_le (Nat.le_of_not_lt hn)]
    exact Text.isVerbatim_trim_extract hzero hzero (Nat.le_refl 0)

/-- The text of a node in a subtree is a text from the subtree. -/
theorem isTextWithin (hn : n ∈ t.descendants a) : t.IsTextWithin a (t.text n) :=
  ⟨n, hn, h.isVerbatim_text n⟩

/-- The range of a node lies inside the ranges of all nodes above it. -/
theorem within_of_mem_descendants (hn : n ∈ t.descendants a) :
    (t.bytes a).start ≤ (t.bytes n).start ∧ (t.bytes n).stop ≤ (t.bytes a).stop := by
  rw [mem_descendants_iff_reaches] at hn
  induction hn with
  | refl => exact ⟨Nat.le_refl _, Nat.le_refl _⟩
  | @tail b c _ hstep ih =>
    have hlt := lt_of_mem_children hstep
    have hin := h.within b (by omega) c hstep
    omega

/-- Children stand in source order. -/
theorem pairwise_children (n : Nat) : (t.children n).Pairwise t.Precedes := by
  by_cases hn : n < t.size
  · -- neighbours are in order; for all others go through the ranges in between
    have htrans : Trans t.Precedes t.Precedes t.Precedes := by
      refine ⟨?_⟩
      intro a b c hab hbc
      have hb : (t.bytes b).start ≤ (t.bytes b).stop := by
        by_cases hb : b < t.size
        · exact h.start_le_stop b hb
        · rw [bytes_of_size_le (Nat.le_of_not_lt hb)]
      exact (hab.trans hb).trans hbc
    exact (h.ordered n hn).pairwise
  · have hnone : t.nodes[n]? = none := Array.getElem?_eq_none (Nat.le_of_not_lt hn)
    simp [children, hnone]

/-- What is below one of two nodes in order precedes what is below the other. -/
theorem precedes_of_mem_descendants {x y : Nat} (hab : t.Precedes a b)
    (hx : x ∈ t.descendants a) (hy : y ∈ t.descendants b) : t.Precedes x y :=
  ((h.within_of_mem_descendants hx).2.trans hab).trans (h.within_of_mem_descendants hy).1

end RangesInOrder

end Syntax.SyntaxTree

section

variable {t : SyntaxTree} {test : Kind → Bool} {scope n : Nat}

/-- What a scan finds in one branch is below the root of the branch. -/
theorem mem_descendants_of_mem_branch {c : Nat} (h : n ∈ if test (t.kind c) then [c]
    else if (t.kind c).isStatementContainer then scopeNodes t test c else []) :
    n ∈ t.descendants c := by
  induction c using induction_on_children t with
  | h c ih =>
    split at h
    · rw [List.mem_singleton.1 h]
      exact self_mem_descendants t c
    · split at h
      · rw [scopeNodes_eq, List.mem_flatMap] at h
        obtain ⟨d, hd, hn⟩ := h
        exact mem_descendants_trans (mem_descendants_of_mem_children hd) (ih d hd hn)
      · simp at h

/-- What a scan finds stands in the subtree of the scope. -/
theorem mem_descendants_of_mem_scopeNodes (h : n ∈ scopeNodes t test scope) :
    n ∈ t.descendants scope := by
  rw [scopeNodes_eq, List.mem_flatMap] at h
  obtain ⟨c, hc, hn⟩ := h
  exact mem_descendants_trans (mem_descendants_of_mem_children hc)
    (mem_descendants_of_mem_branch hn)

/-- A scan finds nodes in the order of their ranges, at whatever depth they stand. -/
theorem pairwise_scopeNodes (h : t.RangesInOrder) (test : Kind → Bool) (scope : Nat) :
    (scopeNodes t test scope).Pairwise t.Precedes := by
  induction scope using induction_on_children t with
  | h scope ih =>
    rw [scopeNodes_eq, List.pairwise_flatMap]
    constructor
    · intro c hc
      split
      · exact List.pairwise_singleton _ _
      · split
        · exact ih c hc
        · exact List.Pairwise.nil
    · -- two branches are in order like their roots
      apply (h.pairwise_children scope).imp
      intro c d hcd x hx y hy
      exact h.precedes_of_mem_descendants hcd (mem_descendants_of_mem_branch hx)
        (mem_descendants_of_mem_branch hy)

end

/-! ## The strings of a signature -/

/-- The strings of a parameter. -/
def Parameter.strings (p : Parameter) : List String :=
  p.name :: (p.typehint.toList ++ p.default.toList)

/-- The strings of a signature, apart from the name of the function. -/
def Signature.strings (sig : Signature) : List String :=
  sig.params.flatMap Parameter.strings ++ sig.returnTypehint.toList ++ sig.raiseTypes

section

variable {t : SyntaxTree} (h : t.RangesInOrder)

include h

/-- The text in a role comes from the subtree. -/
theorem isTextWithin_of_fieldText {n : Nat} {f : Field} {s : String}
    (hs : fieldText t n f = some s) :
    t.IsTextWithin n s := by
  obtain ⟨c, hc, rfl⟩ := Option.map_eq_some_iff.1 hs
  exact h.isTextWithin (mem_descendants_of_mem_children (List.mem_of_find?_eq_some hc))

/-- The name of a parameter is read off a node of its entry. -/
theorem isTextWithin_parameterName (p : Nat) : t.IsTextWithin p (parameterName t p) := by
  apply h.isTextWithin
  cases hnamed : (t.childByField p .name).filter fun n => t.kind n == .identifier with
  | some n =>
    obtain ⟨hname, -⟩ := Option.filter_eq_some_iff.1 hnamed
    exact mem_descendants_of_mem_children (List.mem_of_find?_eq_some hname)
  | none =>
    cases hinside : ((t.descendants p).drop 1).find? fun n => t.kind n == .identifier with
    | some n => exact List.mem_of_mem_drop (List.mem_of_find?_eq_some hinside)
    | none => exact self_mem_descendants t p

/-- The strings of a parameter come from the subtree of its entry. -/
theorem isTextWithin_of_mem_strings {p : Nat} {s : String} (hs : s ∈ (parameterOf t p).strings) :
    t.IsTextWithin p s := by
  simp only [Parameter.strings, parameterOf, List.mem_cons, List.mem_append,
    Option.mem_toList] at hs
  rcases hs with rfl | hs | hs
  · exact isTextWithin_parameterName h p
  · exact isTextWithin_of_fieldText h hs
  · exact isTextWithin_of_fieldText h hs

/-- The return annotation comes from the subtree of the function. -/
theorem isTextWithin_of_returnHint {n : Nat} {s : String} (hs : returnHint t n = some s) :
    t.IsTextWithin n s := by
  obtain ⟨m, hm, rfl⟩ := returnHint_eq_some_iff.1 hs
  obtain ⟨mid, ⟨pre, arrow, colon, post, hchildren, -⟩, hfilter⟩ := returnNodes_eq_some_iff.1 hm
  have hmid : m ∈ mid := List.mem_of_mem_filter (hfilter ▸ List.mem_singleton_self m)
  have hchild : m ∈ t.children n := by
    rw [hchildren]
    simp [hmid]
  exact h.isTextWithin (mem_descendants_of_mem_children hchild)

/-- The exception that a statement names comes from its subtree. -/
theorem isTextWithin_of_raisedType {r : Nat} {s : String} (hs : raisedType t r = some s) :
    t.IsTextWithin r s := by
  obtain ⟨raised, hraised, rfl⟩ := Option.map_eq_some_iff.1 hs
  have hchild : raised ∈ t.children r :=
    (List.dropWhile_sublist _).mem ((List.takeWhile_sublist _).mem
      (List.mem_of_find?_eq_some hraised))
  have hbelow := mem_descendants_of_mem_children hchild
  apply h.isTextWithin
  split
  · cases hfunction : t.childByField raised .function with
    | none => exact hbelow
    | some f =>
      have hf := mem_descendants_of_mem_children (List.mem_of_find?_eq_some hfunction)
      exact mem_descendants_trans hbelow hf
  · exact hbelow

/-- The entries of a parameter list, in order, and what each of them declares. -/
theorem forall₂_parametersOf (list : Nat) :
    List.Forall₂ (fun p entry => ∀ s ∈ entry.strings, t.IsTextWithin p s)
      ((t.children list).filter fun c => t.kind c == .parameter) (parametersOf t list) := by
  unfold parametersOf
  rw [List.forall₂_map_right_iff, List.forall₂_same]
  intro p _ s hs
  exact isTextWithin_of_mem_strings h hs

/-- The `raise` statements that name an exception, in order, and what each of them names. -/
theorem forall₂_filterMap_raisedType (rs : List Nat) :
    List.Forall₂ t.IsTextWithin (rs.filter fun r => (raisedType t r).isSome)
      (rs.filterMap (raisedType t)) := by
  induction rs with
  | nil => exact .nil
  | cons r rs ih =>
    cases hr : raisedType t r with
    | none => simpa [hr] using ih
    | some s =>
      simp only [List.filter_cons, List.filterMap_cons, hr, Option.isSome_some, if_true]
      exact .cons (isTextWithin_of_raisedType h hr) ih

end

namespace Definition

variable {d : Definition} {list : Nat}

/-- The `raise` statements of a definition stand in its subtree. -/
theorem mem_raises {r : Nat} (h : r ∈ d.raises) :
    r ∈ d.tree.descendants d.id ∧ d.tree.kind r = .raiseStatement := by
  unfold raises at h
  cases hbody : d.body with
  | none => simp [hbody] at h
  | some b =>
    have hmem : r ∈ scopeNodes d.tree NamedKinds.raises.test b := by
      rw [← scopeRaises_eq]
      simpa [hbody] using h
    have hchild := mem_descendants_of_mem_children (List.mem_of_find?_eq_some hbody)
    refine ⟨mem_descendants_trans hchild (mem_descendants_of_mem_scopeNodes hmem), ?_⟩
    exact beq_iff_eq.1 (test_of_mem_scopeNodes hmem)

/-- The `raise` statements of a definition stand in source order. -/
theorem pairwise_raises (h : d.tree.RangesInOrder) : d.raises.Pairwise d.tree.Precedes := by
  unfold raises
  cases d.body with
  | none => exact List.Pairwise.nil
  | some b =>
    simp only [Option.map_some, Option.getD_some, scopeRaises_eq]
    exact pairwise_scopeNodes h _ b

/-- The entries of a parameter list stand in the subtree of the definition. -/
theorem mem_descendants_of_parameterList {p : Nat} (h : d.parameterList = some list)
    (hp : p ∈ d.tree.children list) : p ∈ d.tree.descendants d.id :=
  mem_descendants_trans (mem_descendants_of_mem_children (List.mem_of_find?_eq_some h))
    (mem_descendants_of_mem_children hp)

end Definition

/-- Signatures are verbatim and in source order.  Take a definition with a parameter list in a tree
whose byte ranges split no character, nest, and stand in order among siblings.  It has a signature,
and every string of it, the name only if the definition has one, is the source text of a node in the
definition's subtree without the blank characters at its ends.  The entries of its parameter list,
in order, and those of its `raise` statements that name an exception, in order, stand in its subtree
each after the one before; there is one of them for each parameter and for each exception of the
signature, and the strings of these come from the subtree of that entry or statement. -/
theorem signature_is_verbatim_in_order (d : Definition) (hranges : d.tree.RangesInOrder)
    (hlist : ∃ c ∈ d.tree.children d.id, d.tree.kind c = .parameters) :
    ∃ sig list, d.signature = .ok sig ∧ d.parameterList = some list ∧
      let t := d.tree
      let entries := (t.children list).filter fun c => t.kind c == .parameter
      let statements := d.raises.filter fun r => (raisedType t r).isSome
      ((∃ n ∈ t.children d.id, t.field n = some .name) → t.IsTextWithin d.id sig.funcName) ∧
      (∀ s ∈ sig.strings, t.IsTextWithin d.id s) ∧
      (∀ p ∈ entries, p ∈ t.descendants d.id ∧ t.kind p = .parameter) ∧
      entries.Pairwise t.Precedes ∧
      List.Forall₂ (fun p param => ∀ s ∈ param.strings, t.IsTextWithin p s) entries sig.params ∧
      (∀ r ∈ statements, r ∈ t.descendants d.id ∧ t.kind r = .raiseStatement) ∧
      statements.Pairwise t.Precedes ∧
      List.Forall₂ t.IsTextWithin statements sig.raiseTypes := by
  obtain ⟨list, hfound⟩ : ∃ list, d.parameterList = some list := by
    cases hnone : d.parameterList with
    | none =>
      obtain ⟨c, hc, hkind⟩ := hlist
      exact absurd hkind (parameterList_eq_none_iff.1 hnone c hc)
    | some list => exact ⟨list, rfl⟩
  have hsig := Definition.signature_of_parameterList hfound
  have hraises : (d.body.map (raisedTypes d.tree)).getD [] =
      d.raises.filterMap (raisedType d.tree) :=
    Definition.raiseTypes_of_signature hsig
  rw [hraises] at hsig
  refine ⟨_, list, hsig, hfound, ?_, ?_, ?_, ?_, ?_, ?_, ?_, ?_⟩
  · rintro ⟨n, hn, hfield⟩
    have hsome : (d.tree.childByField d.id .name).isSome :=
      List.find?_isSome.2 ⟨n, hn, beq_iff_eq.2 hfield⟩
    obtain ⟨m, hm⟩ := Option.isSome_iff_exists.1 hsome
    have hname : fieldText d.tree d.id .name = some d.name := by
      simp [fieldText, Definition.name, hm]
    exact isTextWithin_of_fieldText hranges hname
  · intro s hs
    rcases List.mem_append.1 hs with hs | hs
    · rcases List.mem_append.1 hs with hs | hs
      · obtain ⟨param, hparam, hs⟩ := List.mem_flatMap.1 hs
        obtain ⟨p, hp, rfl⟩ := List.mem_map.1 hparam
        have hbelow := Definition.mem_descendants_of_parameterList hfound
          (List.mem_of_mem_filter hp)
        exact (isTextWithin_of_mem_strings hranges hs).mono hbelow
      · exact isTextWithin_of_returnHint hranges (Option.mem_toList.1 hs)
    · obtain ⟨r, hr, hs⟩ := List.mem_filterMap.1 hs
      exact (isTextWithin_of_raisedType hranges hs).mono (Definition.mem_raises hr).1
  · intro p hp
    obtain ⟨hchild, hkind⟩ := List.mem_filter.1 hp
    exact ⟨Definition.mem_descendants_of_parameterList hfound hchild, beq_iff_eq.1 hkind⟩
  · exact (hranges.pairwise_children list).filter _
  · exact forall₂_parametersOf hranges list
  · intro r hr
    exact Definition.mem_raises (List.mem_of_mem_filter hr)
  · exact (Definition.pairwise_raises hranges).filter _
  · exact forall₂_filterMap_raisedType hranges d.raises

/-- The text of a function with a name of two bytes and with blanks around its annotation. -/
def spacedText : String := "def é(x: int = 1, *ys) -> T :\n  if x:\n    raise A(x)\n  raise B\n"

/-- The tree of this text.  The node of the annotation reaches from `->` to `:`. -/
def spacedFile : ConcreteTree :=
  let typed := .named "typed_default_parameter"
    [.leaf "identifier" true 0 7 7 8 (some "name"), .leaf ":" false 0 8 8 9,
      .leaf "type" true 0 10 10 13 (some "type"), .leaf "=" false 0 14 14 15,
      .leaf "integer" true 0 16 16 17 (some "value")]
    none ⟨0, 7⟩ ⟨0, 17⟩ ⟨7, 17⟩
  let starred := .named "list_splat_pattern"
    [.leaf "*" false 0 19 19 20, .leaf "identifier" true 0 20 20 22] none ⟨0, 19⟩ ⟨0, 22⟩ ⟨19, 22⟩
  let list := .named "parameters"
    [.leaf "(" false 0 6 6 7, typed, .leaf "," false 0 17 17 18, starred,
      .leaf ")" false 0 22 22 23]
    (some "parameters") ⟨0, 6⟩ ⟨0, 23⟩ ⟨6, 23⟩
  let call := .named "call"
    [.leaf "identifier" true 2 10 49 50 (some "function"),
      .leaf "argument_list" true 2 11 50 53 (some "arguments")]
    none ⟨2, 10⟩ ⟨2, 14⟩ ⟨49, 53⟩
  let inner := .named "raise_statement" [.leaf "raise" false 2 4 43 48, call] none ⟨2, 4⟩ ⟨2, 14⟩
    ⟨43, 53⟩
  let outer := .named "raise_statement"
    [.leaf "raise" false 3 2 56 61, .leaf "identifier" true 3 8 62 63] none ⟨3, 2⟩ ⟨3, 9⟩ ⟨56, 63⟩
  let conditional := .named "if_statement"
    [.leaf "if" false 1 2 33 35, .leaf "identifier" true 1 5 36 37 (some "condition"),
      .leaf ":" false 1 6 37 38,
      .named "block" [inner] (some "consequence") ⟨2, 4⟩ ⟨2, 14⟩ ⟨43, 53⟩]
    none ⟨1, 2⟩ ⟨2, 14⟩ ⟨33, 53⟩
  let function := .named "function_definition"
    [.leaf "def" false 0 0 0 3, .leaf "identifier" true 0 4 4 6 (some "name"), list,
      .leaf "->" false 0 24 24 26, .leaf "type" true 0 26 26 29 (some "return_type"),
      .leaf ":" false 0 29 29 30,
      .named "block" [conditional, outer] (some "body") ⟨1, 2⟩ ⟨3, 9⟩ ⟨33, 63⟩]
    none ⟨0, 0⟩ ⟨3, 9⟩ ⟨0, 63⟩
  .named "module" [function] none ⟨0, 0⟩ ⟨4, 0⟩ ⟨0, 64⟩

/-- The signature of this function has its strings from the source, in order. -/
theorem spacedFile_verbatim :
    let d : Definition := ⟨lower spacedText spacedFile, 1, .function⟩
    (d.tree.RangesInOrder ∧ ∃ c ∈ d.tree.children d.id, d.tree.kind c = .parameters) ∧
    ∃ sig, d.signature = .ok sig ∧
      sig = { funcName := "é", params := [⟨"x", some "int", some "1"⟩, ⟨"ys", none, none⟩],
              returnTypehint := some "T", raiseTypes := ["A", "B"] } ∧
      d.tree.IsTextWithin d.id sig.funcName ∧ (∀ s ∈ sig.strings, d.tree.IsTextWithin d.id s) ∧
      List.Forall₂ d.tree.IsTextWithin [26, 31] sig.raiseTypes ∧ d.tree.Precedes 26 31 := by
  intro d
  have hranges : d.tree.RangesInOrder :=
    { start_le_stop := by decide +kernel
      start_valid := by decide +kernel
      stop_valid := by decide +kernel
      within := by decide +kernel
      ordered := by decide +kernel }
  have hlist : ∃ c ∈ d.tree.children d.id, d.tree.kind c = .parameters := by decide +kernel
  obtain ⟨sig, list, hsig, -, hname, hstrings, -, -, -, -, horder, htypes⟩ :=
    signature_is_verbatim_in_order d hranges hlist
  have hstatements : (d.raises.filter fun r => (raisedType d.tree r).isSome) = [26, 31] := by
    decide +kernel
  rw [hstatements] at horder htypes
  refine ⟨⟨hranges, hlist⟩, sig, hsig, ?_, hname (by decide +kernel), hstrings, htypes,
    List.rel_of_pairwise_cons horder (by simp)⟩
  apply Except.ok.inj
  rw [← hsig]
  decide +kernel

end DocSignature
