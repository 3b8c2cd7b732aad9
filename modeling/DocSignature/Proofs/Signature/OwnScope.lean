import DocSignature.Proofs.Signature.Correspondence
import DocSignature.Proofs.Signature.ScopeRegion

/-!
# A signature depends on the function's own scope only

Two functions, in any two trees, have the same signature (`extract_signature`) if their nodes
correspond up to the definitions nested in them.  What is below a nested definition may be anything,
and so may be all that is around the functions.  Since the text of a node has the texts of all nodes
in it, the texts of nodes with a nested definition in them need not be the same either:
`Definition.MayDiffer` says which these are.  Every search for a part of the signature is shown to
keep away from such nodes; for those in the body this is what `InRegion` says of nested definitions.
-/

set_option autoImplicit false

namespace DocSignature

open Syntax Syntax.SyntaxTree

namespace Definition

/-- A node is a definition nested in a given one or has such a definition below it. -/
def HoldsInner (d : Definition) (n : Nat) : Prop :=
  ∃ e ∈ d.nested, e.id ∈ d.tree.descendants n

/-- A node may have any text as far as the signature of a definition goes: a nested definition
stands in it, and it is neither punctuation nor part of the return annotation. -/
def MayDiffer (d : Definition) (n : Nat) : Prop :=
  d.HoldsInner n ∧ d.tree.kind n ≠ .operator ∧ ∀ nodes ∈ returnNodes d.tree d.id, n ∉ nodes

instance (d : Definition) (n : Nat) : Decidable (d.HoldsInner n) :=
  inferInstanceAs (Decidable (∃ e ∈ d.nested, e.id ∈ d.tree.descendants n))

instance (d : Definition) (n : Nat) : Decidable (d.MayDiffer n) :=
  inferInstanceAs (Decidable (_ ∧ _ ∧ ∀ nodes ∈ returnNodes d.tree d.id, n ∉ nodes))

/-- The nodes of two definitions correspond, except below the definitions nested in the first. -/
structure SameScope (d d' : Definition) (R : Nat → Nat → Prop) : Prop where
  self : R d.id d'.id
  kind : ∀ n n', R n n' → d.tree.kind n = d'.tree.kind n'
  field : ∀ n n', R n n' → d.tree.field n = d'.tree.field n'
  text : ∀ n n', R n n' → d.tree.text n = d'.tree.text n' ∨ d.MayDiffer n
  children : ∀ n n', R n n' → n ∉ d.nested.map (·.id) →
    List.Forall₂ R (d.tree.children n) (d'.tree.children n')

/-! ## Where nested definitions stand -/

section

variable {d e : Definition} {b c n : Nat}

/-- The nested definitions are those of the body. -/
theorem nested_of_body (hbody : d.body = some b) : d.nested = scopeDefinitions d.tree b := by
  unfold nested
  rw [hbody]

/-- Nested definitions stand at nodes that are definitions. -/
theorem isDefinition_of_mem_nested (h : n ∈ d.nested.map (·.id)) :
    (d.tree.kind n).isDefinition := by
  cases hbody : d.body with
  | none => simp [nested, hbody] at h
  | some b =>
    rw [nested_of_body hbody, map_id_scopeDefinitions] at h
    exact test_of_mem_scopeNodes h

/-- What is below a node that holds no nested definition holds none. -/
theorem not_holdsInner_of_mem_children (h : ¬ d.HoldsInner n) (hc : c ∈ d.tree.children n) :
    ¬ d.HoldsInner c := by
  rintro ⟨e, he, hmem⟩
  exact h ⟨e, he, mem_descendants.2 (.inr (mem_tail_descendants.2 ⟨c, hc, hmem⟩))⟩

section

variable (hparent : d.tree.HasOneParent)

include hparent

/-- Nested definitions stand below the body. -/
theorem not_holdsInner_of_ne_body (hc : c ∈ d.tree.children d.id) (hbody : d.body ≠ some c) :
    ¬ d.HoldsInner c := by
  rintro ⟨e, he, hmem⟩
  cases hb : d.body with
  | none => simp [nested, hb] at he
  | some b =>
    have hid : e.id ∈ (scopeDefinitions d.tree b).map (·.id) :=
      List.mem_map_of_mem (nested_of_body hb ▸ he)
    rw [map_id_scopeDefinitions_eq_filter hparent] at hid
    have hbelow := mem_descendants.2 (.inr (List.mem_filter.1 hid).1)
    have hbchild := List.mem_of_find?_eq_some hb
    rw [hb, hparent.eq_of_mem_descendants hc hbchild hmem hbelow] at hbody
    exact hbody rfl

/-- In the body they stand in statement containers only. -/
theorem not_holdsInner_of_mem_body (hbody : d.body = some b)
    (hn : n ∈ (d.tree.descendants b).tail) (hcontainer : ¬ (d.tree.kind n).isStatementContainer)
    (hdefinition : ¬ (d.tree.kind n).isDefinition) : ¬ d.HoldsInner n := by
  rintro ⟨e, he, hmem⟩
  have hid : e.id ∈ d.nested.map (·.id) := List.mem_map_of_mem he
  obtain rfl | hbelow := mem_descendants.1 hmem
  · exact hdefinition (isDefinition_of_mem_nested hid)
  · rw [nested_of_body hbody, map_id_scopeDefinitions_eq_filter hparent] at hid
    have hregion : InRegion d.tree b e.id := (of_decide_eq_true (List.mem_filter.1 hid).2).2
    exact hcontainer ((Kind.isStatementContainer_iff_mem _).2 (hregion n hn hbelow))

/-- There is none in an entry of the parameter list. -/
theorem not_holdsInner_parameter {list p : Nat} (hlist : d.parameterList = some list)
    (hp : p ∈ d.tree.children list) (hkind : d.tree.kind p = .parameter) : ¬ d.HoldsInner p := by
  have hchild := List.mem_of_find?_eq_some hlist
  by_cases hbody : d.body = some list
  · have hbelow : p ∈ (d.tree.descendants list).tail :=
      mem_tail_descendants.2 ⟨p, hp, self_mem_descendants d.tree p⟩
    exact not_holdsInner_of_mem_body hparent hbody hbelow
      (by simp [hkind, Kind.isStatementContainer]) (by simp [hkind, Kind.isDefinition])
  · exact not_holdsInner_of_mem_children (not_holdsInner_of_ne_body hparent hchild hbody) hp

/-- There is none in a `raise` statement of the body. -/
theorem not_holdsInner_raise {r : Nat} (hbody : d.body = some b) (hr : r ∈ scopeRaises d.tree b) :
    ¬ d.HoldsInner r := by
  rw [scopeRaises_eq_filter hparent, List.mem_filter] at hr
  have hkind : d.tree.kind r = .raiseStatement := (of_decide_eq_true hr.2).1
  exact not_holdsInner_of_mem_body hparent hbody hr.1 (by simp [hkind, Kind.isStatementContainer])
    (by simp [hkind, Kind.isDefinition])

end

end

/-! ## What is read off two definitions with the same scope -/

namespace SameScope

variable {d d' : Definition} {R : Nat → Nat → Prop} (h : SameScope d d' R)

include h

/-- Where no nested definition is in sight, all corresponds. -/
theorem toMatches : d.tree.Matches d'.tree fun n n' => ¬ d.HoldsInner n ∧ R n n' where
  kind hn := h.kind _ _ hn.2
  field hn := h.field _ _ hn.2
  text := by
    intro n n' hn
    rcases h.text n n' hn.2 with htext | hdiffer
    · exact htext
    · exact absurd hdiffer.1 hn.1
  children := by
    intro n n' hn
    rw [List.forall₂_and_left]
    refine ⟨fun c hc => not_holdsInner_of_mem_children hn.1 hc, h.children n n' hn.2 ?_⟩
    intro hmem
    obtain ⟨e, he, rfl⟩ := List.mem_map.1 hmem
    exact hn.1 ⟨e, he, self_mem_descendants d.tree e.id⟩

/-- The children of corresponding nodes correspond, except below definitions. -/
theorem children_of_not_isDefinition {n n' : Nat} (hn : R n n')
    (hdefinition : ¬ (d.tree.kind n).isDefinition) :
    List.Forall₂ R (d.tree.children n) (d'.tree.children n') :=
  h.children n n' hn fun hmem => hdefinition (isDefinition_of_mem_nested hmem)

/-- The children of the definitions themselves correspond. -/
theorem children_self : List.Forall₂ R (d.tree.children d.id) (d'.tree.children d'.id) := by
  refine h.children d.id d'.id h.self ?_
  intro hmem
  obtain ⟨e, he, hid⟩ := List.mem_map.1 hmem
  have hlt := (mem_nested he).2.1
  omega

/-- The children of the two definitions in a role correspond. -/
theorem rel_childByField (f : Field) :
    Option.Rel R (d.tree.childByField d.id f) (d'.tree.childByField d'.id f) :=
  SyntaxTree.rel_childByField h.children_self h.field f

/-- The parameter lists of the two definitions correspond. -/
theorem rel_parameterList : Option.Rel R d.parameterList d'.parameterList :=
  rel_find? h.children_self fun c c' hc => by rw [h.kind c c' hc]

/-- The two definitions have the same return annotation. -/
theorem returnHint_eq : returnHint d.tree d.id = returnHint d'.tree d'.id := by
  have htoken : ∀ c c', R c c' → d.tree.kind c = .operator → d.tree.text c = d'.tree.text c' := by
    intro c c' hc hoperator
    rcases h.text c c' hc with htext | hdiffer
    · exact htext
    · exact absurd hoperator hdiffer.2.1
  have hrel := rel_returnNodes (List.nil_append _).symm (List.nil_append _).symm (by simp) (by simp)
    h.children_self h.kind htoken
  refine returnHint_eq_of_rel hrel ?_
  intro nodes hnodes c hmem c' hc
  rcases h.text c c' hc with htext | hdiffer
  · exact htext
  · exact absurd hmem (hdiffer.2.2 nodes hnodes)

variable (hparent : d.tree.HasOneParent)

include hparent

/-- The two definitions have the same name. -/
theorem name_eq : d.name = d'.name := by
  refine congrArg (·.getD "") (map_eq_map_of_rel (h.rel_childByField .name) ?_)
  intro n hn n' hnn'
  have hchild := List.mem_of_find?_eq_some hn
  have hbody : d.body ≠ some n := by
    intro hbody
    have hname := List.find?_some hn
    have hrole := List.find?_some hbody
    simp only [beq_iff_eq] at hname hrole
    rw [hname] at hrole
    cases hrole
  exact h.toMatches.text ⟨not_holdsInner_of_ne_body hparent hchild hbody, hnn'⟩

/-- Corresponding parameter lists declare the same parameters. -/
theorem parametersOf_eq {list list' : Nat} (hlist : d.parameterList = some list)
    (hll' : R list list') : parametersOf d.tree list = parametersOf d'.tree list' := by
  have hkind : d.tree.kind list = .parameters := by simpa using List.find?_some hlist
  have hchildren := h.children_of_not_isDefinition hll' (by simp [hkind, Kind.isDefinition])
  have hentries := List.rel_filter (p := (d.tree.kind · == .parameter))
    (q := (d'.tree.kind · == .parameter)) (fun c c' hc => by simp [h.kind c c' hc]) hchildren
  have hclear : ∀ p ∈ (d.tree.children list).filter (d.tree.kind · == .parameter),
      ¬ d.HoldsInner p := by
    intro p hp
    obtain ⟨hmem, hp⟩ := List.mem_filter.1 hp
    exact not_holdsInner_parameter hparent hlist hmem (beq_iff_eq.1 hp)
  obtain ⟨l, hl, hl'⟩ := exists_pairs_of_forall₂ ((List.forall₂_and_left _ _).2 ⟨hclear, hentries⟩)
  unfold parametersOf
  rw [hl, hl', List.map_map, List.map_map]
  exact List.map_congr_left fun x _ => h.toMatches.parameterOf_eq x.2

/-- Corresponding bodies raise the same exceptions. -/
theorem raisedTypes_eq {b b' : Nat} (hbody : d.body = some b) (hbb' : R b b') :
    raisedTypes d.tree b = raisedTypes d'.tree b' := by
  have hself : b ∉ d.nested.map (·.id) := by
    intro hmem
    obtain ⟨e, he, hid⟩ := List.mem_map.1 hmem
    have hlt := (mem_scopeDefinitions (nested_of_body hbody ▸ he)).2.1
    omega
  have hcontainer : ∀ n n', R n n' → (d.tree.kind n).isStatementContainer →
      List.Forall₂ R (d.tree.children n) (d'.tree.children n') := by
    intro n n' hn hcontainer
    refine h.children_of_not_isDefinition hn ?_
    cases hkind : d.tree.kind n <;> simp_all [Kind.isStatementContainer, Kind.isDefinition]
  have hraises : List.Forall₂ R (scopeRaises d.tree b) (scopeRaises d'.tree b') := by
    rw [scopeRaises_eq, scopeRaises_eq]
    exact forall₂_scopeNodes h.kind hcontainer (h.children b b' hbb' hself)
  obtain ⟨l, hl, hl'⟩ := exists_pairs_of_forall₂ ((List.forall₂_and_left _ _).2
    ⟨fun r hr => not_holdsInner_raise hparent hbody hr, hraises⟩)
  unfold raisedTypes
  rw [hl, hl', List.filterMap_map, List.filterMap_map]
  exact List.filterMap_congr fun x _ => h.toMatches.raisedType_eq x.2

/-- The two definitions raise the same exceptions. -/
theorem raiseTypes_eq : (d.body.map (raisedTypes d.tree)).getD [] =
    (d'.body.map (raisedTypes d'.tree)).getD [] := by
  have hmap : d.body.map (raisedTypes d.tree) = d'.body.map (raisedTypes d'.tree) :=
    map_eq_map_of_rel (h.rel_childByField .body) fun b hbody b' hbb' =>
      h.raisedTypes_eq hparent hbody hbb'
  rw [hmap]

end SameScope

end Definition

/-- A signature depends on the function's own scope only.  Take two functions in any two trees whose
nodes correspond in kind, role, text and children, except below the definitions nested in the first
of them, and except for the texts of nodes that such a definition stands in.  Then both have
signatures, and records of these describe the same signature, or both lack a parameter list, and the
errors have the same name.  Nothing is asked of the trees around the functions. -/
theorem signature_depends_on_own_scope (d d' : Definition) (R : Nat → Nat → Prop)
    (hparent : d.tree.HasOneParent) (h : d.SameScope d' R) :
    (∃ sig sig', d.signature = .ok sig ∧ d'.signature = .ok sig' ∧
      ∀ id id', SignatureRecord.sameSignature ⟨sig, id⟩ ⟨sig', id'⟩) ∨
    ∃ name line line', d.signature = .error (.missingParameters name line) ∧
      d'.signature = .error (.missingParameters name line') := by
  have hname := h.name_eq hparent
  have hrel := h.rel_parameterList
  unfold Definition.signature
  cases hlist : d.parameterList with
  | none =>
    right
    rw [hlist] at hrel
    generalize d'.parameterList = list' at hrel
    cases hrel
    exact ⟨d.name, d.span.start, d'.span.start, rfl, by rw [hname]⟩
  | some list =>
    left
    rw [hlist] at hrel
    generalize hlist' : d'.parameterList = found at hrel
    cases hrel with
    | @some _ list' hll' =>
      refine ⟨_, _, rfl, rfl, ?_⟩
      intro id id'
      rw [SignatureRecord.sameSignature, beq_iff_eq, hname, h.parametersOf_eq hparent hlist hll',
        h.returnHint_eq, h.raiseTypes_eq hparent]

/-- The text of a function that defines another one and raises. -/
def originalText : String := "def f(a):\n  def g():\n    raise X\n  raise E\n"

/-- The same function after another statement, with all that is in the inner one replaced. -/
def rewrittenText : String := "z\ndef f(a):\n  def h(b, c):\n    pass\n  raise E\n"

/-- A function `f(a)` with a given statement and a `raise` in its body. -/
def functionAround (inner : ConcreteTree) (row start bodyRow bodyStart : Nat) : ConcreteTree :=
  let raise := .named "raise_statement"
    [.node { name := "raise", named := false, start := ⟨bodyRow, 2⟩, stop := ⟨bodyRow, 7⟩,
             bytes := ⟨bodyStart, bodyStart + 5⟩ } [],
      .named "identifier" [] none ⟨bodyRow, 8⟩ ⟨bodyRow, 9⟩ ⟨bodyStart + 6, bodyStart + 7⟩]
    none ⟨bodyRow, 2⟩ ⟨bodyRow, 9⟩ ⟨bodyStart, bodyStart + 7⟩
  .named "function_definition"
    [.named "identifier" [] (some "name") ⟨row, 4⟩ ⟨row, 5⟩ ⟨start + 4, start + 5⟩,
      .named "parameters"
        [.named "identifier" [] none ⟨row, 6⟩ ⟨row, 7⟩ ⟨start + 6, start + 7⟩]
        none ⟨row, 5⟩ ⟨row, 8⟩ ⟨start + 5, start + 8⟩,
      .named "block" [inner, raise] (some "body") ⟨row + 1, 2⟩ ⟨bodyRow, 9⟩
        ⟨start + 12, bodyStart + 7⟩]
    none ⟨row, 0⟩ ⟨bodyRow, 9⟩ ⟨start, bodyStart + 7⟩

/-- The tree of the first text, as far as it matters here. -/
def originalFile : ConcreteTree :=
  let raise := .named "raise_statement"
    [.named "identifier" [] none ⟨2, 10⟩ ⟨2, 11⟩ ⟨31, 32⟩] none ⟨2, 4⟩ ⟨2, 11⟩ ⟨25, 32⟩
  let inner := .named "function_definition"
    [.named "identifier" [] (some "name") ⟨1, 6⟩ ⟨1, 7⟩ ⟨16, 17⟩,
      .named "block" [raise] (some "body") ⟨2, 4⟩ ⟨2, 11⟩ ⟨25, 32⟩]
    none ⟨1, 2⟩ ⟨2, 11⟩ ⟨12, 32⟩
  .named "module" [functionAround inner 0 0 3 35] none ⟨0, 0⟩ ⟨4, 0⟩ ⟨0, 43⟩

/-- The tree of the second text, as far as it matters here. -/
def rewrittenFile : ConcreteTree :=
  let inner := .named "function_definition"
    [.named "identifier" [] (some "name") ⟨2, 6⟩ ⟨2, 7⟩ ⟨18, 19⟩]
    none ⟨2, 2⟩ ⟨3, 8⟩ ⟨14, 35⟩
  .named "module"
    [.named "expression_statement" [] none ⟨0, 0⟩ ⟨0, 1⟩ ⟨0, 1⟩, functionAround inner 1 2 4 38]
    none ⟨0, 0⟩ ⟨5, 0⟩ ⟨0, 46⟩

/-- The nodes of the two functions that correspond. -/
def rewrittenNodes : List (Nat × Nat) :=
  [(1, 2), (2, 3), (3, 4), (4, 5), (5, 6), (6, 7), (11, 9), (12, 10), (13, 11)]

/-- These two functions have the same scope, though the functions in them are not the same, and so
they have the same signature. -/
theorem rewrittenFile_same_signature :
    let d : Definition := ⟨lower originalText originalFile, 1, .function⟩
    let d' : Definition := ⟨lower rewrittenText rewrittenFile, 2, .function⟩
    (d.tree.HasOneParent ∧ d.SameScope d' fun n n' => (n, n') ∈ rewrittenNodes) ∧
    (d.nested.map (·.name) = ["g"] ∧ d'.nested.map (·.name) = ["h"]) ∧
    ((∃ sig sig', d.signature = .ok sig ∧ d'.signature = .ok sig' ∧
        ∀ id id', SignatureRecord.sameSignature ⟨sig, id⟩ ⟨sig', id'⟩) ∨
      ∃ name line line', d.signature = .error (.missingParameters name line) ∧
        d'.signature = .error (.missingParameters name line')) := by
  intro d d'
  have hparent : d.tree.HasOneParent := hasOneParent_lower originalText originalFile
  -- Long texts need not be compared where they may differ.
  have hnodes : ∀ x ∈ rewrittenNodes, d.tree.kind x.1 = d'.tree.kind x.2 ∧
      d.tree.field x.1 = d'.tree.field x.2 ∧
      (d.MayDiffer x.1 ∨ d.tree.text x.1 = d'.tree.text x.2) ∧
      (x.1 ∉ d.nested.map (·.id) → List.Forall₂ (fun n n' => (n, n') ∈ rewrittenNodes)
        (d.tree.children x.1) (d'.tree.children x.2)) := by
    decide +kernel
  have hscope : d.SameScope d' fun n n' => (n, n') ∈ rewrittenNodes :=
    { self := by decide
      kind := fun n n' hn => (hnodes (n, n') hn).1
      field := fun n n' hn => (hnodes (n, n') hn).2.1
      text := fun n n' hn => (hnodes (n, n') hn).2.2.1.symm
      children := fun n n' hn => (hnodes (n, n') hn).2.2.2 }
  exact ⟨⟨hparent, hscope⟩, by decide +kernel, signature_depends_on_own_scope d d' _ hparent hscope⟩

end DocSignature
