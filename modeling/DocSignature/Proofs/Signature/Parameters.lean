import DocSignature.Proofs.Syntax.Descendants
import DocSignature.Proofs.Syntax.ParameterLists
import DocSignature.Signature.Extraction

/-!
# Parameter lists are read exactly

A parameter has its name (`parameter_name`) from one of three places: the child in the role of a
name, the first identifier below the entry, or the entry itself.  For every entry that the grammar
writes, the rule that applies finds the declared identifier, and annotation and default are found by
their roles.  The trees inside an annotation or a default play no part: all that is looked at comes
before them or is found by a role.
-/

set_option autoImplicit false

namespace DocSignature

open Syntax Syntax.ConcreteTree

namespace Syntax.SyntaxTree

/-! ## Reading held trees -/

section

variable {α β : Type} {R : α → β → Prop} {xs : List α} {ys : List β} {p : α → Bool} {q : β → Bool}

/-- Of two lists with related members the first members that pass related tests are related. -/
theorem exists_find?_of_forall₂ (h : List.Forall₂ R xs ys) (hpq : ∀ x y, R x y → p x = q y) {y : β}
    (hy : ys.find? q = some y) : ∃ x, xs.find? p = some x ∧ R x y := by
  induction h with
  | nil => simp at hy
  | @cons a b xs ys hab _ ih =>
    rw [List.find?_cons, ← hpq a b hab] at hy
    rw [List.find?_cons]
    cases hp : p a with
    | true =>
      rw [hp] at hy
      exact ⟨a, rfl, Option.some.inj hy ▸ hab⟩
    | false =>
      rw [hp] at hy
      exact ih hy

/-- If no member of one list passes, none of the other does. -/
theorem find?_eq_none_of_forall₂ (h : List.Forall₂ R xs ys) (hpq : ∀ x y, R x y → p x = q y)
    (hy : ys.find? q = none) : xs.find? p = none := by
  induction h with
  | nil => rfl
  | @cons a b xs ys hab _ ih =>
    rw [List.find?_cons, ← hpq a b hab] at hy
    rw [List.find?_cons]
    cases hp : p a with
    | true => simp [hp] at hy
    | false =>
      rw [hp] at hy
      exact ih hy

end

section

variable {t : SyntaxTree} {place : Nat} {parent : Option Kind} {c : ConcreteTree}

/-- The text of a held tree's root. -/
theorem Holds.text (h : t.Holds place parent c) : t.text place = c.text t.source := by
  rw [SyntaxTree.text, slice, h.bytes, ConcreteTree.text]

/-- A held tree's root fills the role that it fills in the concrete tree. -/
theorem Holds.field_eq_some (h : t.Holds place parent c) (f : Field) :
    (t.field place == some f) = c.info.fills f := by
  rw [h.field, Bool.eq_iff_iff, beq_iff_eq, ConcreteNode.bind_ofName?_eq_some_iff]

/-- What fills a role below a held tree is held. -/
theorem Holds.exists_childByField (h : t.Holds place parent c) {f : Field} {d : ConcreteTree}
    (hsome : c.children.find? (·.info.fills f) = some d) :
    ∃ j, t.childByField place f = some j ∧ t.Holds j (some (t.kind place)) d :=
  exists_find?_of_forall₂ h.children (fun _ _ hd => hd.field_eq_some f) hsome

/-- A role that nothing fills is not filled below a held tree. -/
theorem Holds.childByField_eq_none (h : t.Holds place parent c) {f : Field}
    (hnone : c.children.find? (·.info.fills f) = none) : t.childByField place f = none :=
  find?_eq_none_of_forall₂ h.children (fun _ _ hd => hd.field_eq_some f) hnone

/-- The text that fills a role is that of the tree that fills it. -/
theorem Holds.fieldText (h : t.Holds place parent c) (f : Field) :
    fieldText t place f = (c.children.find? (·.info.fills f)).map (ConcreteTree.text t.source) := by
  rw [DocSignature.fieldText]
  cases hfind : c.children.find? (·.info.fills f) with
  | none => rw [h.childByField_eq_none hfind, Option.map_none, Option.map_none]
  | some d =>
    obtain ⟨j, hj, hd⟩ := h.exists_childByField hfind
    rw [hj, Option.map_some, Option.map_some, hd.text]

/-- A held tree without children is the only node below it. -/
theorem Holds.descendants_of_leaf (h : t.Holds place parent c) (hc : c.children = []) :
    t.descendants place = [place] := by
  have hchildren := h.children
  rw [hc, List.forall₂_nil_right_iff] at hchildren
  rw [descendants_eq, hchildren, List.flatMap_nil]

/-! ## The first identifier -/

/-- The first identifier among a node and all below it. -/
def firstIdentifier? (t : SyntaxTree) (id : Nat) : Option Nat :=
  (t.descendants id).find? fun n => t.kind n == .identifier

/-- The first identifier below siblings that begin with extras and tokens is that of the first other
sibling, if it has one. -/
theorem exists_find?_flatMap {k : Kind} {js : List Nat} {l₁ l₂ : List ConcreteTree}
    {n : ConcreteTree} {texts : List String}
    (h : List.Forall₂ (fun j d => t.Holds j (some k) d) js (l₁ ++ n :: l₂))
    (hbefore : ∀ e ∈ l₁, e.isExtra ∨ e.isToken texts) :
    ∃ i, t.Holds i (some k) n ∧ ∀ m, t.firstIdentifier? i = some m →
      (js.flatMap t.descendants).find? (fun n => t.kind n == .identifier) = some m := by
  induction l₁ generalizing js with
  | nil =>
    cases h with
    | @cons i _ _ _ hi hrest =>
      refine ⟨i, hi, fun m hm => ?_⟩
      rw [List.flatMap_cons, List.find?_append, ← firstIdentifier?, hm, Option.some_or]
  | cons e l₁ ih =>
    cases h with
    | @cons j _ _ _ hj hrest =>
      obtain ⟨hleaf, hkind⟩ := of_isExtra_or_isToken (hbefore e List.mem_cons_self) (some k)
      have hnone : (t.descendants j).find? (fun n => t.kind n == .identifier) = none := by
        rw [hj.descendants_of_leaf hleaf]
        simp only [List.mem_cons, not_or] at hkind
        simp [hj.kind, hkind.2.1]
      obtain ⟨i, hi, hfirst⟩ := ih hrest fun d hd => hbefore d (List.mem_cons_of_mem e hd)
      refine ⟨i, hi, fun m hm => ?_⟩
      rw [List.flatMap_cons, List.find?_append, hnone, Option.none_or, hfirst m hm]

/-- What stands for a name has it as its first identifier. -/
theorem Holds.firstIdentifier? {k : Kind} {i : Nat} {name n : ConcreteTree}
    (h : t.Holds i (some k) n) (hk : k ≠ .parameters) (hnames : Names name n) :
    ∃ m parent, t.firstIdentifier? i = some m ∧ t.Holds m parent name := by
  have hparent : some k ≠ some Kind.parameters := fun heq => hk (Option.some.inj heq)
  cases hnames with
  | identifier hname =>
    refine ⟨i, some k, ?_, h⟩
    rw [SyntaxTree.firstIdentifier?, descendants_eq]
    exact List.find?_cons_of_pos (by rw [h.kind, classify_of_isIdentifier hname hparent]; rfl)
  | starred hn _ hparts hstar hname =>
    -- the pattern itself is an expression, and below it only a star comes before the identifier
    have hkind : t.kind i = .expression := by
      rw [h.kind]
      exact ConcreteNode.forall_classify_outside (P := (· = .expression)) hn hparent (by decide)
    obtain ⟨l₁, l₂, hchildren, hbefore⟩ := exists_append_of_starred hparts hstar
    have hheld := h.children
    rw [hchildren] at hheld
    obtain ⟨m, hm, hfirst⟩ := exists_find?_flatMap hheld hbefore
    have hself : t.firstIdentifier? m = some m := by
      rw [SyntaxTree.firstIdentifier?, descendants_eq]
      refine List.find?_cons_of_pos ?_
      rw [hm.kind, classify_of_isIdentifier hname (by simp [hkind])]
      rfl
    refine ⟨m, _, ?_, hm⟩
    rw [SyntaxTree.firstIdentifier?, descendants_eq, List.find?_cons_of_neg (by simp [hkind])]
    exact hfirst m hself

end

end Syntax.SyntaxTree

open Syntax.SyntaxTree

/-! ## Entries -/

section

variable {t : SyntaxTree} {j : Nat} {c : ConcreteTree}

/-- A declared parameter as a record tells it. -/
def Syntax.ConcreteTree.Declared.read (source : String) (d : Declared) : Parameter where
  name := d.name.text source
  typehint := d.type.map (ConcreteTree.text source)
  default := d.value.map (ConcreteTree.text source)

/-- The name that is read off an entry is the declared one. -/
theorem parameterName_eq {d : Declared} (h : t.Holds j (some .parameters) c)
    (hd : Declares c (some d)) : parameterName t j = d.name.text t.source := by
  have hkind : t.kind j = .parameter := by
    rw [h.kind]
    exact beq_iff_eq.1 hd.classify
  unfold parameterName
  rcases hd.naming with hname | ⟨hnone, hname | ⟨l₁, named, l₂, hchildren, hnames, hbefore⟩⟩
  · obtain ⟨i, hi, hheld⟩ := h.exists_childByField hname
    have hidentifier : t.kind i = .identifier := by
      rw [hheld.kind, classify_of_isIdentifier hd.isIdentifier_name (by simp [hkind])]
    simp [hi, Option.filter, hidentifier, hheld.text]
  · subst hname
    have hleaf := h.descendants_of_leaf (children_of_isIdentifier hd.isIdentifier_name)
    simp [h.childByField_eq_none hnone, hleaf, h.text]
  · have hheld := h.children
    rw [hchildren] at hheld
    obtain ⟨i, hi, hfirst⟩ := exists_find?_flatMap hheld hbefore
    obtain ⟨m, parent, hm, hmheld⟩ := hi.firstIdentifier? (by simp [hkind]) hnames
    simp [h.childByField_eq_none hnone, descendants_eq t j, hfirst m hm, hmheld.text]

/-- An entry is read as it is declared. -/
theorem parameterOf_eq {d : Declared} (h : t.Holds j (some .parameters) c)
    (hd : Declares c (some d)) : parameterOf t j = d.read t.source := by
  obtain ⟨htype, hvalue⟩ := hd.find?_fills
  rw [parameterOf, parameterName_eq h hd, h.fieldText, h.fieldText, htype, hvalue, Declared.read]

/-- The entries of a parameter list are read one by one; what declares nothing is passed over. -/
theorem map_parameterOf_filter {js : List Nat} {cs : List ConcreteTree}
    {ds : List (Option Declared)}
    (h : List.Forall₂ (fun j c => t.Holds j (some .parameters) c) js cs)
    (hds : List.Forall₂ Declares cs ds) :
    (js.filter fun j => t.kind j == .parameter).map (parameterOf t) =
      (ds.filterMap id).map (Declared.read t.source) := by
  induction h generalizing ds with
  | nil =>
    cases hds
    rfl
  | @cons j c js cs hj _ ih =>
    cases hds with
    | @cons _ o _ os ho hos =>
      have hkind : (t.kind j == .parameter) = o.isSome := hj.kind ▸ ho.classify
      cases o with
      | none => simp [hkind, ih hos]
      | some d => simp [hkind, ih hos, parameterOf_eq hj ho]

end

/-- Parameter lists are read exactly.  For a function anywhere in a tree, whose parameter list holds
entries of the grammar with any annotations and defaults, and separators, commas, comments and line
continuations in any places, lowering gives a definition of a function that has a signature.  The
parameters of this signature are those declared, in order: the text of each name without stars, and
the texts of annotation and default where there are any. -/
theorem parameters_are_read_exactly (source : String) (c : ConcreteTree) {p : Path}
    {function list : ConcreteTree} {declared : List Declared}
    (hpath : c.subtree? p = some function)
    (hfunction : function.info.isOneOf ["function_definition"])
    (hlist : function.children.find? (·.info.isOneOf ["parameters"]) = some list)
    (hdeclared : list.DeclaresAll declared) :
    ∃ d sig, Definition.ofNode? (lower source c) (c.place p) = some d ∧ d.kind = .function ∧
      d.signature = .ok sig ∧ sig.params = declared.map (Declared.read source) := by
  have hheld := holds_lower_subtree source hpath
  have hkind : (lower source c).kind (c.place p) = .functionDefinition := by
    rw [hheld.kind]
    exact beq_iff_eq.1 ((NamedKinds.functions.test_classify _ _).trans hfunction)
  let d : Definition := ⟨lower source c, c.place p, .function⟩
  -- the node taken for the parameter list is the copy of the list
  obtain ⟨j, hj, hjheld⟩ : ∃ j, d.parameterList = some j ∧
      (lower source c).Holds j (some ((lower source c).kind (c.place p))) list := by
    refine exists_find?_of_forall₂ hheld.children (fun j e he => ?_) hlist
    rw [he.kind]
    exact NamedKinds.parameterLists.test_classify _ _
  have hparameters : (lower source c).kind j = .parameters := by
    have htest := List.find?_some hj
    exact beq_iff_eq.1 htest
  obtain ⟨ds, hds, rfl⟩ := hdeclared
  have hchildren := hjheld.children
  rw [hparameters] at hchildren
  refine ⟨d, _, ?_, rfl, Definition.signature_of_parameterList hj, ?_⟩
  · rw [Definition.ofNode?, hkind]
  · rw [parametersOf, map_parameterOf_filter hchildren hds, source_lower]

/-- The text of a function with three parameters and a separator. -/
def declaringText : String := "def f(a, *, *b: c, d=e): pass"

/-- The function of this text, with a comment in its parameter list. -/
def declaringFunction : ConcreteTree :=
  let name (start stop : Nat) (field : Option String) : ConcreteTree :=
    .named "identifier" [] field ⟨0, 0⟩ ⟨0, 0⟩ ⟨start, stop⟩
  .named "function_definition"
    [.named "parameters"
      [.token "(", name 6 7 none, .token ",", .named "comment" [],
        .named "keyword_separator" [.token "*"], .token ",",
        .named "typed_parameter"
          [.named "list_splat_pattern" [.token "*", name 13 14 none], .token ":",
            .named "type" [name 16 17 none] (some "type") ⟨0, 0⟩ ⟨0, 0⟩ ⟨16, 17⟩],
        .token ",",
        .named "default_parameter"
          [name 19 20 (some "name"), .token "=", name 21 22 (some "value")],
        .token ")"]]

/-- The parameters of this function are declared by its list and read off it. -/
theorem declaringFunction_parameters :
    ∃ list declared,
      declaringFunction.children.find? (·.info.isOneOf ["parameters"]) = some list ∧
      list.DeclaresAll declared ∧
      ∃ d sig, Definition.ofNode? (lower declaringText declaringFunction) 0 = some d ∧
        d.kind = .function ∧ d.signature = .ok sig ∧
        sig.params = [⟨"a", none, none⟩, ⟨"b", some "c", none⟩, ⟨"d", none, some "e"⟩] := by
  have hdeclared : ∃ list declared,
      declaringFunction.children.find? (·.info.isOneOf ["parameters"]) = some list ∧
      list.DeclaresAll declared ∧ declared.map (Declared.read declaringText) =
        [⟨"a", none, none⟩, ⟨"b", some "c", none⟩, ⟨"d", none, some "e"⟩] := by
    refine ⟨_, _, rfl, ⟨_, .cons (.punctuation rfl) <| .cons (.plain (.identifier rfl rfl)) <|
      .cons (.punctuation rfl) <| .cons (.extra rfl) <| .cons (.separator rfl) <|
      .cons (.punctuation rfl) <|
      .cons (.typed rfl rfl (.starred rfl rfl rfl rfl rfl rfl) rfl rfl) <|
      .cons (.punctuation rfl) <| .cons (.defaulted rfl rfl rfl rfl rfl rfl) <|
      .cons (.punctuation rfl) .nil, rfl⟩, ?_⟩
    decide +kernel
  obtain ⟨list, declared, hlist, hall, hread⟩ := hdeclared
  rw [← hread]
  exact ⟨list, declared, hlist, hall,
    parameters_are_read_exactly _ declaringFunction (p := []) rfl rfl hlist hall⟩

end DocSignature
