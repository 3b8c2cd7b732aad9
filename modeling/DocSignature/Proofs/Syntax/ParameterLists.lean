import DocSignature.Proofs.Syntax.Kinds
import DocSignature.Text.Blank
import Mathlib.Data.List.Forall2

/-!
# Parameter lists as the grammar writes them

Between the parentheses of a parameter list stand entries, separators and commas, and comments and
line continuations may stand anywhere among the tokens.  `ConcreteTree.Declares` says what each of
these trees declares: a name with an annotation and a default where it has them, or nothing.  An
annotation or a default may be any tree.
-/

set_option autoImplicit false

namespace DocSignature.Syntax

section

variable {n : ConcreteNode} {f g : Field}

/-- Different roles have different field names. -/
theorem Field.text_injective (h : f.text = g.text) : f = g :=
  Option.some.inj ((ofName?_eq_some_iff.2 rfl).symm.trans (ofName?_eq_some_iff.2 h))

/-- A node fills one role at most. -/
theorem ConcreteNode.fills_eq_decide (h : n.fills f) (g : Field) : n.fills g = decide (f = g) := by
  rw [fills, beq_iff_eq] at h
  by_cases heq : f = g
  · subst heq
    simp [fills, h]
  · have hne : f.text ≠ g.text := fun htext => heq (Field.text_injective htext)
    simp [fills, h, hne, heq]

/-- A node without a field fills no role. -/
theorem ConcreteNode.fills_eq_false (h : n.field = none) (g : Field) : n.fills g = false := by
  simp [fills, h]

end

namespace ConcreteTree

/-- Whether a tree may stand between any two tokens: a comment or a line continuation. -/
def isExtra (c : ConcreteTree) : Bool :=
  c.info.isOneOf ["comment", "line_continuation"] && c.info.field.isNone && c.children.isEmpty

/-- Whether a tree is a token with one of some texts. -/
def isToken (c : ConcreteTree) (texts : List String) : Bool :=
  !c.info.named && c.info.field.isNone && c.children.isEmpty && texts.contains c.info.name

/-- Whether a tree is an identifier. -/
def isIdentifier (c : ConcreteTree) : Bool :=
  c.info.isOneOf ["identifier"] && c.children.isEmpty

/-- The children of a tree that are not extras. -/
def parts (c : ConcreteTree) : List ConcreteTree :=
  c.children.filter (!·.isExtra)

/-- A declared parameter: the trees of its name, of its annotation and of its default. -/
structure Declared where
  name : ConcreteTree
  type : Option ConcreteTree := none
  value : Option ConcreteTree := none

/-- A tree that stands for a name without a role: an identifier, or one after a star or two. -/
inductive Names (name : ConcreteTree) : ConcreteTree → Prop where
  | identifier (hname : name.isIdentifier) (hfield : name.info.field = none) : Names name name
  | starred {c star : ConcreteTree}
      (hc : c.info.isOneOf ["list_splat_pattern", "dictionary_splat_pattern"])
      (hcfield : c.info.field = none) (hparts : c.parts = [star, name])
      (hstar : star.isToken ["*", "**"]) (hname : name.isIdentifier)
      (hfield : name.info.field = none) : Names name c

/-- What a tree right inside a parameter list declares. -/
inductive Declares : ConcreteTree → Option Declared → Prop where
  | extra {c : ConcreteTree} (hc : c.isExtra) : Declares c none
  | punctuation {c : ConcreteTree} (hc : c.isToken ["(", ",", ")"]) : Declares c none
  | separator {c : ConcreteTree}
      (hc : c.info.isOneOf ["keyword_separator", "positional_separator"]) : Declares c none
  | plain {c name : ConcreteTree} (hc : Names name c) : Declares c (some { name })
  | typed {c named colon name type : ConcreteTree} (hc : c.info.isOneOf ["typed_parameter"])
      (hparts : c.parts = [named, colon, type]) (hnamed : Names name named)
      (hcolon : colon.isToken [":"]) (htype : type.info.fills .type) :
      Declares c (some { name, type })
  | defaulted {c name equals value : ConcreteTree} (hc : c.info.isOneOf ["default_parameter"])
      (hparts : c.parts = [name, equals, value]) (hname : name.isIdentifier)
      (hfills : name.info.fills .name) (hequals : equals.isToken ["="])
      (hvalue : value.info.fills .value) : Declares c (some { name, value })
  | typedDefaulted {c name colon type equals value : ConcreteTree}
      (hc : c.info.isOneOf ["typed_default_parameter"])
      (hparts : c.parts = [name, colon, type, equals, value]) (hname : name.isIdentifier)
      (hfills : name.info.fills .name) (hcolon : colon.isToken [":"])
      (htype : type.info.fills .type) (hequals : equals.isToken ["="])
      (hvalue : value.info.fills .value) : Declares c (some { name, type, value })

/-- The text of a tree without blank characters at its ends. -/
def text (source : String) (c : ConcreteTree) : String :=
  Text.trim (String.Pos.Raw.extract source ⟨c.info.bytes.start⟩ ⟨c.info.bytes.stop⟩)

/-- What stands in a parameter list declares some parameters, in order. -/
def DeclaresAll (list : ConcreteTree) (declared : List Declared) : Prop :=
  ∃ ds, List.Forall₂ Declares list.children ds ∧ ds.filterMap id = declared

section

variable {c d name : ConcreteTree} {texts : List String}

/-- An extra fills no role. -/
theorem field_of_isExtra (h : c.isExtra) : c.info.field = none := by
  simp only [isExtra, Bool.and_eq_true, Option.isNone_iff_eq_none] at h
  exact h.1.2

/-- A token fills no role. -/
theorem field_of_isToken (h : c.isToken texts) : c.info.field = none := by
  simp only [isToken, Bool.and_eq_true, Option.isNone_iff_eq_none] at h
  exact h.1.1.2

/-- An identifier has no children. -/
theorem children_of_isIdentifier (h : c.isIdentifier) : c.children = [] := by
  simp only [isIdentifier, Bool.and_eq_true, List.isEmpty_iff] at h
  exact h.2

/-- The node that names a parameter fills no role. -/
theorem Names.field (h : Names name c) : c.info.field = none := by
  cases h with
  | identifier _ hfield => exact hfield
  | starred _ hcfield => exact hcfield

/-- A parameter is named by an identifier. -/
theorem Names.isIdentifier (h : Names name c) : name.isIdentifier := by
  cases h with
  | identifier hname => exact hname
  | starred _ _ _ _ hname => exact hname

/-- No extra fills a role. -/
theorem find?_fills_parts (c : ConcreteTree) (f : Field) :
    c.parts.find? (·.info.fills f) = c.children.find? (·.info.fills f) := by
  rw [parts, List.find?_filter]
  congr 1
  funext d
  cases hextra : d.isExtra with
  | false => simp
  | true => simp [ConcreteNode.fills_eq_false (field_of_isExtra hextra)]

/-- What comes before a part among the children is an extra or an earlier part. -/
theorem exists_append_of_parts (before : List ConcreteTree) {after : List ConcreteTree}
    (h : c.parts = before ++ d :: after) :
    ∃ l₁ l₂, c.children = l₁ ++ d :: l₂ ∧ ∀ e ∈ l₁, e.isExtra ∨ e ∈ before := by
  obtain ⟨l₁, rest, hrest, hbefore, hd⟩ := List.filter_eq_append_iff.1 h
  obtain ⟨l₂, l₃, rfl, hextras, -, -⟩ := List.filter_eq_cons_iff.1 hd
  refine ⟨l₁ ++ l₂, l₃, by rw [hrest, List.append_assoc], ?_⟩
  intro e he
  by_cases hextra : e.isExtra
  · exact .inl hextra
  · refine .inr ?_
    rw [← hbefore]
    rcases List.mem_append.1 he with he | he
    · exact List.mem_filter.2 ⟨he, by simpa using hextra⟩
    · exact absurd (by simpa using hextra) (hextras e he)

/-- Before the identifier of a starred name come extras and the stars. -/
theorem exists_append_of_starred {star : ConcreteTree} (hparts : c.parts = [star, name])
    (hstar : star.isToken texts) :
    ∃ l₁ l₂, c.children = l₁ ++ name :: l₂ ∧ ∀ e ∈ l₁, e.isExtra ∨ e.isToken texts := by
  obtain ⟨l₁, l₂, hchildren, hbefore⟩ := exists_append_of_parts [star] hparts
  refine ⟨l₁, l₂, hchildren, fun e he => (hbefore e he).imp_right fun hmem => ?_⟩
  obtain rfl := List.mem_singleton.1 hmem
  exact hstar

end

/-! ## The kinds of what stands in a list -/

section

variable {c name : ConcreteTree} {texts : List String}

/-- An extra or a token has nothing below it and is neither a parameter nor an identifier. -/
theorem of_isExtra_or_isToken (h : c.isExtra ∨ c.isToken texts) (parent : Option Kind) :
    c.children = [] ∧ c.info.classify parent ∉ [Kind.parameter, .identifier] := by
  rcases h with h | h
  · simp only [isExtra, Bool.and_eq_true, List.isEmpty_iff] at h
    refine ⟨h.2, ConcreteNode.forall_classify (P := (· ∉ [Kind.parameter, .identifier])) h.1.1
      parent ?_⟩
    cases parent == some Kind.parameters <;> decide
  · simp only [isToken, Bool.and_eq_true, Bool.not_eq_true', List.isEmpty_iff] at h
    refine ⟨h.1.2, ?_⟩
    have hkind := ConcreteNode.classify_of_not_named h.1.1.1 parent
    revert hkind
    generalize c.info.classify parent = k
    revert k
    decide

/-- An entry of a parameter list is a parameter, and nothing else there is. -/
theorem Declares.classify {o : Option Declared} (h : Declares c o) :
    (c.info.classify (some .parameters) == .parameter) = o.isSome := by
  have hnot : ∀ texts, c.isExtra ∨ c.isToken texts →
      (c.info.classify (some .parameters) == .parameter) = false := by
    intro texts hc
    have hkind := (of_isExtra_or_isToken hc (some .parameters)).2
    simp only [List.mem_cons, not_or] at hkind
    exact beq_eq_false_iff_ne.2 hkind.1
  have hlisted : ∀ answer {names}, c.info.isOneOf names →
      (∀ name ∈ names, (Kind.ofName name true == .parameter) = answer) →
      (c.info.classify (some .parameters) == .parameter) = answer := by
    intro answer names hc hnames
    exact ConcreteNode.forall_classify (P := fun k => (k == .parameter) = answer) hc _ hnames
  cases h with
  | extra hc => exact hnot [] (.inl hc)
  | punctuation hc => exact hnot _ (.inr hc)
  | separator hc => exact hlisted false hc (by decide)
  | plain hc =>
    cases hc with
    | identifier hname => exact hlisted true (Bool.and_eq_true_iff.1 hname).1 (by decide)
    | starred hc => exact hlisted true hc (by decide)
  | typed hc => exact hlisted true hc (by decide)
  | defaulted hc => exact hlisted true hc (by decide)
  | typedDefaulted hc => exact hlisted true hc (by decide)

/-- Elsewhere an identifier is one. -/
theorem classify_of_isIdentifier {parent : Option Kind} (h : c.isIdentifier)
    (hparent : parent ≠ some .parameters) : c.info.classify parent = .identifier :=
  ConcreteNode.forall_classify_outside (P := (· = .identifier)) (Bool.and_eq_true_iff.1 h).1 hparent
    (by decide)

end

/-! ## The parts of an entry -/

section

variable {c name : ConcreteTree} {d : Declared}

/-- Nothing below what stands for a name fills a role. -/
theorem Names.find?_fills (h : Names name c) (f : Field) :
    c.children.find? (·.info.fills f) = none := by
  cases h with
  | identifier hname _ => rw [children_of_isIdentifier hname, List.find?_nil]
  | starred _ _ hparts hstar _ hfield =>
    rw [← find?_fills_parts, hparts]
    simp [ConcreteNode.fills_eq_false (field_of_isToken hstar), ConcreteNode.fills_eq_false hfield]

/-- The roles of annotation and default are filled just as an entry declares. -/
theorem Declares.find?_fills (h : Declares c (some d)) :
    c.children.find? (·.info.fills .type) = d.type ∧
      c.children.find? (·.info.fills .value) = d.value := by
  cases h with
  | plain hc => exact ⟨hc.find?_fills .type, hc.find?_fills .value⟩
  | typed _ hparts hnamed hcolon htype =>
    rw [← find?_fills_parts, ← find?_fills_parts, hparts]
    simp [ConcreteNode.fills_eq_false hnamed.field,
      ConcreteNode.fills_eq_false (field_of_isToken hcolon), ConcreteNode.fills_eq_decide htype]
  | defaulted _ hparts _ hfills hequals hvalue =>
    rw [← find?_fills_parts, ← find?_fills_parts, hparts]
    simp [ConcreteNode.fills_eq_decide hfills,
      ConcreteNode.fills_eq_false (field_of_isToken hequals), ConcreteNode.fills_eq_decide hvalue]
  | typedDefaulted _ hparts _ hfills hcolon htype hequals hvalue =>
    rw [← find?_fills_parts, ← find?_fills_parts, hparts]
    simp [ConcreteNode.fills_eq_decide hfills,
      ConcreteNode.fills_eq_false (field_of_isToken hcolon), ConcreteNode.fills_eq_decide htype,
      ConcreteNode.fills_eq_false (field_of_isToken hequals), ConcreteNode.fills_eq_decide hvalue]

/-- The name of an entry is an identifier. -/
theorem Declares.isIdentifier_name (h : Declares c (some d)) : d.name.isIdentifier := by
  cases h with
  | plain hc => exact hc.isIdentifier
  | typed _ _ hnamed => exact hnamed.isIdentifier
  | defaulted _ _ hname => exact hname
  | typedDefaulted _ _ hname => exact hname

/-- The name of an entry fills the role of a name, or nothing does.  Then it is the entry itself, or
only extras and tokens come before what stands for it. -/
theorem Declares.naming (h : Declares c (some d)) :
    c.children.find? (·.info.fills .name) = some d.name ∨
    (c.children.find? (·.info.fills .name) = none ∧
      (c = d.name ∨ ∃ l₁ named l₂, c.children = l₁ ++ named :: l₂ ∧ Names d.name named ∧
        ∀ e ∈ l₁, e.isExtra ∨ e.isToken ["*", "**"])) := by
  cases h with
  | plain hc =>
    refine .inr ⟨hc.find?_fills .name, ?_⟩
    cases hc with
    | identifier => exact .inl rfl
    | starred _ _ hparts hstar hname hfield =>
      obtain ⟨l₁, l₂, hchildren, hbefore⟩ := exists_append_of_starred hparts hstar
      exact .inr ⟨l₁, _, l₂, hchildren, .identifier hname hfield, hbefore⟩
  | typed _ hparts hnamed hcolon htype =>
    have hnone : c.children.find? (·.info.fills .name) = none := by
      rw [← find?_fills_parts, hparts]
      simp [ConcreteNode.fills_eq_false hnamed.field,
        ConcreteNode.fills_eq_false (field_of_isToken hcolon), ConcreteNode.fills_eq_decide htype]
    obtain ⟨l₁, l₂, hchildren, hbefore⟩ := exists_append_of_parts [] hparts
    refine .inr ⟨hnone, .inr ⟨l₁, _, l₂, hchildren, hnamed, fun e he => ?_⟩⟩
    exact (hbefore e he).imp_right fun hmem => absurd hmem List.not_mem_nil
  | defaulted _ hparts _ hfills =>
    refine .inl ?_
    rw [← find?_fills_parts, hparts]
    exact List.find?_cons_of_pos hfills
  | typedDefaulted _ hparts _ hfills =>
    refine .inl ?_
    rw [← find?_fills_parts, hparts]
    exact List.find?_cons_of_pos hfills

end

end ConcreteTree

end DocSignature.Syntax
