import DocSignature.Syntax.ConcreteTree
import Mathlib.Data.List.Basic

/-!
# What the names of nodes stand for

Classification (`classify`) goes by names.  The names that have a kind of their own are listed in
`Kind.names`, so a fact about the kind of every name is a check of this list and of one kind more.
From there it follows which concrete nodes are definitions, which hold statements and which are
`raise` statements, whatever stands above them.
-/

set_option autoImplicit false

namespace DocSignature.Syntax

namespace Kind

/-- The names of nodes that are told apart. -/
def names : List String :=
  ["module", "function_definition", "class_definition", "decorated_definition", "block",
    "if_statement", "elif_clause", "else_clause", "for_statement", "while_statement",
    "try_statement", "except_clause", "except_group_clause", "finally_clause", "with_statement",
    "match_statement", "case_clause", "parameters", "typed_parameter", "default_parameter",
    "typed_default_parameter", "list_splat_pattern", "dictionary_splat_pattern", "identifier",
    "keyword_separator", "positional_separator", "call", "raise_statement", "comment"]

/-- All other names stand for expressions. -/
theorem ofName_eq_expression {name : String} (inParameters : Bool) (h : name ∉ names) :
    ofName name inParameters = .expression := by
  unfold ofName
  split
  all_goals first | rfl | exact absurd h (by decide)

/-- To show something of the kind of every name, go through the listed names and show it of
expressions for the others. -/
theorem forall_ofName {P : String → Kind → Prop} {inParameters : Bool}
    (listed : ∀ name ∈ names, P name (ofName name inParameters))
    (other : ∀ name, name ∉ names → P name .expression) (name : String) :
    P name (ofName name inParameters) := by
  by_cases h : name ∈ names
  · exact listed name h
  · rw [ofName_eq_expression inParameters h]
    exact other name h

end Kind

/-- The field name that stands for a role. -/
def Field.text : Field → String
  | .name => "name"
  | .body => "body"
  | .type => "type"
  | .value => "value"
  | .function => "function"

/-- Each role has one field name. -/
theorem Field.ofName?_eq_some_iff {name : String} {field : Field} :
    ofName? name = some field ↔ name = field.text := by
  constructor
  · intro h
    unfold ofName? at h
    split at h
    all_goals simp at h
    all_goals exact h ▸ rfl
  · rintro rfl
    cases field <;> rfl

/-- Whether a concrete node fills a role. -/
def ConcreteNode.fills (n : ConcreteNode) (field : Field) : Bool :=
  n.field == some field.text

/-- The role that is read off a concrete node is the one that it fills. -/
theorem ConcreteNode.bind_ofName?_eq_some_iff {n : ConcreteNode} {field : Field} :
    n.field.bind Field.ofName? = some field ↔ n.fills field := by
  simp [fills, Option.bind_eq_some_iff, Field.ofName?_eq_some_iff]

/-- A sound node with a name of its own, over the nodes below it. -/
def ConcreteTree.named (name : String) (cs : List ConcreteTree) (field : Option String := none)
    (start stop : Point := ⟨0, 0⟩) (bytes : ByteRange := ⟨0, 0⟩) : ConcreteTree :=
  .node { name, named := true, field, start, stop, bytes } cs

/-- A token without a role. -/
def ConcreteTree.token (text : String) : ConcreteTree :=
  .node { name := text, named := false, start := ⟨0, 0⟩, stop := ⟨0, 0⟩, bytes := ⟨0, 0⟩ } []

/-- A sound node without anything below it, on one line. -/
def ConcreteTree.leaf (name : String) (named : Bool) (row column start stop : Nat)
    (field : Option String := none) : ConcreteTree :=
  .node
    { name, named, field, start := ⟨row, column⟩, stop := ⟨row, column + (stop - start)⟩
      bytes := ⟨start, stop⟩ } []

/-- A set of kinds that goes by names: some names, and a test of kinds that the kind of a name
passes just if the name is one of them.  No token, error or expression passes. -/
structure NamedKinds where
  test : Kind → Bool
  names : List String
  expression : test .expression = false := by rfl
  error : test .error = false := by rfl
  keyword : test .keyword = false := by rfl
  operator : test .operator = false := by rfl
  known : ∀ name ∈ names, name ∈ Kind.names := by decide
  listed : ∀ inParameters, ∀ name ∈ Kind.names,
    test (.ofName name inParameters) = names.contains name := by decide

/-- Whether a concrete node is sound, with one of some names. -/
def ConcreteNode.isOneOf (n : ConcreteNode) (names : List String) : Bool :=
  n.named && !n.isError && !n.isMissing && names.contains n.name

namespace NamedKinds

/-- The kind of any name passes the test just if the name is one of the names. -/
theorem test_ofName (kinds : NamedKinds) (name : String) (inParameters : Bool) :
    kinds.test (.ofName name inParameters) = kinds.names.contains name := by
  refine Kind.forall_ofName (P := fun name k => kinds.test k = kinds.names.contains name)
    (kinds.listed inParameters) ?_ name
  intro name h
  have hnot : name ∉ kinds.names := fun hname => h (kinds.known name hname)
  rw [kinds.expression]
  simpa using hnot

/-- The kind of a node, below any parent, passes the test just if the node is sound and has one of
the names. -/
theorem test_classify (kinds : NamedKinds) (n : ConcreteNode) (parent : Option Kind) :
    kinds.test (n.classify parent) = n.isOneOf kinds.names := by
  unfold ConcreteNode.classify ConcreteNode.isOneOf
  by_cases herror : n.isError
  · simp [herror, kinds.error]
  by_cases hnamed : n.named
  · by_cases hmissing : n.isMissing
    · simp [herror, hnamed, hmissing, kinds.error]
    · simp [herror, hnamed, hmissing, kinds.test_ofName]
  · have htoken : kinds.test (.ofToken n.name) = false := by
      unfold Kind.ofToken
      split
      · exact kinds.keyword
      · exact kinds.operator
    simp [herror, hnamed, htoken]

/-- Function and class definitions. -/
def definitions : NamedKinds where
  test := Kind.isDefinition
  names := ["function_definition", "class_definition"]

/-- Nodes that hold statements of the scope they stand in. -/
def containers : NamedKinds where
  test := Kind.isStatementContainer
  names := ["module", "decorated_definition", "block", "if_statement", "elif_clause",
    "else_clause", "for_statement", "while_statement", "try_statement", "except_clause",
    "except_group_clause", "finally_clause", "with_statement", "match_statement", "case_clause"]

/-- Functions. -/
def functions : NamedKinds where
  test := (· == .functionDefinition)
  names := ["function_definition"]

/-- Parameter lists. -/
def parameterLists : NamedKinds where
  test := (· == .parameters)
  names := ["parameters"]

/-- Statements that raise. -/
def raises : NamedKinds where
  test := (· == .raiseStatement)
  names := ["raise_statement"]

end NamedKinds

namespace ConcreteNode

/-- Whether a concrete node is a function or class definition. -/
def isDefinition (n : ConcreteNode) : Bool := n.isOneOf NamedKinds.definitions.names

/-- Whether a concrete node holds statements of the scope it stands in. -/
def isContainer (n : ConcreteNode) : Bool := n.isOneOf NamedKinds.containers.names

/-- Whether a concrete node is a statement that raises. -/
def isRaise (n : ConcreteNode) : Bool := n.isOneOf NamedKinds.raises.names

/-- A node with one of some names has one of any names that include them. -/
theorem isOneOf_mono {n : ConcreteNode} {xs ys : List String} (hsub : ∀ x ∈ xs, x ∈ ys)
    (h : n.isOneOf xs) : n.isOneOf ys := by
  simp only [isOneOf, Bool.and_eq_true, List.contains_iff_mem] at h ⊢
  exact ⟨h.1, hsub n.name h.2⟩

/-- A node with a name of two lists has one of the first or one of the second. -/
theorem isOneOf_append (n : ConcreteNode) (xs ys : List String) :
    n.isOneOf (xs ++ ys) = (n.isOneOf xs || n.isOneOf ys) := by
  simp [isOneOf, Bool.and_or_distrib_left]

/-- To show something of the kind of a node with one of some names, go through the names. -/
theorem forall_classify {P : Kind → Prop} {n : ConcreteNode} {names : List String}
    (h : n.isOneOf names) (parent : Option Kind)
    (hP : ∀ name ∈ names, P (.ofName name (parent == some .parameters))) :
    P (n.classify parent) := by
  simp only [isOneOf, Bool.and_eq_true, Bool.not_eq_true', List.contains_iff_mem] at h
  obtain ⟨⟨⟨hnamed, herror⟩, hmissing⟩, hname⟩ := h
  simpa [classify, hnamed, herror, hmissing] using hP n.name hname

/-- Outside parameter lists names stand for one kind each. -/
theorem forall_classify_outside {P : Kind → Prop} {n : ConcreteNode} {names : List String}
    (h : n.isOneOf names) {parent : Option Kind} (hparent : parent ≠ some .parameters)
    (hP : ∀ name ∈ names, P (.ofName name false)) : P (n.classify parent) := by
  refine forall_classify h parent ?_
  rw [beq_eq_false_iff_ne.2 hparent]
  exact hP

/-- The kind of a token, below any parent, is that of an error, a keyword or punctuation. -/
theorem classify_of_not_named {n : ConcreteNode} (h : n.named = false) (parent : Option Kind) :
    n.classify parent ∈ [Kind.error, .keyword, .operator] := by
  unfold classify Kind.ofToken
  rw [h]
  split
  · decide
  · rw [if_neg Bool.false_ne_true]
    split <;> decide

/-- A node does not have names of two lists that share none. -/
theorem isOneOf_eq_false_of_disjoint {n : ConcreteNode} {xs ys : List String}
    (hdisjoint : ∀ x ∈ xs, x ∉ ys) (h : n.isOneOf xs) : n.isOneOf ys = false := by
  simp only [isOneOf, Bool.and_eq_true, List.contains_iff_mem] at h
  simp [isOneOf, hdisjoint n.name h.2]

/-- Neither a definition nor a `raise` statement holds statements of the scope it stands in. -/
theorem isContainer_eq_false {n : ConcreteNode} (h : n.isDefinition ∨ n.isRaise) :
    n.isContainer = false := by
  rcases h with h | h
  · exact isOneOf_eq_false_of_disjoint (by decide) h
  · exact isOneOf_eq_false_of_disjoint (by decide) h

end ConcreteNode

namespace NamedKinds

/-- Kinds that scopes are scanned for: those of definitions and of `raise` statements. -/
def Scanned (kinds : NamedKinds) : Prop :=
  ∀ n : ConcreteNode, n.isOneOf kinds.names → n.isDefinition ∨ n.isRaise

/-- Definitions are among the kinds that scans look for. -/
theorem scanned_definitions : definitions.Scanned := fun _ => .inl

/-- `raise` statements are among the kinds that scans look for. -/
theorem scanned_raises : raises.Scanned := fun _ => .inr

end NamedKinds

end DocSignature.Syntax
