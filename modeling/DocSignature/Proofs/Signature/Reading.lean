import DocSignature.Proofs.Signature.Parameters
import DocSignature.Proofs.Signature.Scopes

/-!
# What is read off the copy of a function

The return annotation and the raised exceptions of a function are read off its copy in a syntax
tree, place by place.  Here the same is said of the concrete tree, by recursion over it:
`ConcreteTree.returnHint` and `ConcreteTree.raiseTypes`.  `Holds.map_signature` is the equation
between the two.
-/

set_option autoImplicit false

namespace DocSignature

open Syntax Syntax.SyntaxTree Syntax.ConcreteTree

section

variable {α β : Type}

/-- Related lists are the two sides of one list of related pairs. -/
theorem exists_pairs_of_forall₂ {R : α → β → Prop} {xs : List α} {ys : List β}
    (h : List.Forall₂ R xs ys) :
    ∃ l : List { x : α × β // R x.1 x.2 }, xs = l.map (·.1.1) ∧ ys = l.map (·.1.2) := by
  induction h with
  | nil => exact ⟨[], rfl, rfl⟩
  | @cons a b xs ys hab _ ih =>
    obtain ⟨l, rfl, rfl⟩ := ih
    exact ⟨⟨(a, b), hab⟩ :: l, rfl, rfl⟩

/-- What comes before the end is less than all just if there is an end. -/
theorem length_takeWhile_lt_iff (closes : α → Bool) (xs : List α) :
    (xs.takeWhile (!closes ·)).length < xs.length ↔ xs.any closes := by
  induction xs with
  | nil => simp
  | cons x xs ih => cases hx : closes x <;> simp [hx, ih]

/-- What opens the stretch is the first member, or the search goes on after it. -/
theorem between?_cons (opens closes : α → Bool) (x : α) (xs : List α) :
    between? opens closes (x :: xs) =
      if opens x then if xs.any closes then some (xs.takeWhile (!closes ·)) else none
      else between? opens closes xs := by
  unfold between?
  cases hx : opens x with
  | false => simp [hx]
  | true => simp only [List.dropWhile_cons, hx, Bool.not_true, Bool.false_eq_true, if_false,
      if_true, length_takeWhile_lt_iff]

/-- A stretch of mapped members is the mapped stretch. -/
theorem between?_map (f : α → β) (opens closes : β → Bool) (xs : List α) :
    between? opens closes (xs.map f) =
      (between? (opens ∘ f) (closes ∘ f) xs).map (List.map f) := by
  induction xs with
  | nil => rfl
  | cons x xs ih =>
    rw [List.map_cons, between?_cons, between?_cons, ih, List.any_map, List.takeWhile_map]
    simp only [Function.comp_apply]
    split
    · split <;> rfl
    · rfl

end

namespace Syntax.ConcreteTree

/-- The kind of a tree outside parameter lists. -/
def kind (c : ConcreteTree) : Kind := c.info.classify none

/-- Whether a tree is a piece of punctuation with a given text. -/
def isOperator (source : String) (c : ConcreteTree) (token : String) : Bool :=
  c.kind == .operator && c.text source == token

/-- Whether a tree is a given keyword. -/
def isKeyword (source : String) (c : ConcreteTree) (word : String) : Bool :=
  c.kind == .keyword && c.text source == word

/-- What stands between `->` and the `:` after it. -/
def annotation? (source : String) (c : ConcreteTree) : Option (List ConcreteTree) :=
  between? (·.isOperator source "->") (·.isOperator source ":") c.children

/-- The text of the one tree between `->` and `:` that is not a comment. -/
def returnHint (source : String) (c : ConcreteTree) : Option String :=
  match (c.annotation? source).map (·.filter fun d => d.kind != .comment) with
  | some [hint] => some (hint.text source)
  | _ => none

/-- Whether a tree may be what a `raise` statement raises: no comment and no punctuation. -/
def mayBeRaised (c : ConcreteTree) : Bool := c.kind != .comment && c.kind != .operator

/-- What a `raise` statement raises: the first tree after `raise` and before `from` that may be. -/
def raised? (source : String) (c : ConcreteTree) : Option ConcreteTree :=
  ((c.children.dropWhile (·.isKeyword source "raise")).takeWhile
    fun d => !d.isKeyword source "from").find? mayBeRaised

/-- What names a raised exception: what is called, if it is a call, else the whole expression. -/
def exceptionName (c : ConcreteTree) : ConcreteTree :=
  match c.kind with
  | .call => (c.children.find? (·.info.fills .function)).getD c
  | _ => c

/-- The exception that a `raise` statement names. -/
def raisedText (source : String) (c : ConcreteTree) : Option String :=
  (c.raised? source).map (·.exceptionName.text source)

mutual

/-- The `raise` statements of the scope whose statements stand in a tree, in source order. -/
def raisesIn : ConcreteTree → List ConcreteTree
  | node _ cs => raisesAmong cs

/-- The `raise` statements of the scope whose statements stand among some trees. -/
def raisesAmong : List ConcreteTree → List ConcreteTree
  | [] => []
  | c :: cs =>
    (if c.info.isRaise then [c] else if c.info.isContainer then c.raisesIn else []) ++
      raisesAmong cs

end

/-- The `raise` statements of a definition's own scope, in source order. -/
def bodyRaises (c : ConcreteTree) : List ConcreteTree :=
  ((c.children.find? (·.info.fills .body)).map raisesIn).getD []

/-- The exceptions that a definition raises. -/
def raiseTypes (source : String) (c : ConcreteTree) : List String :=
  c.bodyRaises.filterMap (·.raisedText source)

/-- The name that a definition declares. -/
def declaredName (source : String) (c : ConcreteTree) : String :=
  ((c.children.find? (·.info.fills .name)).map (·.text source)).getD ""

/-- Whether a definition has a parameter list. -/
def hasParameters (c : ConcreteTree) : Bool :=
  c.children.any (·.info.isOneOf NamedKinds.parameterLists.names)

end Syntax.ConcreteTree

namespace Syntax.SyntaxTree

variable {t : SyntaxTree} {place : Nat} {parent : Option Kind} {k : Kind} {c : ConcreteTree}

/-- A place with the tree that is held there, below a parent of a known kind. -/
abbrev HeldBelow (t : SyntaxTree) (k : Kind) :=
  { x : Nat × ConcreteTree // t.Holds x.1 (some k) x.2 }

/-- The kind of a copy is that of the concrete tree, outside parameter lists. -/
theorem Holds.kind_eq (h : t.Holds place (some k) c) (hk : k ≠ .parameters) :
    t.kind place = c.kind := by
  have hparent : (some k == some Kind.parameters) = false := by simpa using hk
  rw [h.kind, ConcreteTree.kind, ConcreteNode.classify, ConcreteNode.classify, hparent]
  rfl

/-- A copy is an operator just if the concrete tree is. -/
theorem Holds.isOperator_eq (h : t.Holds place (some k) c) (hk : k ≠ .parameters)
    (token : String) : t.isOperator place token = c.isOperator t.source token := by
  rw [SyntaxTree.isOperator, ConcreteTree.isOperator, h.kind_eq hk, h.text]

/-- A copy is a keyword just if the concrete tree is. -/
theorem Holds.isKeyword_eq (h : t.Holds place (some k) c) (hk : k ≠ .parameters)
    (word : String) : t.isKeyword place word = c.isKeyword t.source word := by
  rw [SyntaxTree.isKeyword, ConcreteTree.isKeyword, h.kind_eq hk, h.text]

/-- The return annotation that is read off a held function. -/
theorem Holds.returnHint_eq (h : t.Holds place parent c)
    (hkind : t.kind place ≠ .parameters) :
    DocSignature.returnHint t place = c.returnHint t.source := by
  obtain ⟨l, hplaces, htrees⟩ := exists_pairs_of_forall₂ h.children
  have hoperator : ∀ token, (fun x : HeldBelow t (t.kind place) => t.isOperator x.1.1 token) =
      fun x => x.1.2.isOperator t.source token := by
    intro token
    funext x
    exact x.2.isOperator_eq hkind token
  have hcomment : (fun x : HeldBelow t (t.kind place) => t.kind x.1.1 != .comment) =
      fun x => x.1.2.kind != .comment := by
    funext x
    rw [x.2.kind_eq hkind]
  unfold DocSignature.returnHint returnNodes ConcreteTree.returnHint annotation?
  rw [hplaces, htrees, between?_map, between?_map]
  simp only [Function.comp_def, hoperator]
  cases between? _ _ l with
  | none => rfl
  | some inside =>
    simp only [Option.map_some, List.filter_map, Function.comp_def, hcomment]
    -- only a single node has its text read
    generalize inside.filter _ = hints
    obtain _ | ⟨x, _ | ⟨y, rest⟩⟩ := hints
    · rfl
    · exact congrArg some x.2.text
    · rfl

/-- What is taken for the operand of a held `raise` statement is held, if there is one. -/
theorem Holds.exists_raised (h : t.Holds place parent c) (hkind : t.kind place ≠ .parameters) :
    ∃ x : Option (HeldBelow t (t.kind place)),
      raisedNode t place = x.map (·.1.1) ∧ c.raised? t.source = x.map (·.1.2) := by
  obtain ⟨l, hplaces, htrees⟩ := exists_pairs_of_forall₂ h.children
  have hkeyword : ∀ (x : HeldBelow t (t.kind place)) word,
      t.isKeyword x.1.1 word = x.1.2.isKeyword t.source word := by
    intro x word
    exact x.2.isKeyword_eq hkind word
  have hoperand : ∀ x : HeldBelow t (t.kind place),
      (t.kind x.1.1 != .comment && t.kind x.1.1 != .operator) = x.1.2.mayBeRaised := by
    intro x
    rw [x.2.kind_eq hkind, mayBeRaised]
  unfold raisedNode raised?
  rw [hplaces, htrees]
  simp only [List.dropWhile_map, List.takeWhile_map, List.find?_map, Function.comp_def, hkeyword,
    hoperand]
  exact ⟨_, rfl, rfl⟩

/-- The text that names a raised exception is that of the tree that names it. -/
theorem Holds.text_exceptionName (h : t.Holds place (some k) c) (hk : k ≠ .parameters) :
    t.text (match t.kind place with
      | .call => (t.childByField place .function).getD place
      | _ => place) = c.exceptionName.text t.source := by
  have hkind := h.kind_eq hk
  unfold exceptionName
  by_cases hcall : c.kind = .call
  · simp only [hkind, hcall]
    cases hfind : c.children.find? (·.info.fills .function) with
    | none => simp [h.childByField_eq_none hfind, h.text]
    | some d =>
      obtain ⟨j, hj, hd⟩ := h.exists_childByField hfind
      simp [hj, hd.text]
  · rw [hkind]
    split
    · next heq => exact absurd heq hcall
    · exact h.text

/-- The exception that is read off a held `raise` statement. -/
theorem Holds.raisedType_eq (h : t.Holds place parent c) (hkind : t.kind place ≠ .parameters) :
    raisedType t place = c.raisedText t.source := by
  obtain ⟨x, hnode, htree⟩ := h.exists_raised hkind
  rw [raisedType, raisedText, hnode, htree]
  cases x with
  | none => rfl
  | some x => exact congrArg some (x.2.text_exceptionName hkind)

mutual

/-- The exceptions of a scope are read off the `raise` statements that its tree holds. -/
theorem filterMap_raisedType (c : ConcreteTree) {place : Nat} {parent : Option Kind}
    (h : t.Holds place parent c) :
    (scopeNodes t NamedKinds.raises.test place).filterMap (raisedType t) =
      c.raisesIn.filterMap (·.raisedText t.source) := by
  obtain ⟨info, cs⟩ := c
  rw [scopeNodes_eq, raisesIn]
  exact filterMap_raisedType_flatMap cs h.children

/-- The exceptions of a row of copies are those of the concrete trees. -/
theorem filterMap_raisedType_flatMap (cs : List ConcreteTree) {js : List Nat} {k : Kind}
    (h : List.Forall₂ (fun j d => t.Holds j (some k) d) js cs) :
    (js.flatMap fun child =>
        if NamedKinds.raises.test (t.kind child) then [child]
        else if (t.kind child).isStatementContainer then
          scopeNodes t NamedKinds.raises.test child
        else []).filterMap (raisedType t) =
      (raisesAmong cs).filterMap (·.raisedText t.source) := by
  cases cs with
  | nil =>
    obtain rfl := List.forall₂_nil_right_iff.1 h
    rfl
  | cons c cs =>
    obtain ⟨j, js, hj, hjs, rfl⟩ := List.forall₂_cons_right_iff.1 h
    have hraise : NamedKinds.raises.test (t.kind j) = c.info.isRaise := by
      rw [hj.kind]
      exact NamedKinds.raises.test_classify c.info _
    have hcontainer : (t.kind j).isStatementContainer = c.info.isContainer := by
      rw [hj.kind]
      exact NamedKinds.containers.test_classify c.info _
    rw [List.flatMap_cons, raisesAmong, List.filterMap_append, List.filterMap_append,
      filterMap_raisedType_flatMap cs hjs, hraise, hcontainer]
    congr 1
    by_cases hc : c.info.isRaise
    · have hkind : t.kind j = .raiseStatement := beq_iff_eq.1 (hraise.trans hc)
      have hread := hj.raisedType_eq (by simp [hkind])
      rw [if_pos hc, if_pos hc, List.filterMap_cons, List.filterMap_cons, hread]
      rfl
    · rw [if_neg hc, if_neg hc]
      split
      · exact filterMap_raisedType c hj
      · rfl

end

/-- The exceptions that are read off a held definition. -/
theorem Holds.raisedTypes_eq (h : t.Holds place parent c) :
    ((t.childByField place .body).map (raisedTypes t)).getD [] = c.raiseTypes t.source := by
  unfold ConcreteTree.raiseTypes bodyRaises
  cases hbody : c.children.find? (·.info.fills .body) with
  | none => simp [h.childByField_eq_none hbody]
  | some body =>
    obtain ⟨j, hj, hheld⟩ := h.exists_childByField hbody
    have hread := filterMap_raisedType body hheld
    rw [← scopeRaises_eq] at hread
    simpa [hj, raisedTypes] using hread

/-- A held definition has a parameter list just if its tree has one. -/
theorem Holds.isSome_parameterList (h : t.Holds place parent c) (kind : DefinitionKind) :
    (Definition.parameterList ⟨t, place, kind⟩).isSome = c.hasParameters := by
  obtain ⟨l, hplaces, htrees⟩ := exists_pairs_of_forall₂ h.children
  have htest : ∀ x : HeldBelow t (t.kind place),
      (t.kind x.1.1 == .parameters) = x.1.2.info.isOneOf NamedKinds.parameterLists.names := by
    intro x
    rw [x.2.kind]
    exact NamedKinds.parameterLists.test_classify x.1.2.info _
  unfold Definition.parameterList hasParameters
  rw [hplaces, htrees, List.find?_map, Option.isSome_map, List.any_map]
  simp only [Function.comp_def, htest, List.isSome_find?]

/-- What the signature of a held function says of its return and of what it raises, or why there is
no signature. -/
theorem Holds.map_signature (h : t.Holds place parent c)
    (hkind : t.kind place ≠ .parameters) (kind : DefinitionKind) :
    (Definition.signature ⟨t, place, kind⟩).map (fun sig => (sig.returnTypehint, sig.raiseTypes)) =
      if c.hasParameters then .ok (c.returnHint t.source, c.raiseTypes t.source)
      else .error (.missingParameters (c.declaredName t.source) c.info.span.start) := by
  have hlist := h.isSome_parameterList kind
  have hname : Definition.name ⟨t, place, kind⟩ = c.declaredName t.source :=
    congrArg (·.getD "") (h.fieldText .name)
  rw [← h.returnHint_eq hkind, ← h.raisedTypes_eq, ← hname, ← h.span, ← hlist]
  unfold Definition.signature
  cases Definition.parameterList ⟨t, place, kind⟩ with
  | none => rfl
  | some list => rfl

end Syntax.SyntaxTree

end DocSignature
