import DocSignature.Proofs.Signature.Continuations
import DocSignature.Signature.Resolution

/-!
# Comments are transparent

A comment may stand between any two tokens, and the tree shows it there as a node without children
and without a role.  `SyntaxTree.without` takes some nodes out of the children of all others and
leaves the text and all ranges as they are.  If these nodes are comments, every search finds what it
found before: the definitions of every scope, the innermost one at a line, and all parts of a
signature.  Only the keyword of a `raise` statement is found by its place, so a comment between two
`raise` keywords makes a difference.
-/

set_option autoImplicit false

namespace DocSignature

open Syntax Syntax.SyntaxTree

/-! ## Searches in shortened lists -/

section

variable {α : Type} {keep skips wanted : α → Bool}

/-- A member is found among those that are kept if all that are wanted are kept. -/
theorem find?_filter_of_imp (h : ∀ x, wanted x → keep x) (xs : List α) :
    (xs.filter keep).find? wanted = xs.find? wanted := by
  rw [List.find?_filter]
  congr 1
  funext x
  cases hx : wanted x with
  | false => simp
  | true => simp [h x hx]

/-- What is found part by part is found in the parts that are kept if the others have nothing. -/
theorem flatMap_filter {β : Type} {f g : α → List β} (xs : List α)
    (hkept : ∀ x ∈ xs, keep x → f x = g x) (hdropped : ∀ x ∈ xs, ¬ keep x → g x = []) :
    (xs.filter keep).flatMap f = xs.flatMap g := by
  induction xs with
  | nil => rfl
  | cons x xs ih =>
    have hrest := ih (fun y hy => hkept y (.tail x hy)) fun y hy => hdropped y (.tail x hy)
    by_cases hx : keep x
    · rw [List.filter_cons_of_pos hx, List.flatMap_cons, List.flatMap_cons, hrest,
        hkept x List.mem_cons_self hx]
    · rw [List.filter_cons_of_neg hx, List.flatMap_cons, hrest, hdropped x List.mem_cons_self hx,
        List.nil_append]

section

variable (hkeep : ∀ x, wanted x → keep x) (hwanted : ∀ x, ¬ wanted x → ¬ skips x)

include hkeep hwanted

/-- Nothing is passed over if the first member that is wanted is not. -/
theorem dropWhile_filter_eq_self (xs : List α)
    (h : ∀ x, xs.find? wanted = some x → ¬ skips x) :
    (xs.filter keep).dropWhile skips = xs.filter keep := by
  induction xs with
  | nil => rfl
  | cons x xs ih =>
    by_cases hx : wanted x
    · have hskip : ¬ skips x := h x (by rw [List.find?_cons_of_pos hx])
      rw [List.filter_cons_of_pos (hkeep x hx), List.dropWhile_cons_of_neg hskip]
    · by_cases hkept : keep x
      · rw [List.filter_cons_of_pos hkept, List.dropWhile_cons_of_neg (hwanted x hx)]
      · rw [List.filter_cons_of_neg hkept]
        exact ih fun y hy => h y (by rwa [List.find?_cons_of_neg hx])

/-- The search starts at the same place, after the same members passed over, if the first one there
that is wanted would not be passed over too. -/
theorem dropWhile_filter_of_find? (hskips : ∀ x, skips x → keep x) (xs : List α)
    (h : ∀ x, (xs.dropWhile skips).find? wanted = some x → ¬ skips x) :
    (xs.filter keep).dropWhile skips = (xs.dropWhile skips).filter keep := by
  induction xs with
  | nil => rfl
  | cons x xs ih =>
    by_cases hskip : skips x
    · rw [List.dropWhile_cons_of_pos hskip] at h ⊢
      rw [List.filter_cons_of_pos (hskips x hskip), List.dropWhile_cons_of_pos hskip]
      exact ih h
    · rw [List.dropWhile_cons_of_neg hskip] at h ⊢
      exact dropWhile_filter_eq_self hkeep hwanted (x :: xs) h

end

end

/-! ## Trees without some nodes -/

namespace Syntax.SyntaxTree

/-- A tree with some nodes taken out of the children of all nodes. -/
def without (t : SyntaxTree) (removed : Nat → Bool) : SyntaxTree where
  source := t.source
  nodes := t.nodes.map fun n => { n with children := n.children.filter (!removed ·) }
  ordered := by
    intro id hid child hchild
    rw [Array.size_map] at hid ⊢
    rw [Array.getElem_map] at hchild
    exact t.ordered id hid child (Array.mem_filter.1 hchild).1

section

variable (t : SyntaxTree) (removed : Nat → Bool) (n : Nat)

/-- Removing nodes shortens the lists of children and leaves all else of the nodes as it is. -/
theorem getElem?_nodes_without : (t.without removed).nodes[n]? =
    t.nodes[n]?.map fun n => { n with children := n.children.filter (!removed ·) } := by
  simp [without]

/-- Removing nodes changes no kind. -/
@[simp]
theorem kind_without : (t.without removed).kind n = t.kind n := by
  unfold kind
  rw [getElem?_nodes_without]
  cases t.nodes[n]? <;> rfl

/-- Removing nodes changes no role. -/
@[simp]
theorem field_without : (t.without removed).field n = t.field n := by
  unfold field
  rw [getElem?_nodes_without]
  cases t.nodes[n]? <;> rfl

/-- Removing nodes changes no lines. -/
@[simp]
theorem span_without : (t.without removed).span n = t.span n := by
  unfold span
  rw [getElem?_nodes_without]
  cases t.nodes[n]? <;> rfl

/-- Removing nodes changes no text. -/
@[simp]
theorem text_without : (t.without removed).text n = t.text n := by
  unfold text bytes
  rw [getElem?_nodes_without]
  cases t.nodes[n]? <;> rfl

/-- The children of a node after removing are those that stay. -/
theorem children_without : (t.without removed).children n = (t.children n).filter (!removed ·) := by
  unfold children
  rw [getElem?_nodes_without]
  cases t.nodes[n]? <;> simp

/-- Removing nodes makes no node a different operator. -/
@[simp]
theorem isOperator_without (token : String) :
    (t.without removed).isOperator n token = t.isOperator n token := by
  rw [isOperator, isOperator, kind_without, text_without]

/-- Removing nodes makes no node a different keyword. -/
@[simp]
theorem isKeyword_without (word : String) :
    (t.without removed).isKeyword n word = t.isKeyword n word := by
  rw [isKeyword, isKeyword, kind_without, text_without]

end

/-- Nodes that are comments without children and without a role. -/
structure BareComments (t : SyntaxTree) (removed : Nat → Bool) : Prop where
  kind : ∀ n, removed n → t.kind n = .comment
  children : ∀ n, removed n → t.children n = []
  field : ∀ n, removed n → t.field n = none

/-- A `raise` statement whose first child that is neither one of its leading `raise` keywords nor a
comment is not a `raise` keyword. -/
def RaisesOnce (t : SyntaxTree) (statement : Nat) : Prop :=
  ∀ c ∈ ((t.children statement).dropWhile (t.isKeyword · "raise")).find? (t.kind · != .comment),
    ¬ t.isKeyword c "raise"

instance (t : SyntaxTree) (statement : Nat) : Decidable (t.RaisesOnce statement) :=
  inferInstanceAs (Decidable (∀ c ∈ ((t.children statement).dropWhile
    (t.isKeyword · "raise")).find? (t.kind · != .comment), ¬ t.isKeyword c "raise"))

namespace BareComments

variable {t : SyntaxTree} {removed : Nat → Bool} (h : t.BareComments removed)

include h

/-- A node whose kind is not that of comments is kept. -/
theorem keeps {n : Nat} (hn : t.kind n ≠ .comment) : !removed n := by
  cases hremoved : removed n with
  | false => rfl
  | true => exact absurd (h.kind n hremoved) hn

/-- Comments fill no role, so the child in a role is found without them. -/
theorem childByField_without (n : Nat) (f : Field) :
    (t.without removed).childByField n f = t.childByField n f := by
  unfold childByField
  simp only [children_without, field_without]
  refine find?_filter_of_imp ?_ _
  intro c hc
  cases hremoved : removed c with
  | false => rfl
  | true => simp [h.field c hremoved] at hc

/-- A child of a kind other than comment is found without comments. -/
theorem find?_children_without (test : Kind → Bool) (htest : test .comment = false) (n : Nat) :
    ((t.without removed).children n).find? (fun c => test ((t.without removed).kind c)) =
      (t.children n).find? fun c => test (t.kind c) := by
  simp only [children_without, kind_without]
  refine find?_filter_of_imp ?_ _
  intro c hc
  refine h.keeps ?_
  rintro hcomment
  simp [hcomment, htest] at hc

/-- What is below a node is what was there, without the nodes taken out. -/
theorem tail_descendants_without (n : Nat) :
    ((t.without removed).descendants n).tail = (t.descendants n).tail.filter (!removed ·) := by
  induction n using induction_on_children t with
  | h n ih =>
    rw [tail_descendants, tail_descendants, children_without, List.filter_flatMap]
    refine flatMap_filter _ ?_ ?_
    · intro c hc hkept
      rw [descendants_eq, descendants_eq t, List.filter_cons_of_pos (p := (!removed ·)) hkept,
        ← tail_descendants, ← tail_descendants, ih c hc]
    · intro c _ hdropped
      have hremoved : removed c := by simpa using hdropped
      rw [descendants_eq, h.children c hremoved]
      simp [hremoved]

/-- A scan that does not look for comments finds the same nodes. -/
theorem scopeNodes_without {test : Kind → Bool} (htest : test .comment = false) (n : Nat) :
    scopeNodes (t.without removed) test n = scopeNodes t test n := by
  induction n using induction_on_children t with
  | h n ih =>
    rw [scopeNodes_eq, scopeNodes_eq t, children_without]
    simp only [kind_without]
    refine flatMap_filter _ ?_ ?_
    · intro c hc _
      rw [ih c hc]
    · intro c _ hdropped
      have hcomment := h.kind c (by simpa using hdropped)
      simp [hcomment, htest, Kind.isStatementContainer]

/-! ### Signatures -/

/-- The text in a role is the same without comments. -/
theorem fieldText_without (n : Nat) (f : Field) :
    fieldText (t.without removed) n f = fieldText t n f := by
  unfold fieldText
  rw [h.childByField_without]
  cases t.childByField n f <;> simp

/-- The name of a parameter is the same without comments. -/
theorem parameterName_without (p : Nat) :
    parameterName (t.without removed) p = parameterName t p := by
  have hinside : (((t.without removed).descendants p).drop 1).find? (t.kind · == .identifier) =
      ((t.descendants p).drop 1).find? (t.kind · == .identifier) := by
    rw [List.drop_one, List.drop_one, h.tail_descendants_without]
    refine find?_filter_of_imp ?_ _
    intro c hc
    exact h.keeps (by simp [beq_iff_eq.1 hc])
  unfold parameterName
  simp only [h.childByField_without, kind_without, text_without, hinside]

/-- The entries of a parameter list are the same without comments. -/
theorem parametersOf_without (list : Nat) :
    parametersOf (t.without removed) list = parametersOf t list := by
  have hentries : ((t.without removed).children list).filter
      (fun c => (t.without removed).kind c == .parameter) =
      (t.children list).filter fun c => t.kind c == .parameter := by
    simp only [children_without, kind_without, List.filter_filter]
    refine List.filter_congr fun c _ => ?_
    cases hc : t.kind c == .parameter with
    | false => rfl
    | true => exact h.keeps (by simp [beq_iff_eq.1 hc])
  unfold parametersOf
  rw [hentries]
  refine List.map_congr_left fun p _ => ?_
  unfold parameterOf
  rw [h.parameterName_without, h.fieldText_without, h.fieldText_without]

/-- The nodes of a return annotation are the same without comments. -/
theorem returnNodes_without (function : Nat) :
    returnNodes (t.without removed) function = returnNodes t function := by
  have hdelimiter : ∀ token c, t.isOperator c token → !removed c := by
    intro token c hc
    have hkind : t.kind c = .operator := beq_iff_eq.1 (Bool.and_eq_true_iff.1 hc).1
    exact h.keeps (by simp [hkind])
  unfold returnNodes
  simp only [children_without, isOperator_without, kind_without]
  rw [between?_filter (hdelimiter "->") (hdelimiter ":"), Option.map_map]
  congr 1
  funext nodes
  simp only [Function.comp_apply, List.filter_filter]
  refine List.filter_congr fun c _ => ?_
  cases hc : t.kind c != .comment with
  | false => rfl
  | true => exact h.keeps (bne_iff_ne.1 hc)

/-- The return annotation is the same without comments. -/
theorem returnHint_without (function : Nat) :
    returnHint (t.without removed) function = returnHint t function := by
  unfold returnHint
  rw [h.returnNodes_without]
  split
  · next hint heq => simp only [text_without]
  · rfl

/-- A `raise` statement that raises once raises the same. -/
theorem raisedNode_without {statement : Nat} (hraise : t.RaisesOnce statement) :
    raisedNode (t.without removed) statement = raisedNode t statement := by
  have hkeyword : ∀ word c, t.isKeyword c word → t.kind c ≠ .comment := by
    intro word c hc hcomment
    simp [isKeyword, hcomment] at hc
  have hcode : ∀ c, (t.kind c != .comment) = true → (!removed c) = true :=
    fun c hc => h.keeps (bne_iff_ne.1 hc)
  have hcomment : ∀ c, ¬ (t.kind c != .comment) = true → ¬ t.isKeyword c "raise" = true :=
    fun c hc hraise => hc (bne_iff_ne.2 (hkeyword "raise" c hraise))
  unfold raisedNode
  simp only [children_without, isKeyword_without, kind_without]
  rw [dropWhile_filter_of_find? hcode hcomment (fun c hc => h.keeps (hkeyword "raise" c hc)) _
      hraise,
    takeWhile_filter_of_imp fun c hc => h.keeps (hkeyword "from" c hc)]
  exact find?_filter_of_imp (fun c hc => hcode c (Bool.and_eq_true_iff.1 hc).1) _

/-- A statement with one `raise` names the same exception without comments. -/
theorem raisedType_without {statement : Nat} (hraise : t.RaisesOnce statement) :
    raisedType (t.without removed) statement = raisedType t statement := by
  unfold raisedType
  rw [h.raisedNode_without hraise]
  simp only [kind_without, h.childByField_without, text_without]

/-- The exceptions of a scope are the same without comments, if every statement has one `raise`. -/
theorem raisedTypes_without (hraises : ∀ r, t.kind r = .raiseStatement → t.RaisesOnce r)
    (scope : Nat) : raisedTypes (t.without removed) scope = raisedTypes t scope := by
  have hscan : scopeRaises (t.without removed) scope = scopeRaises t scope := by
    rw [scopeRaises_eq, scopeRaises_eq, h.scopeNodes_without rfl]
  unfold raisedTypes
  rw [hscan]
  refine List.filterMap_congr fun r hr => h.raisedType_without (hraises r ?_)
  rw [scopeRaises_eq] at hr
  exact beq_iff_eq.1 (test_of_mem_scopeNodes hr)

end BareComments

end Syntax.SyntaxTree

/-! ## Definitions -/

namespace Definition

/-- A definition with some nodes taken out of its tree. -/
def without (d : Definition) (removed : Nat → Bool) : Definition :=
  { d with tree := d.tree.without removed }

/-- The same nodes are definitions without comments. -/
theorem ofNode?_without (t : SyntaxTree) (removed : Nat → Bool) (n : Nat) :
    ofNode? (t.without removed) n = (ofNode? t n).map (·.without removed) := by
  unfold ofNode?
  rw [kind_without]
  split <;> rfl

variable {d : Definition} {removed : Nat → Bool}

/-- A definition has the same lines after removing nodes. -/
theorem span_without (d : Definition) (removed : Nat → Bool) :
    (d.without removed).span = d.span :=
  SyntaxTree.span_without d.tree removed d.id

section

variable (h : d.tree.BareComments removed)

include h

/-- A definition has the same name without comments. -/
theorem name_without : (d.without removed).name = d.name :=
  congrArg (·.getD "") (h.fieldText_without d.id .name)

/-- A definition has the same body without comments. -/
theorem body_without : (d.without removed).body = d.body :=
  h.childByField_without d.id .body

/-- A definition has the same parameter list without comments. -/
theorem parameterList_without : (d.without removed).parameterList = d.parameterList :=
  h.find?_children_without (· == .parameters) rfl d.id

/-- The signature is the same, or the error is. -/
theorem signature_without (hraises : ∀ r, d.tree.kind r = .raiseStatement → d.tree.RaisesOnce r) :
    (d.without removed).signature = d.signature := by
  have htypes : raisedTypes (d.without removed).tree = raisedTypes d.tree :=
    funext fun b => h.raisedTypes_without hraises b
  have hparams : parametersOf (d.without removed).tree = parametersOf d.tree :=
    funext fun list => h.parametersOf_without list
  have hhint : returnHint (d.without removed).tree (d.without removed).id =
      returnHint d.tree d.id := h.returnHint_without d.id
  unfold signature
  rw [parameterList_without h, name_without h, span_without, body_without h, htypes, hparams, hhint]

end

end Definition

/-- A scope has the same definitions without comments. -/
theorem scopeDefinitions_without {t : SyntaxTree} {removed : Nat → Bool}
    (h : t.BareComments removed) (scope : Nat) :
    scopeDefinitions (t.without removed) scope =
      (scopeDefinitions t scope).map (·.without removed) := by
  rw [scopeDefinitions_eq, scopeDefinitions_eq, h.scopeNodes_without rfl, List.map_filterMap]
  simp only [Definition.ofNode?_without]

/-- What is nested in a definition is the same. -/
theorem Definition.nested_without {d : Definition} {removed : Nat → Bool}
    (h : d.tree.BareComments removed) :
    (d.without removed).nested = d.nested.map (·.without removed) := by
  unfold nested
  rw [body_without h]
  cases d.body with
  | none => rfl
  | some b => exact scopeDefinitions_without h b

/-! ## Resolution -/

section

variable {removed : Nat → Bool} {line : Nat}

/-- Narrowing stops where no nested definition has the line. -/
theorem narrow_of_nil {d : Definition} (h : containing line d.nested = []) :
    narrow line d = (d, []) := by
  rw [narrow]
  split
  · rfl
  · next heq => rw [h] at heq; cases heq

/-- Narrowing goes on into the first nested definition that has the line. -/
theorem narrow_of_cons {d inner : Definition} {others : List Definition}
    (h : containing line d.nested = inner :: others) :
    narrow line d =
      ((narrow line inner).1, enteringEvents line inner others ++ (narrow line inner).2) := by
  rw [narrow]
  split
  · next heq => rw [h] at heq; cases heq
  · next heq =>
    rw [h] at heq
    obtain ⟨rfl, rfl⟩ := List.cons.inj heq
    rfl

/-- The same definitions have a line without comments. -/
theorem containing_without (line : Nat) (removed : Nat → Bool) (ds : List Definition) :
    containing line (ds.map (·.without removed)) =
      (containing line ds).map (·.without removed) := by
  have hcontains : ∀ d : Definition, (d.without removed).contains line = d.contains line := by
    intro d
    rw [Definition.contains, Definition.contains, Definition.span_without]
  unfold containing
  rw [List.filter_map]
  simp only [Function.comp_def, hcontains]

/-- The events of going into a definition are the same. -/
theorem enteringEvents_without {d : Definition} {others : List Definition}
    (h : ∀ e ∈ d :: others, e.tree.BareComments removed) :
    enteringEvents line (d.without removed) (others.map (·.without removed)) =
      enteringEvents line d others := by
  have hname := Definition.name_without (h d List.mem_cons_self)
  unfold enteringEvents
  rw [hname, Definition.span_without]
  cases others with
  | nil => rfl
  | cons other rest =>
    have hother := Definition.name_without (h other (.tail d List.mem_cons_self))
    simp [hother]

/-- Narrowing ends at the same definition and tells the same. -/
theorem narrow_without {d : Definition} (h : d.tree.BareComments removed) :
    narrow line (d.without removed) = ((narrow line d).1.without removed, (narrow line d).2) := by
  fun_induction narrow line d with
  | case1 d hnone =>
    refine narrow_of_nil ?_
    rw [Definition.nested_without h, containing_without, hnone]
    rfl
  | case2 d inner others hsome found events heq ih =>
    have hscope : ∀ e ∈ inner :: others, e.tree.BareComments removed := by
      intro e he
      rw [← hsome] at he
      rwa [(Definition.mem_nested (List.mem_filter.1 he).1).1]
    have hinner : containing line (d.without removed).nested =
        inner.without removed :: others.map (·.without removed) := by
      rw [Definition.nested_without h, containing_without, hsome, List.map_cons]
    rw [narrow_of_cons hinner, ih (hscope inner List.mem_cons_self), heq,
      enteringEvents_without hscope]

/-- Resolution ends at the same definition and tells the same. -/
theorem resolveEnclosing_without {ds : List Definition}
    (h : ∀ d ∈ ds, d.tree.BareComments removed) :
    resolveEnclosing line (ds.map (·.without removed)) =
      ((resolveEnclosing line ds).1.map (·.without removed), (resolveEnclosing line ds).2) := by
  unfold resolveEnclosing
  rw [containing_without]
  cases hfound : containing line ds with
  | nil => rfl
  | cons d others =>
    have hscope : ∀ e ∈ d :: others, e.tree.BareComments removed := by
      intro e he
      rw [← hfound] at he
      exact h e (List.mem_filter.1 he).1
    simp only [List.map_cons, narrow_without (hscope d List.mem_cons_self),
      enteringEvents_without hscope, Option.map_some]

end

/-! ## All that is read -/

/-- A place with a kind other than that of errors belongs to the tree. -/
theorem Syntax.SyntaxTree.lt_size_of_kind {t : SyntaxTree} {n : Nat} (h : t.kind n ≠ .error) :
    n < t.size := by
  by_contra hle
  have hnone : t.nodes[n]? = none := Array.getElem?_eq_none (Nat.le_of_not_lt hle)
  simp [kind, hnone] at h

/-- Comments are transparent.  Take a tree in which comments have neither children nor a role, and
in which the first child of a `raise` statement that comes after its leading `raise` keywords and is
not a comment is not one more such keyword.  Whatever comments are taken out of it, the definitions
of the file and those nested in any definition are the same, with the same names and lines and in
the same order; resolution at any line ends at the same definition and tells the same; and the
signature of any definition, or the error in place of it, is the same. -/
theorem comments_are_transparent (t : SyntaxTree) (removed : Nat → Bool)
    (hremoved : ∀ n, removed n → t.kind n = .comment)
    (hbare : ∀ n < t.size, t.kind n = .comment → t.children n = [] ∧ t.field n = none)
    (hraises : ∀ r < t.size, t.kind r = .raiseStatement → t.RaisesOnce r) :
    topLevelDefinitions (t.without removed) =
      (topLevelDefinitions t).map (·.without removed) ∧
    (∀ line, resolveEnclosing line (topLevelDefinitions (t.without removed)) =
      ((resolveEnclosing line (topLevelDefinitions t)).1.map (·.without removed),
        (resolveEnclosing line (topLevelDefinitions t)).2)) ∧
    ∀ d : Definition, d.tree = t →
      (d.without removed).nested = d.nested.map (·.without removed) ∧
      (d.without removed).name = d.name ∧ (d.without removed).span = d.span ∧
      (d.without removed).signature = d.signature := by
  have hcomments : t.BareComments removed := by
    have hall : ∀ n, removed n → t.children n = [] ∧ t.field n = none := by
      intro n hn
      have hkind := hremoved n hn
      exact hbare n (lt_size_of_kind (by simp [hkind])) hkind
    exact ⟨hremoved, fun n hn => (hall n hn).1, fun n hn => (hall n hn).2⟩
  have htop : topLevelDefinitions (t.without removed) =
      (topLevelDefinitions t).map (·.without removed) := scopeDefinitions_without hcomments root
  refine ⟨htop, ?_, ?_⟩
  · intro line
    rw [htop]
    refine resolveEnclosing_without ?_
    intro d hd
    rwa [(mem_scopeDefinitions hd).1]
  · rintro d rfl
    refine ⟨d.nested_without hcomments, d.name_without hcomments, d.span_without removed, ?_⟩
    refine d.signature_without hcomments ?_
    intro r hr
    exact hraises r (lt_size_of_kind (by simp [hr])) hr

/-- The text of a function with comments wherever its parts are looked for. -/
def commentedText : String := "def f(a, #x\n b) -> #y\n int:\n #z\n raise #w\n E\n"

/-- The tree of this text. -/
def commentedFile : ConcreteTree :=
  let list := .named "parameters"
    [.leaf "(" false 0 5 5 6, .leaf "identifier" true 0 6 6 7, .leaf "," false 0 7 7 8,
      .leaf "comment" true 0 9 9 11, .leaf "identifier" true 1 1 13 14, .leaf ")" false 1 2 14 15]
    (some "parameters") ⟨0, 5⟩ ⟨1, 3⟩ ⟨5, 15⟩
  let raise := .named "raise_statement"
    [.leaf "raise" false 4 1 33 38, .leaf "comment" true 4 7 39 41,
      .leaf "identifier" true 5 1 43 44]
    none ⟨4, 1⟩ ⟨5, 2⟩ ⟨33, 44⟩
  let function := .named "function_definition"
    [.leaf "def" false 0 0 0 3, .leaf "identifier" true 0 4 4 5 (some "name"), list,
      .leaf "->" false 1 4 16 18, .leaf "comment" true 1 7 19 21,
      .named "type" [.leaf "identifier" true 2 1 23 26] (some "return_type") ⟨2, 1⟩ ⟨2, 4⟩
        ⟨23, 26⟩,
      .leaf ":" false 2 4 26 27, .leaf "comment" true 3 1 29 31,
      .named "block" [raise] (some "body") ⟨4, 1⟩ ⟨5, 2⟩ ⟨33, 44⟩]
    none ⟨0, 0⟩ ⟨5, 2⟩ ⟨0, 44⟩
  .named "module" [function] none ⟨0, 0⟩ ⟨6, 0⟩ ⟨0, 45⟩

/-- The four comments of this text make no difference. -/
theorem commentedFile_transparent :
    let t := lower commentedText commentedFile
    let removed := fun n => t.kind n == .comment
    ((∀ n < t.size, t.kind n = .comment → t.children n = [] ∧ t.field n = none) ∧
      (∀ r < t.size, t.kind r = .raiseStatement → t.RaisesOnce r) ∧
      ((t.descendants root).filter removed).length = 4) ∧
    ∀ d : Definition, d.tree = t → (d.without removed).signature = d.signature := by
  intro t removed
  have hbare : ∀ n < t.size, t.kind n = .comment → t.children n = [] ∧ t.field n = none := by
    decide +kernel
  have hraises : ∀ r < t.size, t.kind r = .raiseStatement → t.RaisesOnce r := by
    decide +kernel
  obtain ⟨-, -, hread⟩ := comments_are_transparent t removed (fun n hn => beq_iff_eq.1 hn) hbare
    hraises
  exact ⟨⟨hbare, hraises, by decide +kernel⟩, fun d hd => (hread d hd).2.2.2⟩

/-- The text of a function that raises with a comment between two `raise` keywords. -/
def repeatedText : String := "def f():\n  raise #c\n  raise E\n"

/-- The tree that has both keywords in one statement. -/
def repeatedFile : ConcreteTree :=
  let raise := .named "raise_statement"
    [.leaf "raise" false 1 2 11 16, .leaf "comment" true 1 8 17 19,
      .leaf "raise" false 2 2 22 27, .leaf "identifier" true 2 8 28 29]
    none ⟨1, 2⟩ ⟨2, 9⟩ ⟨11, 29⟩
  let function := .named "function_definition"
    [.leaf "identifier" true 0 4 4 5 (some "name"),
      .named "parameters" [] none ⟨0, 5⟩ ⟨0, 7⟩ ⟨5, 7⟩,
      .named "block" [raise] (some "body") ⟨1, 2⟩ ⟨2, 9⟩ ⟨11, 29⟩]
    none ⟨0, 0⟩ ⟨2, 9⟩ ⟨0, 29⟩
  .named "module" [function] none ⟨0, 0⟩ ⟨3, 0⟩ ⟨0, 30⟩

/-- In this tree comments are bare and the `raise` statement starts with its keyword, but without
the comment the second keyword is passed over like the first, so what is raised is not the same. -/
theorem repeated_raise_is_misread :
    let t := lower repeatedText repeatedFile
    let removed := fun n => t.kind n == .comment
    (∀ n < t.size, t.kind n = .comment → t.children n = [] ∧ t.field n = none) ∧
    (∀ r < t.size, t.kind r = .raiseStatement →
      ∃ c ∈ (t.children r).head?, t.isKeyword c "raise") ∧
    ∃ d ∈ topLevelDefinitions t, d.kind = .function ∧
      d.signature.map (·.raiseTypes) = .ok ["raise"] ∧
      (d.without removed).signature.map (·.raiseTypes) = .ok ["E"] := by
  decide +kernel

end DocSignature
