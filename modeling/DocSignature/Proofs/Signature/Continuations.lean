import DocSignature.Proofs.Signature.Reading

/-!
# Line continuations

A backslash at the end of a line lets the line go on in the next one.  The grammar lets such a
continuation stand between any two tokens, and the tree shows it there as a node of its own.
`ConcreteTree.joined` is the tree without these nodes.  A continuation is an expression by its kind,
so it counts where expressions are counted: between `->` and `:`, and after `raise`.  Everywhere
else it makes no difference to a signature.
-/

set_option autoImplicit false

namespace DocSignature

open Syntax Syntax.SyntaxTree Syntax.ConcreteTree

section

variable {α : Type} {keep : α → Bool}

/-- What comes before the end is shortened like the whole list if what ends it is kept. -/
theorem takeWhile_filter_of_imp {ends : α → Bool} (h : ∀ x, ends x → keep x) (xs : List α) :
    (xs.filter keep).takeWhile (!ends ·) = (xs.takeWhile (!ends ·)).filter keep := by
  induction xs with
  | nil => rfl
  | cons x xs ih =>
    cases hend : ends x with
    | true => simp [hend, h x hend]
    | false => cases hkeep : keep x <;> simp [hend, hkeep, ih]

/-- A stretch loses what is dropped from the list, as long as its ends are kept. -/
theorem between?_filter {opens closes : α → Bool} (hopens : ∀ x, opens x → keep x)
    (hcloses : ∀ x, closes x → keep x) (xs : List α) :
    between? opens closes (xs.filter keep) =
      (between? opens closes xs).map (List.filter keep) := by
  have hany : ∀ l : List α, (l.filter keep).any closes = l.any closes := by
    intro l
    rw [List.any_filter]
    congr 1
    funext x
    cases hx : closes x with
    | false => simp
    | true => simp [hcloses x hx]
  induction xs with
  | nil => rfl
  | cons x xs ih =>
    cases hx : opens x with
    | true =>
      rw [List.filter_cons_of_pos (hopens x hx), between?_cons, between?_cons, hany,
        takeWhile_filter_of_imp hcloses]
      simp only [hx, if_true]
      split <;> rfl
    | false =>
      rw [between?_cons opens closes x xs]
      cases hkeep : keep x with
      | true => simp [hkeep, between?_cons, hx, ih]
      | false => simp [hkeep, hx, ih]

/-- If nothing is dropped right after the members that are passed over, the search goes on from
the same place. -/
theorem dropWhile_filter {skips wanted : α → Bool} (xs : List α)
    (h : ∀ x ∈ (xs.dropWhile skips).takeWhile fun x => !keep x || !wanted x, keep x) :
    (xs.filter keep).dropWhile skips = (xs.dropWhile skips).filter keep := by
  induction xs with
  | nil => rfl
  | cons x xs ih =>
    cases hskip : skips x with
    | true =>
      rw [List.dropWhile_cons_of_pos hskip] at h ⊢
      cases hkeep : keep x <;> simp [hkeep, hskip, ih h]
    | false =>
      have hkeep : keep x := by
        by_contra hdrop
        exact hdrop (h x (by simp [hskip, hdrop]))
      simp [hkeep, hskip]

/-- If nothing is dropped before the first member that is wanted, the same member is found. -/
theorem find?_takeWhile_filter {ends wanted : α → Bool} (xs : List α)
    (h : ∀ x ∈ xs.takeWhile fun x => !keep x || !wanted x, keep x) :
    ((xs.filter keep).takeWhile (!ends ·)).find? wanted =
      (xs.takeWhile (!ends ·)).find? wanted := by
  induction xs with
  | nil => rfl
  | cons x xs ih =>
    have hkeep : keep x := by
      by_contra hdrop
      exact hdrop (h x (by simp [hdrop]))
    rw [List.filter_cons_of_pos hkeep]
    cases hend : ends x with
    | true => simp [hend]
    | false =>
      cases hwanted : wanted x with
      | true => simp [hend, hwanted]
      | false =>
        have hrest := ih fun y hy => h y (by simp [hwanted, hy])
        simp [hend, hwanted, hrest]

/-- Otherwise a member to be dropped is found, if such members are wanted and end nothing. -/
theorem exists_find?_takeWhile {ends wanted : α → Bool} (xs : List α)
    (hdropped : ∀ x, ¬ keep x → wanted x ∧ ¬ ends x) (hunwanted : ∀ x, ¬ wanted x → ¬ ends x)
    (h : ∃ x ∈ xs.takeWhile fun x => !keep x || !wanted x, ¬ keep x) :
    ∃ x ∈ xs.takeWhile fun x => !keep x || !wanted x,
      ¬ keep x ∧ (xs.takeWhile (!ends ·)).find? wanted = some x := by
  induction xs with
  | nil => simp at h
  | cons x xs ih =>
    by_cases hkeep : keep x
    · by_cases hwanted : wanted x
      · simp [hkeep, hwanted] at h
      · have hend := hunwanted x hwanted
        simp only [Bool.not_eq_true] at hwanted hend
        simp only [List.takeWhile_cons, hkeep, hwanted, hend] at h ih ⊢
        obtain ⟨y, hy, hdrop⟩ := h
        have hne : y ≠ x := by
          rintro rfl
          exact hdrop hkeep
        obtain ⟨z, hz, hzdrop, hfind⟩ := ih ⟨y, by simpa [hne] using hy, hdrop⟩
        exact ⟨z, by simpa using .inr hz, hzdrop, by simpa [hwanted] using hfind⟩
    · obtain ⟨hwanted, hend⟩ := hdropped x hkeep
      exact ⟨x, by simp [hkeep], hkeep, by simp [hwanted, hend]⟩

/-- A kept member of a list comes after as many kept ones as before. -/
theorem getElem?_filter_take {l : List α} {k : Nat} {a : α} (h : l[k]? = some a) (ha : keep a) :
    (l.filter keep)[((l.take k).filter keep).length]? = some a := by
  induction l generalizing k with
  | nil => simp at h
  | cons b l ih =>
    cases k with
    | zero =>
      obtain rfl := Option.some.inj h
      simp [ha]
    | succ k =>
      have hrest := ih (by simpa using h)
      cases hb : keep b <;> simp [hb, hrest]

end

namespace Syntax.ConcreteTree

/-- Whether a tree is a line continuation among other trees. -/
def isContinuation (c : ConcreteTree) : Bool :=
  c.isExtra && c.info.isOneOf ["line_continuation"]

mutual

/-- A tree without the line continuations below it. -/
def joined : ConcreteTree → ConcreteTree
  | node info cs => node info (joinedAll cs)

/-- Some trees without line continuations, neither among nor below them. -/
def joinedAll : List ConcreteTree → List ConcreteTree
  | [] => []
  | c :: cs => if c.isContinuation then joinedAll cs else c.joined :: joinedAll cs

end

/-- The path in the tree without line continuations that leads to the node at the end of a path. -/
def joinedPath (c : ConcreteTree) : Path → Path
  | [] => []
  | k :: p => ((c.children.take k).filter (!·.isContinuation)).length ::
      (c.children[k]?.elim [] fun d => d.joinedPath p)

/-- Joining a row of trees leaves continuations out and joins the others. -/
theorem joinedAll_eq (cs : List ConcreteTree) :
    joinedAll cs = (cs.filter (!·.isContinuation)).map joined := by
  induction cs with
  | nil => rfl
  | cons c cs ih =>
    rw [joinedAll, ih]
    cases hc : c.isContinuation <;> simp [hc]

/-- Joining changes nothing about the node itself. -/
theorem info_joined (c : ConcreteTree) : c.joined.info = c.info := by
  obtain ⟨info, cs⟩ := c
  rfl

/-- The children of a joined tree are those that are no continuations, joined. -/
theorem children_joined (c : ConcreteTree) :
    c.joined.children = (c.children.filter (!·.isContinuation)).map joined := by
  obtain ⟨info, cs⟩ := c
  rw [joined, children_node, children_node, joinedAll_eq]

/-- Joining changes no text. -/
theorem text_joined (source : String) (c : ConcreteTree) :
    c.joined.text source = c.text source := by
  rw [text, text, info_joined]

/-- Joining changes no kind. -/
theorem kind_joined (c : ConcreteTree) : c.joined.kind = c.kind := by
  rw [kind, kind, info_joined]

/-! ## What a continuation is -/

/-- A continuation is an extra with the name of one. -/
theorem isContinuation_iff {c : ConcreteTree} :
    c.isContinuation ↔ c.isExtra ∧ c.info.isOneOf ["line_continuation"] :=
  Bool.and_eq_true_iff

section

variable {c : ConcreteTree} (h : c.isContinuation)

include h

/-- A continuation is taken for an expression. -/
theorem kind_of_isContinuation : c.kind = .expression := by
  have hname := (isContinuation_iff.1 h).2
  exact ConcreteNode.forall_classify_outside (P := (· = .expression)) hname (by simp) (by decide)

/-- A continuation has no children. -/
theorem children_of_isContinuation : c.children = [] := by
  have hextra := (isContinuation_iff.1 h).1
  unfold isExtra at hextra
  simp only [Bool.and_eq_true, List.isEmpty_iff] at hextra
  exact hextra.2

/-- A continuation fills no role. -/
theorem fills_of_isContinuation (f : Field) : c.info.fills f = false := by
  exact ConcreteNode.fills_eq_false (field_of_isExtra (isContinuation_iff.1 h).1) f

/-- A continuation has no other name. -/
theorem isOneOf_of_isContinuation {names : List String}
    (hnames : "line_continuation" ∉ names) : c.info.isOneOf names = false := by
  have hname := (isContinuation_iff.1 h).2
  exact ConcreteNode.isOneOf_eq_false_of_disjoint (by simpa using hnames) hname

end

/-- A test that no continuation passes finds the same child with and without them. -/
theorem find?_children_joined (c : ConcreteTree) (test : ConcreteNode → Bool)
    (h : ∀ d : ConcreteTree, d.isContinuation → test d.info = false) :
    c.joined.children.find? (fun d => test d.info) =
      (c.children.find? fun d => test d.info).map joined := by
  rw [children_joined, List.find?_map, List.find?_filter]
  simp only [Function.comp_def, info_joined]
  congr 2
  funext d
  cases hd : d.isContinuation with
  | false => simp
  | true => simp [h d hd]

/-- The child in a role is found in the joined tree as well. -/
theorem find?_fills_joined (c : ConcreteTree) (f : Field) :
    c.joined.children.find? (·.info.fills f) = (c.children.find? (·.info.fills f)).map joined := by
  exact c.find?_children_joined (·.fills f) fun d hd => fills_of_isContinuation hd f

/-- The node at the end of a path, without the continuations below it, stands at the end of the
path that leads to it in the tree without continuations. -/
theorem subtree?_joinedPath {c s : ConcreteTree} {p : Path} (h : c.subtree? p = some s)
    (hs : ¬ s.isContinuation) : c.joined.subtree? (c.joinedPath p) = some s.joined := by
  induction p generalizing c with
  | nil =>
    obtain rfl := Option.some.inj h
    rfl
  | cons k p ih =>
    obtain ⟨d, hd, hsub⟩ := Option.bind_eq_some_iff.1 h
    -- nothing stands below a continuation, so the path does not lead through one
    have hnot : ¬ d.isContinuation := by
      intro hcont
      cases p with
      | nil =>
        obtain rfl := Option.some.inj hsub
        exact hs hcont
      | cons j q => simp [subtree?, children_of_isContinuation hcont] at hsub
    have hkept : (c.children.filter (!·.isContinuation))[((c.children.take k).filter
        (!·.isContinuation)).length]? = some d :=
      getElem?_filter_take hd (by simpa using hnot)
    have hchild : c.joined.children[((c.children.take k).filter
        (!·.isContinuation)).length]? = some d.joined := by
      rw [children_joined, List.getElem?_map, hkept, Option.map_some]
    rw [joinedPath, hd, Option.elim_some, subtree?, hchild, Option.bind_some]
    exact ih hsub

/-- A joined tree has a parameter list just if the tree has one. -/
theorem hasParameters_joined (c : ConcreteTree) : c.joined.hasParameters = c.hasParameters := by
  unfold hasParameters
  rw [children_joined, List.any_map, List.any_filter]
  simp only [Function.comp_def, info_joined]
  congr 1
  funext d
  cases hd : d.isContinuation with
  | false => simp
  | true =>
    have hnot : d.info.isOneOf NamedKinds.parameterLists.names = false :=
      isOneOf_of_isContinuation hd (by decide)
    simp [hnot]

/-- A joined definition declares the same name. -/
theorem declaredName_joined (source : String) (c : ConcreteTree) :
    c.joined.declaredName source = c.declaredName source := by
  rw [declaredName, declaredName, find?_fills_joined, Option.map_map]
  simp only [Function.comp_def, text_joined]

/-! ## Return annotations -/

/-- Joining makes no node a different operator. -/
theorem isOperator_joined (source : String) (c : ConcreteTree) (token : String) :
    c.joined.isOperator source token = c.isOperator source token := by
  rw [isOperator, isOperator, kind_joined, text_joined]

/-- Joining makes no node a different keyword. -/
theorem isKeyword_joined (source : String) (c : ConcreteTree) (word : String) :
    c.joined.isKeyword source word = c.isKeyword source word := by
  rw [isKeyword, isKeyword, kind_joined, text_joined]

/-- Between `->` and `:` stands what stood there, without continuations. -/
theorem annotation?_joined (source : String) (c : ConcreteTree) :
    c.joined.annotation? source = (c.annotation? source).map fun inside =>
      (inside.filter (!·.isContinuation)).map joined := by
  have hkept : ∀ token (d : ConcreteTree), d.isOperator source token → !d.isContinuation := by
    intro token d hd
    cases hcont : d.isContinuation with
    | false => rfl
    | true => simp [isOperator, kind_of_isContinuation hcont] at hd
  unfold annotation?
  rw [children_joined, between?_map]
  simp only [Function.comp_def, isOperator_joined]
  rw [between?_filter (hkept "->") (hkept ":"), Option.map_map]
  rfl

/-- Without continuations in it a return annotation is read off the joined tree as well. -/
theorem returnHint_joined {source : String} {c : ConcreteTree}
    (h : ∀ inside ∈ c.annotation? source, ∀ d ∈ inside, ¬ d.isContinuation) :
    c.joined.returnHint source = c.returnHint source := by
  unfold returnHint
  rw [annotation?_joined]
  cases hstretch : c.annotation? source with
  | none => rfl
  | some inside =>
    have hall : inside.filter (!·.isContinuation) = inside := by
      rw [List.filter_eq_self]
      intro d hd
      simpa using h inside hstretch d hd
    simp only [Option.map_some, hall, List.filter_map, Function.comp_def, kind_joined]
    generalize inside.filter _ = hints
    obtain _ | ⟨hint, _ | ⟨second, rest⟩⟩ := hints
    · rfl
    · exact congrArg some (text_joined source hint)
    · rfl

/-- With a continuation beside it a return annotation is lost, while the joined tree has it. -/
theorem returnHint_of_isContinuation {source : String} {c d hint : ConcreteTree}
    {inside : List ConcreteTree} (hstretch : c.annotation? source = some inside)
    (hd : d ∈ inside) (hcont : d.isContinuation)
    (hhint : inside.filter (fun e => !e.isContinuation && e.kind != .comment) = [hint]) :
    c.returnHint source = none ∧ c.joined.returnHint source = some (hint.text source) := by
  have hmem : hint ∈ inside.filter fun e => !e.isContinuation && e.kind != .comment := by
    rw [hhint]
    exact List.mem_singleton_self hint
  obtain ⟨hin, hkept⟩ := List.mem_filter.1 hmem
  have hne : d ≠ hint := by
    rintro rfl
    simp [hcont] at hkept
  have hdin : d ∈ inside.filter fun e => e.kind != .comment :=
    List.mem_filter.2 ⟨hd, by simp [kind_of_isContinuation hcont]⟩
  have hhintin : hint ∈ inside.filter fun e => e.kind != .comment :=
    List.mem_filter.2 ⟨hin, (Bool.and_eq_true_iff.1 hkept).2⟩
  constructor
  · unfold returnHint
    rw [hstretch, Option.map_some]
    split
    · next single hsingle =>
      -- the continuation and the annotation are two
      rw [Option.some.inj hsingle] at hdin hhintin
      have hsame := (List.mem_singleton.1 hdin).trans (List.mem_singleton.1 hhintin).symm
      exact absurd hsame hne
    · rfl
  · have hleft : (inside.filter (!·.isContinuation)).filter (fun e => e.kind != .comment) =
        [hint] := by
      rw [List.filter_filter, ← hhint]
      congr 1
      funext e
      exact Bool.and_comm _ _
    unfold returnHint
    rw [annotation?_joined, hstretch]
    simp only [Option.map_some, List.filter_map, Function.comp_def, kind_joined, hleft]
    exact congrArg some (text_joined source hint)

/-! ## Raised exceptions -/

/-- The comments, the punctuation and the continuations right after `raise`. -/
def afterRaise (source : String) (c : ConcreteTree) : List ConcreteTree :=
  (c.children.dropWhile (·.isKeyword source "raise")).takeWhile fun d =>
    d.isContinuation || (d.kind == .comment || d.kind == .operator)

/-- Joining does not change whether a node may be what is raised. -/
theorem mayBeRaised_joined (c : ConcreteTree) : c.joined.mayBeRaised = c.mayBeRaised := by
  rw [mayBeRaised, mayBeRaised, kind_joined]

/-- The nodes right after `raise` end with the first that is no continuation and may be raised. -/
theorem afterRaise_eq (source : String) (c : ConcreteTree) :
    c.afterRaise source =
      (c.children.dropWhile (·.isKeyword source "raise")).takeWhile fun d =>
        !(!d.isContinuation) || !d.mayBeRaised := by
  unfold afterRaise mayBeRaised
  congr 1
  funext d
  simp [bne]

/-- Without continuations before it the operand of a `raise` statement is found in the joined tree
as well. -/
theorem raised?_joined {source : String} {c : ConcreteTree}
    (h : ∀ d ∈ c.afterRaise source, ¬ d.isContinuation) :
    c.joined.raised? source = (c.raised? source).map joined := by
  rw [afterRaise_eq] at h
  have hkept : ∀ d ∈ (c.children.dropWhile (·.isKeyword source "raise")).takeWhile
      (fun d => !(!d.isContinuation) || !d.mayBeRaised), !d.isContinuation := by
    intro d hd
    simpa using h d hd
  unfold raised?
  rw [children_joined]
  simp only [List.dropWhile_map, List.takeWhile_map, List.find?_map, Function.comp_def,
    isKeyword_joined, mayBeRaised_joined]
  rw [dropWhile_filter _ hkept]
  exact congrArg (Option.map joined) (find?_takeWhile_filter _ hkept)

/-- The name of an exception has the same text in the joined tree. -/
theorem text_exceptionName_joined (source : String) (c : ConcreteTree) :
    c.joined.exceptionName.text source = c.exceptionName.text source := by
  unfold exceptionName
  rw [kind_joined]
  split
  · rw [find?_fills_joined]
    cases c.children.find? (·.info.fills .function) with
    | none => exact text_joined source c
    | some d => exact text_joined source d
  · exact text_joined source c

/-- Without continuations after `raise` a statement names the same exception in the joined tree. -/
theorem raisedText_joined {source : String} {c : ConcreteTree}
    (h : ∀ d ∈ c.afterRaise source, ¬ d.isContinuation) :
    c.joined.raisedText source = c.raisedText source := by
  rw [raisedText, raisedText, raised?_joined h, Option.map_map]
  simp only [Function.comp_def, text_exceptionName_joined]

/-- With a continuation before its operand a `raise` statement names a continuation. -/
theorem exists_raisedText_of_isContinuation {source : String} {c : ConcreteTree}
    (h : ∃ d ∈ c.afterRaise source, d.isContinuation) :
    ∃ d ∈ c.afterRaise source, d.isContinuation ∧ c.raisedText source = some (d.text source) := by
  rw [afterRaise_eq] at h ⊢
  have hcont : ∀ d : ConcreteTree, ¬ (!d.isContinuation) = true →
      d.mayBeRaised ∧ ¬ d.isKeyword source "from" := by
    intro d hd
    have hkind := kind_of_isContinuation (c := d) (by simpa using hd)
    simp [mayBeRaised, isKeyword, hkind]
  have hother : ∀ d : ConcreteTree, ¬ d.mayBeRaised → ¬ d.isKeyword source "from" := by
    intro d hd hfrom
    have hkind : d.kind = .keyword := beq_iff_eq.1 (Bool.and_eq_true_iff.1 hfrom).1
    simp [mayBeRaised, hkind] at hd
  obtain ⟨d, hd, hdcont, hfind⟩ := exists_find?_takeWhile _ hcont hother
    (h.imp fun d hd => ⟨hd.1, by simpa using hd.2⟩)
  have hdcont : d.isContinuation := by simpa using hdcont
  have hraised : c.raised? source = some d := hfind
  have hname : d.exceptionName = d := by simp [exceptionName, kind_of_isContinuation hdcont]
  exact ⟨d, hd, hdcont, by rw [raisedText, hraised, Option.map_some, hname]⟩

mutual

/-- The `raise` statements of a scope of the joined tree are those of the scope, joined. -/
theorem raisesIn_joined (c : ConcreteTree) : c.joined.raisesIn = c.raisesIn.map joined := by
  obtain ⟨info, cs⟩ := c
  rw [joined, raisesIn, raisesIn, raisesAmong_joinedAll]

/-- The `raise` statements of a joined row are the joined ones of the row. -/
theorem raisesAmong_joinedAll (cs : List ConcreteTree) :
    raisesAmong (joinedAll cs) = (raisesAmong cs).map joined := by
  cases cs with
  | nil => rfl
  | cons c cs =>
    rw [joinedAll, raisesAmong, List.map_append, ← raisesAmong_joinedAll cs]
    by_cases hc : c.isContinuation
    · have hraise : c.info.isRaise = false := isOneOf_of_isContinuation hc (by decide)
      have hcontainer : c.info.isContainer = false := isOneOf_of_isContinuation hc (by decide)
      simp [hc, hraise, hcontainer]
    · rw [if_neg hc, raisesAmong, info_joined, raisesIn_joined c]
      congr 1
      split
      · rfl
      · split <;> rfl

end

/-- The `raise` statements of a joined function are its own, joined. -/
theorem bodyRaises_joined (c : ConcreteTree) : c.joined.bodyRaises = c.bodyRaises.map joined := by
  unfold bodyRaises
  rw [find?_fills_joined]
  cases c.children.find? (·.info.fills .body) with
  | none => rfl
  | some body => exact raisesIn_joined body

/-- Without continuations after `raise` a function has the same exceptions in the joined tree. -/
theorem raiseTypes_joined {source : String} {c : ConcreteTree}
    (h : ∀ r ∈ c.bodyRaises, ∀ d ∈ r.afterRaise source, ¬ d.isContinuation) :
    c.joined.raiseTypes source = c.raiseTypes source := by
  rw [raiseTypes, raiseTypes, bodyRaises_joined, List.filterMap_map]
  exact List.filterMap_congr fun r hr => raisedText_joined (h r hr)

end Syntax.ConcreteTree

/-! ## Signatures -/

section

variable {source : String} {c s : ConcreteTree} {p : Path} {d : Definition}

/-- What the signature of a copied function says of its return and of what it raises. -/
theorem Definition.IsCopyAt.map_signature (h : IsCopyAt source c p s d)
    (hfunction : s.info.isOneOf NamedKinds.functions.names) :
    d.signature.map (fun sig => (sig.returnTypehint, sig.raiseTypes)) =
      if s.hasParameters then .ok (s.returnHint source, s.raiseTypes source)
      else .error (.missingParameters (s.declaredName source) s.info.span.start) := by
  have hheld := holds_lower_subtree source h.subtree
  have hkind : (lower source c).kind (c.place p) = .functionDefinition := by
    rw [hheld.kind]
    exact beq_iff_eq.1 ((NamedKinds.functions.test_classify _ _).trans hfunction)
  obtain ⟨tree, id, kind⟩ := d
  obtain rfl : tree = lower source c := h.tree_eq
  obtain rfl : id = c.place p := h.id_eq
  have hread := hheld.map_signature (by simp [hkind]) kind
  rwa [source_lower] at hread

/-- The return annotation of a definition is read off the concrete tree it copies. -/
theorem Definition.IsCopyAt.map_returnTypehint (h : IsCopyAt source c p s d)
    (hfunction : s.info.isOneOf NamedKinds.functions.names) :
    d.signature.map (·.returnTypehint) =
      if s.hasParameters then .ok (s.returnHint source)
      else .error (.missingParameters (s.declaredName source) s.info.span.start) := by
  calc d.signature.map (·.returnTypehint)
      = (d.signature.map fun sig => (sig.returnTypehint, sig.raiseTypes)).map (·.1) := by
        cases d.signature <;> rfl
    _ = _ := by
        rw [h.map_signature hfunction]
        split <;> rfl

/-- The exceptions of a definition are read off the concrete tree it copies. -/
theorem Definition.IsCopyAt.map_raiseTypes (h : IsCopyAt source c p s d)
    (hfunction : s.info.isOneOf NamedKinds.functions.names) :
    d.signature.map (·.raiseTypes) =
      if s.hasParameters then .ok (s.raiseTypes source)
      else .error (.missingParameters (s.declaredName source) s.info.span.start) := by
  calc d.signature.map (·.raiseTypes)
      = (d.signature.map fun sig => (sig.returnTypehint, sig.raiseTypes)).map (·.2) := by
        cases d.signature <;> rfl
    _ = _ := by
        rw [h.map_signature hfunction]
        split <;> rfl

/-- A signature has the annotation and the exceptions that are read off the tree. -/
theorem Definition.IsCopyAt.of_signature_eq_ok (h : IsCopyAt source c p s d)
    (hfunction : s.info.isOneOf NamedKinds.functions.names) {sig : Signature}
    (hsig : d.signature = .ok sig) :
    sig.returnTypehint = s.returnHint source ∧ sig.raiseTypes = s.raiseTypes source := by
  have hread := h.map_signature hfunction
  rw [hsig] at hread
  split at hread
  · exact Prod.mk.inj (Except.ok.inj hread)
  · cases hread

/-- A function has a copy in the tree and one in the joined tree. -/
theorem exists_isCopyAt_joined (source : String) (hpath : c.subtree? p = some s)
    (hfunction : s.info.isOneOf NamedKinds.functions.names) :
    ∃ d d', Definition.IsCopyAt source c p s d ∧
      Definition.IsCopyAt source c.joined (c.joinedPath p) s.joined d' := by
  have hdefinition : s.info.isDefinition := ConcreteNode.isOneOf_mono (by decide) hfunction
  have hnot : ¬ s.isContinuation := by
    intro hcont
    rw [isOneOf_of_isContinuation hcont (by decide)] at hfunction
    simp at hfunction
  obtain ⟨d, hd⟩ := Definition.exists_isCopyAt source hpath hdefinition
  obtain ⟨d', hd'⟩ := Definition.exists_isCopyAt source (subtree?_joinedPath hpath hnot)
    (by rwa [info_joined])
  exact ⟨d, d', hd, hd'⟩

end

/-- Line continuations make no difference to the return annotation and the raised exceptions of a
function, except in two places.  The return annotation is the same, and so is the error of a
function without a parameter list, for the tree without continuations if none stands between `->`
and `:`.  The raised exceptions are the same if none stands between a `raise` of the function and
its operand.  In these places a continuation counts as an expression: an annotation with one beside
it is not reported, and a `raise` with one before its operand is reported to raise it. -/
theorem continuations_are_transparent_elsewhere (source : String) (c : ConcreteTree)
    {s : ConcreteTree} {p : Path} (hpath : c.subtree? p = some s)
    (hfunction : s.info.isOneOf ["function_definition"]) :
    ∃ d d', Definition.IsCopyAt source c p s d ∧
      Definition.IsCopyAt source c.joined (c.joinedPath p) s.joined d' ∧
      ((∀ inside ∈ s.annotation? source, ∀ e ∈ inside, ¬ e.isContinuation) →
        d.signature.map (·.returnTypehint) = d'.signature.map (·.returnTypehint)) ∧
      ((∀ r ∈ s.bodyRaises, ∀ e ∈ r.afterRaise source, ¬ e.isContinuation) →
        d.signature.map (·.raiseTypes) = d'.signature.map (·.raiseTypes)) ∧
      (∀ inside e hint, s.annotation? source = some inside → e ∈ inside → e.isContinuation →
        inside.filter (fun f => !f.isContinuation && f.kind != .comment) = [hint] →
          ∀ sig sig', d.signature = .ok sig → d'.signature = .ok sig' →
            sig.returnTypehint = none ∧ sig'.returnTypehint = some (hint.text source)) ∧
      ∀ r ∈ s.bodyRaises, (∃ e ∈ r.afterRaise source, e.isContinuation) →
        ∃ e ∈ r.afterRaise source, e.isContinuation ∧
          ∀ sig, d.signature = .ok sig → e.text source ∈ sig.raiseTypes := by
  obtain ⟨d, d', hd, hd'⟩ := exists_isCopyAt_joined source hpath hfunction
  have hfunction' : s.joined.info.isOneOf NamedKinds.functions.names := by
    rwa [info_joined]
  refine ⟨d, d', hd, hd', ?_, ?_, ?_, ?_⟩
  · intro hclear
    rw [hd.map_returnTypehint hfunction, hd'.map_returnTypehint hfunction',
      hasParameters_joined, declaredName_joined, info_joined, returnHint_joined hclear]
  · intro hclear
    rw [hd.map_raiseTypes hfunction, hd'.map_raiseTypes hfunction',
      hasParameters_joined, declaredName_joined, info_joined, raiseTypes_joined hclear]
  · intro inside e hint hstretch he hcont hhint sig sig' hsig hsig'
    obtain ⟨hlost, hjoined⟩ := returnHint_of_isContinuation hstretch he hcont hhint
    rw [(hd.of_signature_eq_ok hfunction hsig).1, (hd'.of_signature_eq_ok hfunction' hsig').1]
    exact ⟨hlost, hjoined⟩
  · intro r hr hcont
    obtain ⟨e, he, hecont, htext⟩ := exists_raisedText_of_isContinuation hcont
    refine ⟨e, he, hecont, ?_⟩
    intro sig hsig
    rw [(hd.of_signature_eq_ok hfunction hsig).2]
    exact List.mem_filterMap.2 ⟨r, hr, htext⟩

/-- The line continuation that ends a row. -/
def Syntax.ConcreteTree.continuation (row column start : Nat) : ConcreteTree :=
  .node
    { name := "line_continuation", named := true, start := ⟨row, column⟩, stop := ⟨row + 1, 0⟩
      bytes := ⟨start, start + 2⟩ } []

/-- The text of a function with continuations before `->` and before `from`. -/
def wrappedText : String := "def f() \\\n  -> int:\n  raise E \\\n  from e\n"

/-- The function of this text. -/
def wrappedFunction : ConcreteTree :=
  let raise := .named "raise_statement"
    [.leaf "raise" false 2 2 22 27, .leaf "identifier" true 2 8 28 29, .continuation 2 10 30,
      .leaf "from" false 3 2 34 38, .leaf "identifier" true 3 7 39 40 (some "cause")]
    none ⟨2, 2⟩ ⟨3, 8⟩ ⟨22, 40⟩
  .named "function_definition"
    [.leaf "def" false 0 0 0 3, .leaf "identifier" true 0 4 4 5 (some "name"),
      .named "parameters" [.leaf "(" false 0 5 5 6, .leaf ")" false 0 6 6 7] (some "parameters")
        ⟨0, 5⟩ ⟨0, 7⟩ ⟨5, 7⟩,
      .continuation 0 8 8, .leaf "->" false 1 2 12 14,
      .named "type" [.leaf "identifier" true 1 5 15 18] (some "return_type")
        ⟨1, 5⟩ ⟨1, 8⟩ ⟨15, 18⟩,
      .leaf ":" false 1 8 18 19, .named "block" [raise] (some "body") ⟨2, 2⟩ ⟨3, 8⟩ ⟨22, 40⟩]
    none ⟨0, 0⟩ ⟨3, 8⟩ ⟨0, 40⟩

/-- The continuations in this function make no difference. -/
theorem wrappedFunction_signature :
    ∃ d d', Definition.IsCopyAt wrappedText wrappedFunction [] wrappedFunction d ∧
      Definition.IsCopyAt wrappedText wrappedFunction.joined [] wrappedFunction.joined d' ∧
      d.signature.map (·.returnTypehint) = d'.signature.map (·.returnTypehint) ∧
      d.signature.map (·.raiseTypes) = d'.signature.map (·.raiseTypes) := by
  obtain ⟨d, d', hd, hd', hhint, hraises, -⟩ := continuations_are_transparent_elsewhere
    wrappedText wrappedFunction (p := []) rfl (by decide)
  exact ⟨d, d', hd, hd', hhint (by decide +kernel), hraises (by decide +kernel)⟩

/-- The text of a function with continuations after `->` and after `raise`. -/
def foldedText : String := "def f() -> \\\n  int:\n  raise \\\n  E\n"

/-- The function of this text. -/
def foldedFunction : ConcreteTree :=
  let raise := .named "raise_statement"
    [.leaf "raise" false 2 2 22 27, .continuation 2 8 28, .leaf "identifier" true 3 2 32 33]
    none ⟨2, 2⟩ ⟨3, 3⟩ ⟨22, 33⟩
  .named "function_definition"
    [.leaf "def" false 0 0 0 3, .leaf "identifier" true 0 4 4 5 (some "name"),
      .named "parameters" [.leaf "(" false 0 5 5 6, .leaf ")" false 0 6 6 7] (some "parameters")
        ⟨0, 5⟩ ⟨0, 7⟩ ⟨5, 7⟩,
      .leaf "->" false 0 8 8 10, .continuation 0 11 11,
      .named "type" [.leaf "identifier" true 1 2 15 18] (some "return_type")
        ⟨1, 2⟩ ⟨1, 5⟩ ⟨15, 18⟩,
      .leaf ":" false 1 5 18 19, .named "block" [raise] (some "body") ⟨2, 2⟩ ⟨3, 3⟩ ⟨22, 33⟩]
    none ⟨0, 0⟩ ⟨3, 3⟩ ⟨0, 33⟩

/-- The continuations in this function take its annotation away and stand in for what it raises. -/
theorem foldedFunction_misread :
    ∃ d d', Definition.IsCopyAt foldedText foldedFunction [] foldedFunction d ∧
      Definition.IsCopyAt foldedText foldedFunction.joined [] foldedFunction.joined d' ∧
      d.signature.map (fun sig => (sig.returnTypehint, sig.raiseTypes)) = .ok (none, ["\\"]) ∧
      d'.signature.map (fun sig => (sig.returnTypehint, sig.raiseTypes)) =
        .ok (some "int", ["E"]) := by
  have hfunction : foldedFunction.info.isOneOf NamedKinds.functions.names := by decide
  obtain ⟨d, d', hd, hd'⟩ := exists_isCopyAt_joined (c := foldedFunction) foldedText (p := []) rfl
    hfunction
  refine ⟨d, d', hd, hd', ?_, ?_⟩
  · rw [hd.map_signature hfunction]
    decide +kernel
  · rw [hd'.map_signature (by decide)]
    decide +kernel

end DocSignature
