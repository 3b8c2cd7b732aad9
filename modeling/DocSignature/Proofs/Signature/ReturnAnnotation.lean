import DocSignature.Proofs.Signature.Reading

/-!
# Where a return annotation stands

A return annotation (`return_annotation`) is looked for among a function's own children, between the
first `->` and the first `:` after it.  `between?_eq_extract` says so by index, as an array would be
searched, and `between?_eq_some_iff` by the parts that the two delimiters cut the children into.
What comes before the arrow and what is below the children is never looked at.
-/

set_option autoImplicit false

namespace DocSignature

open Syntax Syntax.SyntaxTree

/-! ## Stretches of a list -/

section

variable {α : Type} {p opens closes : α → Bool} {xs inside : List α}

/-- The first index with a property cuts a list in three. -/
theorem findIdx?_eq_some_iff_append {i : Nat} :
    xs.findIdx? p = some i ↔
      ∃ pre a post, xs = pre ++ [a] ++ post ∧ pre.length = i ∧ p a ∧ ∀ x ∈ pre, ¬ p x := by
  constructor
  · intro h
    obtain ⟨hlt, ha, hbefore⟩ := List.findIdx?_eq_some_iff_getElem.1 h
    refine ⟨xs.take i, xs[i], xs.drop (i + 1), ?_, ?_, ha, ?_⟩
    · rw [List.take_concat_get', List.take_append_drop]
    · exact List.length_take_of_le (Nat.le_of_lt hlt)
    · intro x hx
      obtain ⟨j, hj, rfl⟩ := List.mem_take_iff_getElem.1 hx
      exact hbefore j (by omega)
  · rintro ⟨pre, a, post, rfl, rfl, ha, hpre⟩
    have hnone : pre.findIdx? p = none := by
      rw [List.findIdx?_eq_none_iff]
      intro x hx
      simpa using hpre x hx
    simp [List.findIdx?_append, List.findIdx?_cons, hnone, ha]

/-- What stands before the first member with a property, found by its index. -/
theorem map_take_findIdx? (p : α → Bool) (xs : List α) :
    (xs.findIdx? p).map xs.take = if xs.any p then some (xs.takeWhile (!p ·)) else none := by
  induction xs with
  | nil => rfl
  | cons x xs ih =>
    rw [List.findIdx?_cons]
    cases hx : p x with
    | true => simp [hx]
    | false =>
      have hrest : (xs.findIdx? p).map ((x :: xs).take ∘ (· + 1)) =
          ((xs.findIdx? p).map xs.take).map (x :: ·) := by
        rw [Option.map_map]
        rfl
      rw [if_neg Bool.false_ne_true, Option.map_map, hrest, ih]
      by_cases hany : xs.any p <;> simp [hx, hany]

/-- A stretch is found by the index of the member that opens it and the offset of the member that
closes it. -/
theorem between?_eq_extract (opens closes : α → Bool) (xs : List α) :
    between? opens closes xs = (xs.findIdx? opens).bind fun i =>
      ((xs.drop (i + 1)).findIdx? closes).map fun j => xs.extract (i + 1) (i + 1 + j) := by
  induction xs with
  | nil => rfl
  | cons x xs ih =>
    rw [between?_cons, List.findIdx?_cons]
    cases hx : opens x with
    | true =>
      rw [if_pos rfl, if_pos rfl, ← map_take_findIdx?]
      simp
    | false =>
      rw [if_neg Bool.false_ne_true, if_neg Bool.false_ne_true, ih, Option.bind_map]
      refine Option.bind_congr ?_
      intro i _
      simp

/-- An offset that is found in the rest of a list does not leave the list. -/
theorem add_lt_length_of_findIdx? {i j : Nat} (hj : (xs.drop i).findIdx? p = some j) :
    i + j < xs.length := by
  obtain ⟨hlt, -⟩ := List.findIdx?_eq_some_iff_getElem.1 hj
  rw [List.length_drop] at hlt
  omega

/-- A stretch is what stands between the first member that opens one and the first after it that
closes one. -/
theorem between?_eq_some_iff :
    between? opens closes xs = some inside ↔
      ∃ pre a c post, xs = pre ++ [a] ++ inside ++ [c] ++ post ∧ opens a ∧
        (∀ x ∈ pre, ¬ opens x) ∧ closes c ∧ ∀ x ∈ inside, ¬ closes x := by
  rw [between?_eq_extract, Option.bind_eq_some_iff]
  constructor
  · rintro ⟨i, hi, hinside⟩
    obtain ⟨j, hj, rfl⟩ := Option.map_eq_some_iff.1 hinside
    obtain ⟨pre, a, rest, rfl, rfl, ha, hpre⟩ := findIdx?_eq_some_iff_append.1 hi
    have hrest : (pre ++ [a] ++ rest).drop (pre.length + 1) = rest := by simp
    rw [hrest] at hj
    obtain ⟨mid, c, post, rfl, rfl, hc, hmid⟩ := findIdx?_eq_some_iff_append.1 hj
    exact ⟨pre, a, c, post, by simp, ha, hpre, hc, by simpa using hmid⟩
  · rintro ⟨pre, a, c, post, rfl, ha, hpre, hc, hinside⟩
    refine ⟨pre.length, findIdx?_eq_some_iff_append.2 ⟨pre, a, inside ++ [c] ++ post, ?_⟩, ?_⟩
    · exact ⟨by simp, rfl, ha, hpre⟩
    · have hoffset : (inside ++ [c] ++ post).findIdx? closes = some inside.length :=
        findIdx?_eq_some_iff_append.2 ⟨inside, c, post, rfl, rfl, hc, hinside⟩
      have hrest : (pre ++ [a] ++ inside ++ [c] ++ post).drop (pre.length + 1) =
          inside ++ [c] ++ post := by simp
      rw [hrest, hoffset]
      simp

/-- What comes before the first member that opens a stretch makes no difference. -/
theorem between?_append_of_forall_not {pre : List α} (h : ∀ x ∈ pre, ¬ opens x) (xs : List α) :
    between? opens closes (pre ++ xs) = between? opens closes xs := by
  induction pre with
  | nil => rfl
  | cons x pre ih =>
    rw [List.cons_append, between?_cons, if_neg (h x List.mem_cons_self)]
    exact ih fun y hy => h y (List.mem_cons_of_mem x hy)

/-- Related lists with the same delimiters have related stretches. -/
theorem rel_between? {β : Type} {R : α → β → Prop} {opens' closes' : β → Bool} {ys : List β}
    (h : List.Forall₂ R xs ys) (hopens : ∀ x y, R x y → opens x = opens' y)
    (hcloses : ∀ x y, R x y → closes x = closes' y) :
    Option.Rel (List.Forall₂ R) (between? opens closes xs) (between? opens' closes' ys) := by
  obtain ⟨l, rfl, rfl⟩ := exists_pairs_of_forall₂ h
  have hopens' : opens ∘ (fun x : { x : α × β // R x.1 x.2 } => x.1.1) =
      opens' ∘ fun x => x.1.2 := funext fun x => hopens x.1.1 x.1.2 x.2
  have hcloses' : closes ∘ (fun x : { x : α × β // R x.1 x.2 } => x.1.1) =
      closes' ∘ fun x => x.1.2 := funext fun x => hcloses x.1.1 x.1.2 x.2
  rw [between?_map, between?_map, hopens', hcloses']
  cases between? _ _ l with
  | none => exact .none
  | some inside =>
    refine .some ?_
    rw [List.forall₂_map_left_iff, List.forall₂_map_right_iff, List.forall₂_same]
    exact fun x _ => x.2

end

/-! ## Annotations -/

/-- Some nodes stand between the first `->` among the children of a node and the first `:` after
it. -/
def IsReturnStretch (tree : SyntaxTree) (function : Nat) (mid : List Nat) : Prop :=
  ∃ pre arrow colon post, tree.children function = pre ++ [arrow] ++ mid ++ [colon] ++ post ∧
    tree.isOperator arrow "->" ∧ (∀ c ∈ pre, ¬ tree.isOperator c "->") ∧
    tree.isOperator colon ":" ∧ ∀ c ∈ mid, ¬ tree.isOperator c ":"

section

variable {tree other : SyntaxTree} {function node : Nat}

/-- The return nodes are those of the stretch that are not comments. -/
theorem returnNodes_eq_some_iff {nodes : List Nat} :
    returnNodes tree function = some nodes ↔
      ∃ mid, IsReturnStretch tree function mid ∧
        mid.filter (fun c => tree.kind c ≠ .comment) = nodes := by
  have hcomment : (fun c => tree.kind c != .comment) =
      fun c => decide (tree.kind c ≠ .comment) := by
    funext c
    exact Bool.eq_iff_iff.2 (by simp)
  unfold returnNodes
  rw [Option.map_eq_some_iff, hcomment]
  simp only [between?_eq_some_iff, IsReturnStretch]

/-- The return nodes are found by the index of the arrow and the offset of the colon. -/
theorem returnNodes_eq_extract (tree : SyntaxTree) (function : Nat) :
    returnNodes tree function =
      ((tree.children function).findIdx? (tree.isOperator · "->")).bind fun arrow =>
        (((tree.children function).drop (arrow + 1)).findIdx? (tree.isOperator · ":")).map
          fun offset => ((tree.children function).extract (arrow + 1) (arrow + 1 + offset)).filter
            (tree.kind · != .comment) := by
  simp only [returnNodes, between?_eq_extract, Option.map_bind, Function.comp_def, Option.map_map]

/-- An annotation is the text of the only return node. -/
theorem returnHint_eq_some_iff {hint : String} :
    returnHint tree function = some hint ↔
      ∃ n, returnNodes tree function = some [n] ∧ hint = tree.text n := by
  unfold returnHint
  constructor
  · intro h
    split at h
    · next n hn => exact ⟨n, hn, (Option.some.inj h).symm⟩
    · cases h
  · rintro ⟨n, hn, rfl⟩
    rw [hn]

/-- The return nodes of two functions are related if the children are, from some point before the
arrow on, in such a way that related nodes have the same kind and related delimiters the same
text. -/
theorem rel_returnNodes {R : Nat → Nat → Prop} {pre pre' rest rest' : List Nat}
    (hchildren : tree.children function = pre ++ rest)
    (hchildren' : other.children node = pre' ++ rest')
    (hpre : ∀ c ∈ pre, ¬ tree.isOperator c "->") (hpre' : ∀ c ∈ pre', ¬ other.isOperator c "->")
    (hrest : List.Forall₂ R rest rest') (hkind : ∀ c c', R c c' → tree.kind c = other.kind c')
    (htoken : ∀ c c', R c c' → tree.kind c = .operator → tree.text c = other.text c') :
    Option.Rel (List.Forall₂ R) (returnNodes tree function) (returnNodes other node) := by
  have hoperator : ∀ token c c', R c c' → tree.isOperator c token = other.isOperator c' token := by
    intro token c c' hc
    unfold isOperator
    rw [← hkind c c' hc]
    by_cases hop : tree.kind c = .operator
    · rw [htoken c c' hc hop]
    · rw [beq_eq_false_iff_ne.2 hop, Bool.false_and, Bool.false_and]
  unfold returnNodes
  rw [hchildren, hchildren', between?_append_of_forall_not hpre,
    between?_append_of_forall_not hpre']
  have hrel := rel_between? hrest (hoperator "->") (hoperator ":")
  generalize between? _ _ rest = mid at hrel
  generalize between? _ _ rest' = mid' at hrel
  cases hrel with
  | none => exact .none
  | some hmid =>
    refine .some (List.rel_filter ?_ hmid)
    intro c c' hc
    simp [hkind c c' hc]

/-- Related return nodes with the same texts make the same annotation. -/
theorem returnHint_eq_of_rel {R : Nat → Nat → Prop}
    (h : Option.Rel (List.Forall₂ R) (returnNodes tree function) (returnNodes other node))
    (htext : ∀ nodes ∈ returnNodes tree function, ∀ c ∈ nodes, ∀ c', R c c' →
      tree.text c = other.text c') :
    returnHint tree function = returnHint other node := by
  unfold returnHint
  generalize returnNodes tree function = nodes at h htext
  generalize returnNodes other node = nodes' at h
  cases h with
  | none => rfl
  | some hnodes =>
    cases hnodes with
    | nil => rfl
    | @cons c c' _ _ hc hmore =>
      cases hmore with
      | nil => exact congrArg some (htext [c] rfl c (by simp) c' hc)
      | cons => rfl

end

/-- The return annotation of a function is the text of the one node, comments apart, between the
first `->` among its children and the first `:` after it, and there is none if there is no such
stretch or if it has no node or several.  The stretch is found by index, and no index used on the
way leaves the list of children.  Neither the nodes before the arrow, colons among them, nor
anything below the children plays a part. -/
theorem return_annotation_is_delimited (tree : SyntaxTree) (function : Nat) :
    let children := tree.children function
    (∀ hint, returnHint tree function = some hint ↔
      ∃ pre arrow mid colon post n, children = pre ++ [arrow] ++ mid ++ [colon] ++ post ∧
        tree.isOperator arrow "->" ∧ (∀ c ∈ pre, ¬ tree.isOperator c "->") ∧
        tree.isOperator colon ":" ∧ (∀ c ∈ mid, ¬ tree.isOperator c ":") ∧
        mid.filter (fun c => tree.kind c ≠ .comment) = [n] ∧ hint = tree.text n) ∧
    (returnNodes tree function =
      (children.findIdx? (tree.isOperator · "->")).bind fun arrow =>
        ((children.drop (arrow + 1)).findIdx? (tree.isOperator · ":")).map fun offset =>
          (children.extract (arrow + 1) (arrow + 1 + offset)).filter (tree.kind · != .comment)) ∧
    (∀ arrow, children.findIdx? (tree.isOperator · "->") = some arrow →
      arrow + 1 ≤ children.length ∧
      ∀ offset, (children.drop (arrow + 1)).findIdx? (tree.isOperator · ":") = some offset →
        arrow + 1 + offset < children.length) ∧
    ∀ (other : SyntaxTree) (node : Nat) (pre pre' rest rest' : List Nat),
      children = pre ++ rest → other.children node = pre' ++ rest' →
      (∀ c ∈ pre, ¬ tree.isOperator c "->") → (∀ c ∈ pre', ¬ other.isOperator c "->") →
      List.Forall₂ (fun c c' => tree.kind c = other.kind c' ∧ tree.text c = other.text c')
        rest rest' →
      returnHint tree function = returnHint other node := by
  intro children
  refine ⟨?_, ?_, ?_, ?_⟩
  · intro hint
    simp only [returnHint_eq_some_iff, returnNodes_eq_some_iff, IsReturnStretch]
    constructor
    · rintro ⟨n, ⟨mid, ⟨pre, arrow, colon, post, hsplit, harrow, hpre, hcolon, hmid⟩, hn⟩, rfl⟩
      exact ⟨pre, arrow, mid, colon, post, n, hsplit, harrow, hpre, hcolon, hmid, hn, rfl⟩
    · rintro ⟨pre, arrow, mid, colon, post, n, hsplit, harrow, hpre, hcolon, hmid, hn, rfl⟩
      exact ⟨n, ⟨mid, ⟨pre, arrow, colon, post, hsplit, harrow, hpre, hcolon, hmid⟩, hn⟩, rfl⟩
  · exact returnNodes_eq_extract tree function
  · intro arrow harrow
    obtain ⟨hlt, -⟩ := List.findIdx?_eq_some_iff_getElem.1 harrow
    exact ⟨hlt, fun offset hoffset => add_lt_length_of_findIdx? hoffset⟩
  · intro other node pre pre' rest rest' hchildren hchildren' hpre hpre' hrest
    have hrel := rel_returnNodes hchildren hchildren' hpre hpre' hrest (fun _ _ h => h.1)
      fun _ _ h _ => h.2
    exact returnHint_eq_of_rel hrel fun _ _ _ _ _ h => h.2

end DocSignature
