import DocSignature.Proofs.Syntax.Paths
import Mathlib.Logic.Relation

/-!
# Descendants

The walk with a stack (`descendants`) goes through a node and then through what is below each of its
children, so it lists the nodes that can be reached from child to child.  In a tree where every node
has one parent at most, as all lowered trees are, it lists each of them once, and of two nodes above
a third one is above the other.
-/

set_option autoImplicit false

namespace DocSignature.Syntax.SyntaxTree

/-! ## Walks -/

/-- Two rows of nodes are walked one after the other. -/
theorem walk_append (t : SyntaxTree) (xs ys : List Nat) :
    t.walk (xs ++ ys) = t.walk xs ++ t.walk ys := by
  induction xs using walk.induct t with
  | case1 => rw [walk, List.nil_append, List.nil_append]
  | case2 id rest ih =>
    rw [List.cons_append, walk, walk, ← List.append_assoc, ih, List.cons_append]

/-- A walk goes through the nodes of a stack one by one. -/
theorem walk_eq_flatMap (t : SyntaxTree) (xs : List Nat) :
    t.walk xs = xs.flatMap t.descendants := by
  induction xs with
  | nil => rw [walk, List.flatMap_nil]
  | cons id rest ih =>
    rw [List.flatMap_cons, ← ih, descendants, ← walk_append, List.singleton_append]

/-- What is below a node is below one of its children, in order. -/
theorem descendants_eq (t : SyntaxTree) (id : Nat) :
    t.descendants id = id :: (t.children id).flatMap t.descendants := by
  rw [descendants, walk, List.append_nil, walk_eq_flatMap]

/-- Below a node stand the subtrees of its children, one after the other. -/
theorem tail_descendants (t : SyntaxTree) (id : Nat) :
    (t.descendants id).tail = (t.children id).flatMap t.descendants := by
  rw [descendants_eq, List.tail_cons]

/-- What is shown of a node from what holds of its children holds of all nodes. -/
theorem induction_on_children (t : SyntaxTree) {P : Nat → Prop}
    (h : ∀ id, (∀ c ∈ t.children id, P c) → P id) (id : Nat) : P id := by
  induction id using weight.induct t with
  | case1 id ih => exact h id fun c hc => ih ⟨c, hc⟩

section

variable {t : SyntaxTree} {a b c n : Nat}

/-- A node is below another just if it is in the subtree of a child. -/
theorem mem_tail_descendants :
    n ∈ (t.descendants a).tail ↔ ∃ c ∈ t.children a, n ∈ t.descendants c := by
  rw [tail_descendants, List.mem_flatMap]

/-- A subtree is its node and what is below it. -/
theorem mem_descendants : n ∈ t.descendants a ↔ n = a ∨ n ∈ (t.descendants a).tail := by
  rw [descendants_eq, List.mem_cons, List.tail_cons]

/-- A node is in its own subtree. -/
theorem self_mem_descendants (t : SyntaxTree) (a : Nat) : a ∈ t.descendants a :=
  mem_descendants.2 (.inl rfl)

/-- The descendants of a node are what can be reached from it, from child to child. -/
theorem mem_descendants_iff_reaches :
    n ∈ t.descendants a ↔ Relation.ReflTransGen (fun a b => b ∈ t.children a) a n := by
  induction a using induction_on_children t with
  | h a ih =>
    rw [mem_descendants, mem_tail_descendants]
    constructor
    · rintro (rfl | ⟨c, hc, hn⟩)
      · exact .refl
      · exact .head hc ((ih c hc).1 hn)
    · intro h
      obtain rfl | ⟨c, hc, hn⟩ := h.cases_head
      · exact .inl rfl
      · exact .inr ⟨c, hc, (ih c hc).2 hn⟩

/-- What is in a subtree of a subtree is in the subtree. -/
theorem mem_descendants_trans (hb : b ∈ t.descendants a) (hn : n ∈ t.descendants b) :
    n ∈ t.descendants a :=
  mem_descendants_iff_reaches.2
    ((mem_descendants_iff_reaches.1 hb).trans (mem_descendants_iff_reaches.1 hn))

/-- A node comes before everything below it. -/
theorem le_of_mem_descendants (h : n ∈ t.descendants a) : a ≤ n := by
  rw [mem_descendants_iff_reaches] at h
  induction h with
  | refl => exact Nat.le_refl a
  | tail _ hstep ih => exact Nat.le_of_lt (Nat.lt_of_le_of_lt ih (lt_of_mem_children hstep).1)

/-- What is below a node comes after it. -/
theorem lt_of_mem_tail_descendants (h : n ∈ (t.descendants a).tail) : a < n := by
  obtain ⟨c, hc, hn⟩ := mem_tail_descendants.1 h
  exact Nat.lt_of_lt_of_le (lt_of_mem_children hc).1 (le_of_mem_descendants hn)

/-- What is below a node has its parent there or in the node itself. -/
theorem exists_parent_of_mem_tail_descendants (h : n ∈ (t.descendants a).tail) :
    ∃ m ∈ t.descendants a, n ∈ t.children m := by
  obtain ⟨c, hc, hn⟩ := mem_tail_descendants.1 h
  obtain rfl | ⟨m, hm, hstep⟩ := (mem_descendants_iff_reaches.1 hn).cases_tail
  · exact ⟨a, self_mem_descendants t a, hc⟩
  · exact ⟨m, mem_descendants_iff_reaches.2 (.head hc hm), hstep⟩

end

/-! ## Trees with one parent for every node -/

/-- Every node has one parent at most and stands once among the children of it. -/
structure HasOneParent (t : SyntaxTree) : Prop where
  parent_unique : ∀ {a b n}, n ∈ t.children a → n ∈ t.children b → a = b
  nodup_children : ∀ a, (t.children a).Nodup

/-- Lowered trees have one parent for every node. -/
theorem hasOneParent_lower (source : String) (c : ConcreteTree) :
    (lower source c).HasOneParent where
  parent_unique := by
    intro a b n ha hb
    obtain ⟨hpos, hsize⟩ := lt_of_mem_children ha
    obtain ⟨i, -, -, hunique⟩ := exists_unique_parent_lower source c (by omega) hsize
    rw [hunique a ha, hunique b hb]
  nodup_children := by
    intro a
    by_cases ha : a < (lower source c).size
    · obtain ⟨p, s, hs, rfl⟩ := ConcreteTree.exists_place_eq (size_lower source c ▸ ha)
      exact nodup_children_lower source hs
    · have hnone : (lower source c).nodes[a]? = none := Array.getElem?_eq_none (Nat.le_of_not_lt ha)
      simp [children, hnone]

section

variable {t : SyntaxTree} (hparent : t.HasOneParent) {a b c d n : Nat}

include hparent

/-- What a child is below is its parent or above it. -/
theorem HasOneParent.mem_descendants_of_child (hc : c ∈ t.children a)
    (h : c ∈ (t.descendants b).tail) : a ∈ t.descendants b := by
  obtain ⟨m, hm, hmc⟩ := exists_parent_of_mem_tail_descendants h
  rwa [hparent.parent_unique hc hmc]

/-- Of two nodes that a node is below, one is below the other. -/
theorem HasOneParent.descendants_total (ha : n ∈ t.descendants a) (hb : n ∈ t.descendants b) :
    b ∈ t.descendants a ∨ a ∈ t.descendants b := by
  -- seen from below, the way up is the same for both
  let up : Nat → Nat → Prop := Function.swap fun a b => b ∈ t.children a
  have hunique : Relator.RightUnique up := fun _ _ _ h h' => hparent.parent_unique h h'
  have hup : ∀ {x}, n ∈ t.descendants x → Relation.ReflTransGen up n x :=
    fun h => Relation.reflTransGen_swap.2 (mem_descendants_iff_reaches.1 h)
  have hdown : ∀ {x y}, Relation.ReflTransGen up x y → x ∈ t.descendants y :=
    fun h => mem_descendants_iff_reaches.2 (Relation.reflTransGen_swap.1 h)
  rcases Relation.ReflTransGen.total_of_right_unique hunique (hup ha) (hup hb) with h | h
  · exact .inr (hdown h)
  · exact .inl (hdown h)

/-- Two children of a node have nothing below them in common. -/
theorem HasOneParent.eq_of_mem_descendants (hc : c ∈ t.children a) (hd : d ∈ t.children a)
    (hnc : n ∈ t.descendants c) (hnd : n ∈ t.descendants d) : c = d := by
  have hapart : ∀ {c d}, c ∈ t.children a → d ∈ t.children a → d ∈ t.descendants c → c = d := by
    intro c d hc hd h
    obtain rfl | h := mem_descendants.1 h
    · rfl
    · have hle := le_of_mem_descendants (hparent.mem_descendants_of_child hd h)
      have hlt := (lt_of_mem_children hc).1
      omega
  rcases hparent.descendants_total hnc hnd with h | h
  · exact hapart hc hd h
  · exact (hapart hd hc h).symm

/-- A walk lists no node twice. -/
theorem HasOneParent.nodup_descendants (a : Nat) : (t.descendants a).Nodup := by
  induction a using induction_on_children t with
  | h a ih =>
    rw [descendants_eq, List.nodup_cons, ← tail_descendants]
    refine ⟨fun h => Nat.lt_irrefl a (lt_of_mem_tail_descendants h), ?_⟩
    rw [tail_descendants, List.nodup_flatMap]
    refine ⟨ih, ?_⟩
    refine (hparent.nodup_children a).imp_of_mem ?_
    intro c d hc hd hne n hnc hnd
    exact hne (hparent.eq_of_mem_descendants hc hd hnc hnd)

end

end DocSignature.Syntax.SyntaxTree
