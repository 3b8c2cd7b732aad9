import DocSignature.Proofs.Syntax.Descendants

/-!
# Walks in pre-order

`preorder` goes through a tree by recursion: a node first, then what is below its children, from
left to right.  A walk (`descendants`) has no recursion but a stack, on which siblings of several
levels wait.  Whatever waits there, the traversals of the waiting nodes, one after the other, are
what is still to come: a step takes the first node off that list and changes nothing else about it.
So the walk yields the traversal, node by node, and then stops.  In a lowered tree the traversal of
a node counts up from its place.
-/

set_option autoImplicit false

namespace DocSignature.Syntax.SyntaxTree

/-- A node, then the traversals of its children from left to right. -/
def preorder (t : SyntaxTree) (id : Nat) : List Nat :=
  id :: (t.children id).attach.flatMap fun c => t.preorder c.1
termination_by t.size - id
decreasing_by exact sub_lt_of_mem_children c.2

/-- Pre-order is a node and the pre-orders of its children. -/
theorem preorder_eq (t : SyntaxTree) (id : Nat) :
    t.preorder id = id :: (t.children id).flatMap t.preorder := by
  rw [preorder, List.flatMap_subtype (g := t.preorder) (fun _ _ => rfl), List.unattach_attach]

/-! ## One step -/

/-- One step of a walk: the node on top of the stack comes off and is yielded, and its children are
put on top, the first of them last.  An empty stack yields nothing. -/
def next? (t : SyntaxTree) : List Nat → Option (Nat × List Nat)
  | [] => none
  | id :: rest => some (id, t.children id ++ rest)

/-- A walk takes one step after the other, until there is none. -/
theorem walk_eq_elim_next? (t : SyntaxTree) (stack : List Nat) :
    t.walk stack = (t.next? stack).elim [] fun (id, rest) => id :: t.walk rest := by
  cases stack with
  | nil => rw [walk, next?, Option.elim_none]
  | cons id rest => rw [walk, next?, Option.elim_some]

/-- What is still to come from a stack: the traversals of its nodes, one after the other. -/
def pending (t : SyntaxTree) (stack : List Nat) : List Nat :=
  stack.flatMap t.preorder

/-- A step yields the first node that is to come. -/
theorem map_fst_next? (t : SyntaxTree) (stack : List Nat) :
    (t.next? stack).map (·.1) = (t.pending stack).head? := by
  cases stack with
  | nil => rfl
  | cons id rest => rw [pending, List.flatMap_cons, preorder_eq, next?, Option.map_some,
      List.cons_append, List.head?_cons]

/-- The children of the node that a step takes off stand for the rest of its traversal. -/
theorem pending_of_next? {t : SyntaxTree} {stack rest : List Nat} {id : Nat}
    (h : t.next? stack = some (id, rest)) : t.pending rest = (t.pending stack).tail := by
  cases stack with
  | nil => simp [next?] at h
  | cons top others =>
    obtain ⟨rfl, rfl⟩ := Prod.mk.inj (Option.some.inj h)
    rw [pending, pending, List.flatMap_cons, preorder_eq, List.flatMap_append, List.cons_append,
      List.tail_cons]

/-! ## Runs -/

/-- The stack after a number of steps; an empty stack stays as it is. -/
def stackAfter (t : SyntaxTree) (stack : List Nat) : Nat → List Nat
  | 0 => stack
  | n + 1 => (t.next? (t.stackAfter stack n)).elim [] (·.2)

/-- Every step of the walk hands over the first of the nodes that are pending. -/
theorem pending_stackAfter (t : SyntaxTree) (stack : List Nat) (n : Nat) :
    t.pending (t.stackAfter stack n) = (t.pending stack).drop n := by
  induction n with
  | zero => rfl
  | succ n ih =>
    rw [stackAfter, ← List.tail_drop, ← ih]
    cases hnext : t.next? (t.stackAfter stack n) with
    | none =>
      -- the stack is empty, so nothing was to come any more
      have hnone := t.map_fst_next? (t.stackAfter stack n)
      rw [hnext, Option.map_none, eq_comm, List.head?_eq_none_iff] at hnone
      rw [hnone]
      rfl
    | some yielded =>
      obtain ⟨id, rest⟩ := yielded
      exact pending_of_next? hnext

/-- Step by step a walk yields what is to come from its stack, and nothing after that. -/
theorem map_fst_next?_stackAfter (t : SyntaxTree) (stack : List Nat) (n : Nat) :
    (t.next? (t.stackAfter stack n)).map (·.1) = (t.pending stack)[n]? := by
  rw [map_fst_next?, pending_stackAfter, List.head?_drop]

/-- The walk hands over the nodes of a subtree in pre-order. -/
theorem descendants_eq_preorder (t : SyntaxTree) (id : Nat) :
    t.descendants id = t.preorder id := by
  induction id using induction_on_children t with
  | h id ih => rw [descendants_eq, preorder_eq, List.flatMap_congr ih]

/-- The walk hands over nodes of the tree only. -/
theorem lt_size_of_mem_descendants {t : SyntaxTree} {id n : Nat} (hid : id < t.size)
    (h : n ∈ t.descendants id) : n < t.size := by
  obtain rfl | h := mem_descendants.1 h
  · exact hid
  · obtain ⟨m, -, hchild⟩ := exists_parent_of_mem_tail_descendants h
    exact (lt_of_mem_children hchild).2

/-! ## Lowered trees -/

section

variable (source : String) {c s : ConcreteTree} {p : Path}

/-- A walk through a lowered tree goes through the copies in the order of their paths. -/
theorem descendants_lower (h : c.subtree? p = some s) :
    (lower source c).descendants (c.place p) = (c.pathsFrom p).map c.place := by
  induction s generalizing p with
  | node info cs ih =>
    rw [descendants_eq, children_lower source h, ConcreteTree.pathsFrom_eq h, List.map_cons,
      List.flatMap_map, List.map_flatMap]
    congr 1
    refine List.flatMap_congr fun k hk => ?_
    obtain ⟨d, hd⟩ := ConcreteTree.exists_subtree?_concat h (List.mem_range.1 hk)
    have hchild : cs[k]? = some d := ConcreteTree.subtree?_concat h k ▸ hd
    exact ih d (List.mem_of_getElem? hchild) hd

/-- The copies of a subtree stand at consecutive places. -/
theorem descendants_lower_eq_range' (h : c.subtree? p = some s) :
    (lower source c).descendants (c.place p) = List.range' (c.place p) s.size := by
  have hplace : ∀ q ∈ s.paths, c.place (p ++ q) = c.place p + s.place q :=
    fun q _ => ConcreteTree.place_append h q
  calc (lower source c).descendants (c.place p)
    _ = s.paths.map fun q => c.place (p ++ q) := by
        rw [descendants_lower source h, ConcreteTree.pathsFrom, h, Option.elim_some, List.map_map]
        rfl
    _ = (s.paths.map s.place).map (c.place p + ·) := by
        rw [List.map_map]
        exact List.map_congr_left hplace
    _ = List.range' (c.place p) s.size := by
        rw [ConcreteTree.map_place_paths, List.range'_eq_map_range]

end

/-- The walk with a stack is the traversal in pre-order.  In a tree where every node has one parent,
the walk from a node lists what the traversal by recursion lists, in that order: its steps yield the
nodes of the traversal one by one, and after the last of them nothing.  These are the nodes that can
be reached from child to child, all of them nodes of the tree, each once.  In a lowered tree, where
every node has one parent, they are the places from that of the node on, as many as the subtree has
nodes. -/
theorem descendants_walk_in_preorder :
    (∀ t : SyntaxTree, t.HasOneParent → ∀ id < t.size,
      (∀ stack, t.walk stack = (t.next? stack).elim [] fun (id, rest) => id :: t.walk rest) ∧
      (∀ n, (t.next? (t.stackAfter [id] n)).map (·.1) = (t.preorder id)[n]?) ∧
      t.descendants id = t.preorder id ∧
      (t.descendants id).Nodup ∧
      (∀ n, n ∈ t.descendants id ↔
        Relation.ReflTransGen (fun a b => b ∈ t.children a) id n) ∧
      ∀ n ∈ t.descendants id, n < t.size) ∧
    ∀ source c, (lower source c).HasOneParent ∧ ∀ id < (lower source c).size,
      ∃ p s, c.subtree? p = some s ∧ c.place p = id ∧
        (lower source c).descendants id = List.range' id s.size := by
  constructor
  · intro t hparent id hid
    refine ⟨t.walk_eq_elim_next?, ?_, t.descendants_eq_preorder id, hparent.nodup_descendants id,
      fun n => mem_descendants_iff_reaches, fun n => lt_size_of_mem_descendants hid⟩
    intro n
    rw [map_fst_next?_stackAfter, pending, List.flatMap_singleton]
  · intro source c
    refine ⟨hasOneParent_lower source c, ?_⟩
    intro id hid
    obtain ⟨p, s, hs, rfl⟩ := ConcreteTree.exists_place_eq (size_lower source c ▸ hid)
    exact ⟨p, s, hs, rfl, descendants_lower_eq_range' source hs⟩

/-- Whether nodes have one parent can be seen from the nodes that a tree has. -/
theorem hasOneParent_iff (t : SyntaxTree) :
    t.HasOneParent ↔
      (∀ a < t.size, ∀ b < t.size, ∀ n ∈ t.children a, n ∈ t.children b → a = b) ∧
        ∀ a < t.size, (t.children a).Nodup := by
  constructor
  · intro h
    exact ⟨fun a _ b _ n ha hb => h.parent_unique ha hb, fun a _ => h.nodup_children a⟩
  · rintro ⟨hunique, hnodup⟩
    have hsize : ∀ {a n}, n ∈ t.children a → a < t.size := fun h =>
      Nat.lt_trans (lt_of_mem_children h).1 (lt_of_mem_children h).2
    refine ⟨fun ha hb => hunique _ (hsize ha) _ (hsize hb) _ ha hb, ?_⟩
    intro a
    by_cases ha : a < t.size
    · exact hnodup a ha
    · -- a place outside the tree has no children
      have hnone : t.nodes[a]? = none := Array.getElem?_eq_none (Nat.le_of_not_lt ha)
      simp [children, hnone]

instance (t : SyntaxTree) : Decidable t.HasOneParent :=
  decidable_of_iff' _ t.hasOneParent_iff

/-- A root with two children, of which the first one was appended after the second and has a child
of its own. -/
def shuffledTree : SyntaxTree :=
  let node : Node := { kind := .expression, field := none, span := ⟨1, 1⟩, bytes := ⟨0, 0⟩ }
  let nodes := ((((empty "").push node).push node).push node).push node
  ((nodes.addChild 0 2).addChild 0 1).addChild 2 3

/-- The walk follows the children and not the places: the first child and what is below it come
before the second one, and then the walk is over. -/
theorem shuffledTree_walk :
    shuffledTree.HasOneParent ∧ 0 < shuffledTree.size ∧
      shuffledTree.descendants 0 = [0, 2, 3, 1] ∧ shuffledTree.preorder 0 = [0, 2, 3, 1] ∧
      shuffledTree.next? (shuffledTree.stackAfter [0] 4) = none := by
  have hparent : shuffledTree.HasOneParent := by decide +kernel
  have hsize : 0 < shuffledTree.size := by decide +kernel
  have hwalk : shuffledTree.descendants 0 = [0, 2, 3, 1] := by decide +kernel
  obtain ⟨-, hsteps, hpreorder, -⟩ := descendants_walk_in_preorder.1 shuffledTree hparent 0 hsize
  rw [hwalk] at hpreorder
  refine ⟨hparent, hsize, hwalk, hpreorder.symm, ?_⟩
  have hlast := hsteps 4
  rw [← hpreorder] at hlast
  exact Option.map_eq_none_iff.1 hlast

end DocSignature.Syntax.SyntaxTree
