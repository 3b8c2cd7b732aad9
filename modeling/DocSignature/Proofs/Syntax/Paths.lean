import DocSignature.Proofs.Syntax.Copying
import DocSignature.Proofs.Syntax.Kinds
import Mathlib.Data.List.Induction
import Mathlib.Data.List.Nodup

/-!
# Nodes of a concrete tree by their paths

A node of a concrete tree is known by its path, the numbers of the children to take from the root.
Paths come in an order, a node before its children and siblings in order, and `place` numbers them
in that order.  Lowering puts the copy of every node at the place of its path, so a syntax tree is
the concrete tree over again: that is `lower_is_preorder_copy`.
-/

set_option autoImplicit false

namespace DocSignature.Syntax

/-- The way from the root to a node: which child to take, step by step. -/
abbrev Path := List Nat

namespace ConcreteTree

/-- To show something of all concrete trees, show it of a tree whose children all have it. -/
@[elab_as_elim, induction_eliminator]
theorem induction {motive : ConcreteTree → Prop}
    (node : ∀ info cs, (∀ c ∈ cs, motive c) → motive (.node info cs)) (c : ConcreteTree) :
    motive c := by
  refine ConcreteTree.rec (motive_1 := motive) (motive_2 := fun cs => ∀ c ∈ cs, motive c)
    node ?_ ?_ c
  · intro c hc
    simp at hc
  · intro c cs hfirst hrest d hd
    rcases List.mem_cons.1 hd with rfl | hd
    · exact hfirst
    · exact hrest d hd

/-- The subtree at the end of a path. -/
def subtree? (c : ConcreteTree) : Path → Option ConcreteTree
  | [] => some c
  | k :: p => c.children[k]?.bind fun d => d.subtree? p

/-- A path that goes on leads through the subtree at its first part. -/
theorem subtree?_append (c : ConcreteTree) (p q : Path) :
    c.subtree? (p ++ q) = (c.subtree? p).bind (·.subtree? q) := by
  induction p generalizing c with
  | nil => rfl
  | cons k p ih => simp only [List.cons_append, subtree?, ih, Option.bind_assoc]

/-- One more step leads to a child of the subtree. -/
theorem subtree?_concat {c s : ConcreteTree} {p : Path} (h : c.subtree? p = some s) (k : Nat) :
    c.subtree? (p ++ [k]) = s.children[k]? := by
  rw [subtree?_append, h, Option.bind_some, subtree?]
  cases s.children[k]? <;> rfl

/-- A path with a last step leads to a child of the subtree before that step. -/
theorem exists_of_subtree?_concat {c d : ConcreteTree} {p : Path} {k : Nat}
    (h : c.subtree? (p ++ [k]) = some d) :
    ∃ s, c.subtree? p = some s ∧ s.children[k]? = some d := by
  have hbind := h
  rw [subtree?_append] at hbind
  obtain ⟨s, hs, -⟩ := Option.bind_eq_some_iff.1 hbind
  exact ⟨s, hs, subtree?_concat hs k ▸ h⟩

/-- Each of the children of a subtree is one more step away. -/
theorem exists_subtree?_concat {c s : ConcreteTree} {p : Path} {k : Nat}
    (h : c.subtree? p = some s) (hk : k < s.children.length) :
    ∃ d, c.subtree? (p ++ [k]) = some d := by
  rw [subtree?_concat h]
  exact ⟨_, List.getElem?_eq_getElem hk⟩

mutual

/-- The paths of all nodes, a node before its children and siblings in order. -/
def paths : ConcreteTree → List Path
  | node _ cs => [] :: forestPaths 0 cs

/-- The paths of all nodes of some siblings, the first of which has a number. -/
def forestPaths (first : Nat) : List ConcreteTree → List Path
  | [] => []
  | c :: cs => c.paths.map (first :: ·) ++ forestPaths (first + 1) cs

end

/-- The number of nodes that come before the node at the end of a path. -/
def place (c : ConcreteTree) : Path → Nat
  | [] => 0
  | k :: p => 1 + forestSize (c.children.take k) + (c.children[k]?.elim 0 fun d => d.place p)

/-- Siblings in two rows have the nodes of both rows. -/
theorem forestSize_append (cs ds : List ConcreteTree) :
    forestSize (cs ++ ds) = forestSize cs + forestSize ds := by
  induction cs with
  | nil => simp [forestSize]
  | cons c cs ih => rw [List.cons_append, forestSize, forestSize, ih, Nat.add_assoc]

/-- The place of a node of a subtree counts from the place of the subtree. -/
theorem place_append {c s : ConcreteTree} {p : Path} (h : c.subtree? p = some s) (q : Path) :
    c.place (p ++ q) = c.place p + s.place q := by
  induction p generalizing c with
  | nil =>
    obtain rfl := Option.some.inj h
    simp [place]
  | cons k p ih =>
    obtain ⟨d, hd, hs⟩ := Option.bind_eq_some_iff.1 h
    simp only [List.cons_append, place, hd, Option.elim_some, ih hs]
    omega

/-- The place of a child comes after the node itself and all earlier siblings. -/
theorem place_concat {c s : ConcreteTree} {p : Path} (h : c.subtree? p = some s) (k : Nat) :
    c.place (p ++ [k]) = c.place p + 1 + forestSize (s.children.take k) := by
  have hlast : s.place [k] = 1 + forestSize (s.children.take k) := by
    simp only [place]
    cases s.children[k]? <;> rfl
  rw [place_append h, hlast]
  omega

/-- A path among some siblings goes into one of them. -/
theorem cons_mem_forestPaths {first k : Nat} {cs : List ConcreteTree} {p : Path} :
    k :: p ∈ forestPaths first cs ↔ ∃ i, k = first + i ∧ ∃ d ∈ cs[i]?, p ∈ d.paths := by
  induction cs generalizing first with
  | nil => simp [forestPaths]
  | cons c cs ih =>
    have hfirst : k :: p ∈ c.paths.map (first :: ·) ↔ k = first ∧ p ∈ c.paths := by
      simp [and_comm, eq_comm]
    rw [forestPaths, List.mem_append, hfirst, ih]
    constructor
    · rintro (⟨rfl, hp⟩ | ⟨i, rfl, hd⟩)
      · exact ⟨0, rfl, c, rfl, hp⟩
      · exact ⟨i + 1, by omega, hd⟩
    · rintro ⟨i, rfl, hd⟩
      cases i with
      | zero => exact .inl ⟨rfl, by simpa using hd⟩
      | succ i => exact .inr ⟨i, by omega, hd⟩

/-- No path among some siblings ends before it has gone into one of them. -/
theorem nil_notMem_forestPaths (first : Nat) (cs : List ConcreteTree) :
    [] ∉ forestPaths first cs := by
  induction cs generalizing first with
  | nil => simp [forestPaths]
  | cons c cs ih => simp [forestPaths, ih]

/-- A path that takes a step goes on in the child it steps to. -/
theorem cons_mem_paths {c : ConcreteTree} {k : Nat} {p : Path} :
    k :: p ∈ c.paths ↔ ∃ d ∈ c.children[k]?, p ∈ d.paths := by
  obtain ⟨info, cs⟩ := c
  simp [paths, cons_mem_forestPaths]

/-- The paths of a tree are those at whose end there is a subtree. -/
theorem mem_paths {c : ConcreteTree} {p : Path} : p ∈ c.paths ↔ ∃ s, c.subtree? p = some s := by
  induction p generalizing c with
  | nil =>
    obtain ⟨info, cs⟩ := c
    simp [paths, subtree?]
  | cons k p ih =>
    simp only [cons_mem_paths, ih, subtree?, Option.bind_eq_some_iff, Option.mem_def]
    exact ⟨fun ⟨d, hd, s, hs⟩ => ⟨s, d, hd, hs⟩, fun ⟨s, d, hd, hs⟩ => ⟨d, hd, s, hs⟩⟩

/-- The subtrees at the ends of all paths, in the order of the paths. -/
def subtrees (c : ConcreteTree) : List ConcreteTree :=
  c.paths.filterMap c.subtree?

/-- What a path leads to is a subtree. -/
theorem mem_subtrees_of_subtree? {c s : ConcreteTree} {p : Path} (h : c.subtree? p = some s) :
    s ∈ c.subtrees :=
  List.mem_filterMap.2 ⟨p, mem_paths.2 ⟨s, h⟩, h⟩

/-- Paths come in their order as words: shorter ones before longer ones that go on from them, lower
numbers before higher ones. -/
theorem pairwise_paths (c : ConcreteTree) : c.paths.Pairwise (· < ·) := by
  induction c with
  | node info cs ih =>
    suffices hforest : ∀ first, (forestPaths first cs).Pairwise (· < ·) by
      refine List.pairwise_cons.2 ⟨?_, hforest 0⟩
      intro p hp
      cases p with
      | nil => exact absurd hp (nil_notMem_forestPaths 0 cs)
      | cons k p => exact List.nil_lt_cons k p
    clear info
    intro first
    induction cs generalizing first with
    | nil => exact .nil
    | cons c cs ihcs =>
      have hrest := ihcs (fun d hd => ih d (List.mem_cons_of_mem c hd)) (first + 1)
      refine List.pairwise_append.2 ⟨?_, hrest, ?_⟩
      · refine List.pairwise_map.2 ((ih c List.mem_cons_self).imp ?_)
        intro p q hpq
        exact List.cons_lt_cons_iff.2 (.inr ⟨rfl, hpq⟩)
      · -- a later sibling has a higher number
        intro p hp q hq
        obtain ⟨p, -, rfl⟩ := List.mem_map.1 hp
        cases q with
        | nil => exact absurd hq (nil_notMem_forestPaths _ cs)
        | cons k q =>
          obtain ⟨i, rfl, -⟩ := cons_mem_forestPaths.1 hq
          exact List.cons_lt_cons_iff.2 (.inl (by omega))

/-- The nodes of a tree, taken in order, stand at the places from zero on. -/
theorem map_place_paths (c : ConcreteTree) : c.paths.map c.place = List.range c.size := by
  induction c with
  | node info cs ih =>
    -- the siblings not yet reached, after those that have been counted
    suffices hforest : ∀ counted, (forestPaths counted.length cs).map
        (node info (counted ++ cs)).place =
          List.range' (1 + forestSize counted) (forestSize cs) by
      have hall := hforest []
      rw [paths, List.map_cons, size, List.range_eq_range', Nat.add_comm 1, List.range'_succ]
      simpa [place, forestSize] using hall
    induction cs with
    | nil => simp [forestPaths, forestSize]
    | cons c cs ihcs =>
      intro counted
      have hfirst : (c.paths.map (counted.length :: ·)).map (node info (counted ++ c :: cs)).place =
          List.range' (1 + forestSize counted) c.size := by
        have hshift : ∀ p, (node info (counted ++ c :: cs)).place (counted.length :: p) =
            1 + forestSize counted + c.place p := by
          intro p
          simp [place]
        have hplaces := ih c List.mem_cons_self
        rw [List.map_map, List.range'_eq_map_range, ← hplaces, List.map_map]
        exact List.map_congr_left fun p _ => hshift p
      have hrest := ihcs (fun d hd => ih d (List.mem_cons_of_mem c hd)) (counted ++ [c])
      rw [forestPaths, List.map_append, hfirst, forestSize, ← List.range'_append_1]
      simpa [forestSize_append, forestSize, Nat.add_assoc] using hrest

/-- The paths of all nodes of a subtree, from the root of the whole tree. -/
def pathsFrom (c : ConcreteTree) (p : Path) : List Path :=
  (c.subtree? p).elim [] fun s => s.paths.map (p ++ ·)

/-- All paths go on from the root. -/
theorem pathsFrom_nil (c : ConcreteTree) : c.pathsFrom [] = c.paths := by
  simp [pathsFrom, subtree?]

/-- The paths of a subtree go on from its own path. -/
theorem prefix_of_mem_pathsFrom {c : ConcreteTree} {p q : Path} (h : q ∈ c.pathsFrom p) :
    p <+: q := by
  unfold pathsFrom at h
  cases hs : c.subtree? p with
  | none => simp [hs] at h
  | some s =>
    rw [hs, Option.elim_some] at h
    obtain ⟨r, -, rfl⟩ := List.mem_map.1 h
    exact List.prefix_append p r

/-- The paths among some siblings are those of the first, of the second and so on. -/
theorem forestPaths_eq_flatMap (first : Nat) (cs : List ConcreteTree) :
    forestPaths first cs = (List.range cs.length).flatMap fun k =>
      cs[k]?.elim [] fun d => d.paths.map ((first + k) :: ·) := by
  induction cs generalizing first with
  | nil => rfl
  | cons c cs ih =>
    rw [forestPaths, ih, List.length_cons, List.range_succ_eq_map, List.flatMap_cons,
      List.flatMap_map]
    simp [Nat.add_assoc, Nat.add_comm 1]

/-- The paths of a subtree are its own and those of its children's subtrees, in order. -/
theorem pathsFrom_eq {c s : ConcreteTree} {p : Path} (h : c.subtree? p = some s) :
    c.pathsFrom p =
      p :: (List.range s.children.length).flatMap fun k => c.pathsFrom (p ++ [k]) := by
  obtain ⟨info, cs⟩ := s
  have hchild : ∀ k, c.pathsFrom (p ++ [k]) =
      (cs[k]?.elim [] fun d => d.paths.map ((0 + k) :: ·)).map (p ++ ·) := by
    intro k
    rw [pathsFrom, subtree?_concat h, children_node]
    cases cs[k]? with
    | none => rfl
    | some d => simp
  simp only [hchild]
  rw [pathsFrom, h, Option.elim_some, paths, List.map_cons, List.append_nil,
    forestPaths_eq_flatMap, List.map_flatMap, children_node]

/-- The paths of a subtree begin with its own. -/
theorem pathsFrom_eq_cons {c s : ConcreteTree} {p : Path} (h : c.subtree? p = some s) :
    c.pathsFrom p = p :: (c.pathsFrom p).tail := by
  rw [pathsFrom_eq h, List.tail_cons]

/-- The paths of a subtree other than its own go on by at least a step, and lead to nodes. -/
theorem exists_of_mem_tail_pathsFrom {c : ConcreteTree} {p q : Path}
    (h : q ∈ (c.pathsFrom p).tail) :
    ∃ k l d, q = p ++ k :: l ∧ c.subtree? q = some d := by
  cases hs : c.subtree? p with
  | none => simp [pathsFrom, hs] at h
  | some s =>
    rw [pathsFrom_eq hs, List.tail_cons, List.mem_flatMap] at h
    obtain ⟨k, -, hq⟩ := h
    obtain ⟨l, rfl⟩ := prefix_of_mem_pathsFrom hq
    rw [pathsFrom] at hq
    cases hd : c.subtree? (p ++ [k]) with
    | none => simp [hd] at hq
    | some d =>
      rw [hd, Option.elim_some] at hq
      obtain ⟨l', hl', heq⟩ := List.mem_map.1 hq
      obtain rfl := List.append_cancel_left heq
      obtain ⟨e, he⟩ := mem_paths.1 hl'
      exact ⟨k, l', e, by simp, by rw [subtree?_append, hd, Option.bind_some, he]⟩

/-- A list of parts of which at most one is not empty is that part. -/
theorem flatMap_eq_of_mem {α β : Type} {l : List α} {a : α} {f : α → List β} (hl : l.Nodup)
    (ha : a ∈ l) (hf : ∀ b ∈ l, b ≠ a → f b = []) : l.flatMap f = f a := by
  obtain ⟨before, after, rfl⟩ := List.append_of_mem ha
  have hbefore : before.flatMap f = [] := by
    refine List.flatMap_eq_nil_iff.2 fun b hb => hf b (by simp [hb]) ?_
    rintro rfl
    exact (List.nodup_append.1 hl).2.2 b hb b (by simp) rfl
  have hafter : after.flatMap f = [] := by
    refine List.flatMap_eq_nil_iff.2 fun b hb => hf b (by simp [hb]) ?_
    rintro rfl
    exact (List.nodup_cons.1 (List.nodup_append.1 hl).2.1).1 hb
  rw [List.flatMap_append, List.flatMap_cons, hbefore, hafter, List.nil_append, List.append_nil]

/-- To pick from all paths some that go on from one path, pick them from those that do. -/
theorem filter_paths_eq {c s : ConcreteTree} {p : Path} (h : c.subtree? p = some s)
    {pick : Path → Bool} (hpick : ∀ q, pick q → p <+: q) :
    c.paths.filter pick = (c.pathsFrom p).filter pick := by
  induction p using List.reverseRecOn generalizing s with
  | nil => rw [pathsFrom_nil]
  | append_singleton p k ih =>
    obtain ⟨r, hr, hchild⟩ := exists_of_subtree?_concat h
    have hk : k < r.children.length := (List.getElem?_eq_some_iff.1 hchild).1
    have hself : pick p = false := by
      by_contra hp
      have hlength := (hpick p (by simpa using hp)).length_le
      rw [List.length_append, List.length_singleton] at hlength
      omega
    -- another child leads elsewhere
    have hothers : ∀ j ∈ List.range r.children.length, j ≠ k →
        (c.pathsFrom (p ++ [j])).filter pick = [] := by
      intro j _ hj
      refine List.filter_eq_nil_iff.2 fun q hq hp => hj ?_
      have hjq := prefix_of_mem_pathsFrom hq
      have hkq := hpick q hp
      have heq := List.prefix_of_prefix_length_le hjq hkq (by simp)
      simpa using heq.eq_of_length (by simp)
    rw [ih hr fun q hq => (List.prefix_append p [k]).trans (hpick q hq), pathsFrom_eq hr,
      List.filter_cons, hself, if_neg Bool.false_ne_true, List.filter_flatMap,
      flatMap_eq_of_mem List.nodup_range (List.mem_range.2 hk) hothers]

/-- To pick some paths that go on from one path by a step or more, pick them from those that do. -/
theorem filter_paths_eq_tail {c s : ConcreteTree} {p : Path} (h : c.subtree? p = some s)
    {pick : Path → Bool} (hpick : ∀ q, pick q → p <+: q) (hself : ¬ pick p) :
    c.paths.filter pick = (c.pathsFrom p).tail.filter pick := by
  rw [filter_paths_eq h hpick, pathsFrom_eq_cons h, List.filter_cons_of_neg hself, List.tail_cons]

/-- Paths picked from those of all nodes have different places. -/
theorem nodup_map_place_filter (c : ConcreteTree) (pick : Path → Bool) :
    ((c.paths.filter pick).map c.place).Nodup := by
  have hall : (c.paths.map c.place).Nodup := c.map_place_paths ▸ List.nodup_range
  exact hall.sublist (List.filter_sublist.map c.place)

/-- Different nodes stand at different places. -/
theorem place_inj {c s s' : ConcreteTree} {p q : Path} (hp : c.subtree? p = some s)
    (hq : c.subtree? q = some s') (h : c.place p = c.place q) : p = q := by
  have hnodup : (c.paths.map c.place).Nodup := by
    rw [map_place_paths]
    exact List.nodup_range
  exact List.inj_on_of_nodup_map hnodup (mem_paths.2 ⟨s, hp⟩) (mem_paths.2 ⟨s', hq⟩) h

/-- Every number below the size of a tree is the place of a node. -/
theorem exists_place_eq {c : ConcreteTree} {i : Nat} (h : i < c.size) :
    ∃ p s, c.subtree? p = some s ∧ c.place p = i := by
  have hi : i ∈ c.paths.map c.place := by
    rw [map_place_paths]
    exact List.mem_range.2 h
  obtain ⟨p, hp, rfl⟩ := List.mem_map.1 hi
  obtain ⟨s, hs⟩ := mem_paths.1 hp
  exact ⟨p, s, hs, rfl⟩

/-- The places of some siblings, one by one. -/
theorem places_eq_map (start : Nat) (cs : List ConcreteTree) :
    places start cs = (List.range cs.length).map fun k => start + forestSize (cs.take k) := by
  induction cs generalizing start with
  | nil => rfl
  | cons c cs ih =>
    rw [places, ih, List.length_cons, List.range_succ_eq_map, List.map_cons, List.map_map]
    simp [forestSize, Function.comp_def, Nat.add_assoc]

end ConcreteTree

namespace SyntaxTree

open ConcreteTree

/-- A child of a held tree is held after the root and all earlier siblings. -/
theorem Holds.child {t : SyntaxTree} {place k : Nat} {parent : Option Kind} {c d : ConcreteTree}
    (h : t.Holds place parent c) (hd : c.children[k]? = some d) :
    t.Holds (place + 1 + forestSize (c.children.take k)) (some (t.kind place)) d := by
  obtain ⟨hk, rfl⟩ := List.getElem?_eq_some_iff.1 hd
  have hk' : k < (t.children place).length := h.children.length_eq ▸ hk
  have hheld := h.children.get hk' hk
  simpa [h.children_eq, places_eq_map] using hheld

/-- The kind of the parent of the node that a path leads to, as it stands in a syntax tree; the root
has no parent. -/
def parentKind (t : SyntaxTree) (c : ConcreteTree) (p : Path) : Option Kind :=
  if p = [] then none else some (t.kind (c.place p.dropLast))

/-- A lowered tree holds every subtree at the place of its path, below the kind that its parent has
been given. -/
theorem holds_lower_subtree (source : String) {c s : ConcreteTree} {p : Path}
    (h : c.subtree? p = some s) :
    (lower source c).Holds (c.place p) ((lower source c).parentKind c p) s := by
  induction p using List.reverseRecOn generalizing s with
  | nil =>
    obtain rfl := Option.some.inj h
    exact holds_lower source c
  | append_singleton p k ih =>
    obtain ⟨r, hr, hs⟩ := exists_of_subtree?_concat h
    have hchild := (ih hr).child hs
    rw [← place_concat hr] at hchild
    simpa [parentKind] using hchild

/-- The children of the copy of a node are the copies of its children, in order. -/
theorem children_lower (source : String) {c s : ConcreteTree} {p : Path}
    (h : c.subtree? p = some s) :
    (lower source c).children (c.place p) =
      (List.range s.children.length).map fun k => c.place (p ++ [k]) := by
  rw [(holds_lower_subtree source h).children_eq, places_eq_map]
  exact List.map_congr_left fun k _ => (place_concat h k).symm

/-- The copies of a node's children are among the children of its copy. -/
theorem place_mem_children_lower (source : String) {c s d : ConcreteTree} {p : Path} {k : Nat}
    (h : c.subtree? p = some s) (hd : s.children[k]? = some d) :
    c.place (p ++ [k]) ∈ (lower source c).children (c.place p) := by
  rw [children_lower source h]
  have hk : k < s.children.length := (List.getElem?_eq_some_iff.1 hd).1
  exact List.mem_map.2 ⟨k, List.mem_range.2 hk, rfl⟩

/-- The children of the copy of a node are copies of its children. -/
theorem exists_of_mem_children_lower {source : String} {c s : ConcreteTree} {p : Path} {j : Nat}
    (h : c.subtree? p = some s) (hj : j ∈ (lower source c).children (c.place p)) :
    ∃ k d, c.subtree? (p ++ [k]) = some d ∧ s.children[k]? = some d ∧ j = c.place (p ++ [k]) := by
  rw [children_lower source h] at hj
  obtain ⟨k, hk, rfl⟩ := List.mem_map.1 hj
  obtain ⟨d, hd⟩ := exists_subtree?_concat h (List.mem_range.1 hk)
  exact ⟨k, d, hd, subtree?_concat h k ▸ hd, rfl⟩

/-- What fills a role below the copy of a node is the copy of a child that fills it. -/
theorem exists_of_childByField_lower {source : String} {c s : ConcreteTree} {p : Path}
    (h : c.subtree? p = some s) {field : Field} {j : Nat}
    (hj : (lower source c).childByField (c.place p) field = some j) :
    ∃ k d, c.subtree? (p ++ [k]) = some d ∧ s.children[k]? = some d ∧
      j = c.place (p ++ [k]) ∧ d.info.fills field := by
  obtain ⟨k, d, hd, hchild, rfl⟩ := exists_of_mem_children_lower h (List.mem_of_find?_eq_some hj)
  have hfield := List.find?_some hj
  rw [(holds_lower_subtree source hd).field, beq_iff_eq] at hfield
  exact ⟨k, d, hd, hchild, rfl, ConcreteNode.bind_ofName?_eq_some_iff.1 hfield⟩

/-- Where nothing fills a role below the copy of a node, no child of the node fills it. -/
theorem not_of_childByField_lower {source : String} {c s : ConcreteTree} {p : Path}
    (h : c.subtree? p = some s) {field : Field}
    (hnone : (lower source c).childByField (c.place p) field = none) :
    ∀ d ∈ s.children, ¬ d.info.fills field := by
  intro d hd hfield
  obtain ⟨k, hk⟩ := List.getElem?_of_mem hd
  have hchild : c.subtree? (p ++ [k]) = some d := (subtree?_concat h k).trans hk
  have hnot := List.find?_eq_none.1 hnone _ (place_mem_children_lower source h hk)
  rw [(holds_lower_subtree source hchild).field,
    ConcreteNode.bind_ofName?_eq_some_iff.2 hfield] at hnot
  simp at hnot

/-- The copies of the children of a node are all different. -/
theorem nodup_children_lower (source : String) {c s : ConcreteTree} {p : Path}
    (h : c.subtree? p = some s) : ((lower source c).children (c.place p)).Nodup := by
  rw [children_lower source h]
  refine List.Nodup.map_on ?_ List.nodup_range
  intro k hk l hl heq
  obtain ⟨d, hd⟩ := exists_subtree?_concat h (List.mem_range.1 hk)
  obtain ⟨e, he⟩ := exists_subtree?_concat h (List.mem_range.1 hl)
  simpa using place_inj hd he heq

/-- Every node of a lowered tree but the root has one parent, which comes before it and has it once
among its children. -/
theorem exists_unique_parent_lower (source : String) (c : ConcreteTree) {j : Nat} (hpos : 0 < j)
    (hj : j < (lower source c).size) :
    ∃ i < j, ((lower source c).children i).count j = 1 ∧
      ∀ i', j ∈ (lower source c).children i' → i' = i := by
  -- a place other than the first is that of a path with a last step
  obtain ⟨q, d, hd, rfl⟩ := exists_place_eq (size_lower source c ▸ hj)
  obtain rfl | ⟨p, k, rfl⟩ := q.eq_nil_or_concat'
  · exact absurd hpos (Nat.lt_irrefl 0)
  obtain ⟨s, hs, hchild⟩ := exists_of_subtree?_concat hd
  have hmem := place_mem_children_lower source hs hchild
  refine ⟨c.place p, (lt_of_mem_children hmem).1,
    List.count_eq_one_of_mem (nodup_children_lower source hs) hmem, ?_⟩
  intro i' hi'
  have hlt := lt_of_mem_children hi'
  obtain ⟨p', s', hs', rfl⟩ := exists_place_eq (c := c) (i := i') (by
    rw [← size_lower source c]
    omega)
  obtain ⟨k', d', hd', -, heq⟩ := exists_of_mem_children_lower hs' hi'
  have hpath := place_inj hd' hd heq.symm
  rw [(List.append_inj' hpath rfl).1]

/-- Lowering copies a concrete tree faithfully and in pre-order.  The paths of the tree, which are
those of its nodes in the order of words, have the places zero, one, two and so on, and these are
all places of the syntax tree.  The node at the place of a path is the copy of the node that the
path leads to: its bytes, lines and role are its own, its kind follows from its own data and the
kind that its parent has got, and its children are the copies of the children in the same order.
Every node but the root is entered once with one parent, which comes before it. -/
theorem lower_is_preorder_copy (source : String) (c : ConcreteTree) :
    let t := lower source c
    t.source = source ∧
    (∀ p, p ∈ c.paths ↔ ∃ s, c.subtree? p = some s) ∧
    c.paths.Pairwise (· < ·) ∧
    c.paths.map c.place = List.range t.size ∧
    c.place [] = root ∧
    (∀ p s, c.subtree? p = some s →
      t.nodes[c.place p]? = some
        { kind := s.info.classify (t.parentKind c p)
          field := s.info.field.bind Field.ofName?
          span := .ofRows s.info.start.row s.info.stop.row s.info.stop.column
          bytes := s.info.bytes
          children := ((List.range s.children.length).map fun k =>
            c.place (p ++ [k])).toArray }) ∧
    ∀ j, 0 < j → j < t.size →
      ∃ i < j, (t.children i).count j = 1 ∧ ∀ i', j ∈ t.children i' → i' = i := by
  intro t
  refine ⟨source_lower source c, fun p => mem_paths, c.pairwise_paths, ?_, rfl, ?_, ?_⟩
  · rw [map_place_paths, size_lower]
  · intro p s hs
    have hnode := (holds_lower_subtree source hs).getElem?
    have hchildren := children_lower source hs
    rw [(holds_lower_subtree source hs).children_eq] at hchildren
    rw [hchildren] at hnode
    exact hnode
  · intro j hpos hj
    exact exists_unique_parent_lower source c hpos hj

end SyntaxTree

end DocSignature.Syntax
