import DocSignature.Syntax.Lowering
import Mathlib.Data.List.Forall2

/-!
# What lowering writes

The loop of lowering (`lower`) keeps two things in step: a cursor over the concrete tree and a stack
of open ancestors.  Here the loop is shown to do what a plain recursion over the tree does, and the
recursion to write one list of nodes that can be read off the tree: `ConcreteTree.copies`.  The last
part says what stands where: `SyntaxTree.Holds` relates a place of a syntax tree to the concrete
tree whose copy starts there.
-/

set_option autoImplicit false

namespace DocSignature.Syntax

namespace ConcreteTree

/-- The places of the roots of some trees whose copies stand one after the other. -/
def places (start : Nat) : List ConcreteTree → List Nat
  | [] => []
  | c :: cs => start :: places (start + c.size) cs

mutual

/-- The nodes of the copy of a tree that starts at a place, below a parent of a known kind. -/
def copies (start : Nat) (parent : Option Kind) : ConcreteTree → List Node
  | node info cs =>
    { info.lower parent with children := (places (start + 1) cs).toArray } ::
      forestCopies (start + 1) (info.classify parent) cs

/-- The nodes of the copies of some trees that stand one after the other. -/
def forestCopies (start : Nat) (parent : Kind) : List ConcreteTree → List Node
  | [] => []
  | c :: cs => c.copies start (some parent) ++ forestCopies (start + c.size) parent cs

end

mutual

/-- A copy has as many nodes as the tree. -/
theorem length_copies (start : Nat) (parent : Option Kind) (c : ConcreteTree) :
    (c.copies start parent).length = c.size := by
  obtain ⟨info, cs⟩ := c
  rw [copies, size, List.length_cons, length_forestCopies]
  omega

/-- Copies of some trees have as many nodes as the trees. -/
theorem length_forestCopies (start : Nat) (parent : Kind) (cs : List ConcreteTree) :
    (forestCopies start parent cs).length = forestSize cs := by
  cases cs with
  | nil => rfl
  | cons c cs =>
    rw [forestCopies, forestSize, List.length_append, length_copies, length_forestCopies]

end

end ConcreteTree

open ConcreteTree

/-- A node with more children at the end. -/
def Node.adopt (more : List Nat) (n : Node) : Node :=
  { n with children := n.children ++ more.toArray }

/-- Children adopted in two goes are adopted in one. -/
theorem Node.adopt_comp (xs ys : List Nat) : adopt ys ∘ adopt xs = adopt (xs ++ ys) := by
  funext n
  simp [adopt, Array.append_assoc]

/-- A change in the first part of a list leaves the second part alone. -/
theorem modify_append {α : Type} (f : α → α) (l₁ l₂ : List α) (i : Nat) (h : i < l₁.length) :
    (l₁ ++ l₂).modify i f = l₁.modify i f ++ l₂ := by
  induction l₁ generalizing i with
  | nil => simp at h
  | cons a l ih =>
    cases i with
    | zero => rfl
    | succ i =>
      rw [List.cons_append, List.modify_succ_cons, List.modify_succ_cons, List.cons_append,
        ih i (by simpa using h)]

/-- A change right after the first part of a list. -/
theorem modify_append_length {α : Type} (f : α → α) (l : List α) (a : α) :
    (l ++ [a]).modify l.length f = l ++ [f a] := by
  induction l with
  | nil => rfl
  | cons b l ih =>
    rw [List.cons_append, List.length_cons, List.modify_succ_cons, ih, List.cons_append]

namespace SyntaxTree

/-- The nodes of a tree after one of them, if any, has adopted more children. -/
def adopted (t : SyntaxTree) (parent : Option Ancestor) (more : List Nat) : List Node :=
  match parent with
  | some (p, _) => t.nodes.toList.modify p (Node.adopt more)
  | none => t.nodes.toList

/-- Whether the parent of a node to copy, if there is one, has been copied. -/
def Knows (t : SyntaxTree) (parent : Option Ancestor) : Prop :=
  ∀ a ∈ parent, a.1 < t.size

/-- Adopting does not change the number of nodes. -/
theorem length_adopted (t : SyntaxTree) (parent : Option Ancestor) (more : List Nat) :
    (t.adopted parent more).length = t.size := by
  obtain _ | ⟨p, k⟩ := parent
  · simp [adopted, size]
  · simp [adopted, size]

/-- Copying a node appends it and enters it with its parent. -/
theorem nodes_copyNode {t : SyntaxTree} {parent : Option Ancestor} (info : ConcreteNode)
    (h : t.Knows parent) :
    (t.copyNode parent info).nodes.toList =
      t.adopted parent [t.size] ++ [info.lower (parent.map (·.2))] := by
  obtain _ | ⟨p, k⟩ := parent
  · simp [copyNode, adopted, push, ConcreteNode.lower]
  · have hp : p < t.nodes.toList.length := h (p, k) rfl
    have hlinked : p < t.size ∧ t.size < (t.push (info.lower (some k))).nodes.size := by
      simpa [push, size] using hp
    have hadopt : (fun n : Node => { n with children := n.children.push t.size }) =
        Node.adopt [t.size] := by
      funext n
      simp [Node.adopt]
    simp only [copyNode, Option.map_some, addChild, hlinked, and_self, dif_pos, hadopt,
      Array.toList_modify, adopted]
    rw [← modify_append _ _ _ _ hp]
    simp [push, ConcreteNode.lower]

/-- A copied node is one more node. -/
theorem size_copyNode {t : SyntaxTree} {parent : Option Ancestor} (info : ConcreteNode)
    (h : t.Knows parent) : (t.copyNode parent info).size = t.size + 1 := by
  have hlen := congrArg List.length (nodes_copyNode info h)
  rw [List.length_append, length_adopted] at hlen
  exact hlen

/-- The kind of a copied node is settled by the node and the kind of its parent. -/
theorem kind_copyNode {t : SyntaxTree} {parent : Option Ancestor} (info : ConcreteNode)
    (h : t.Knows parent) :
    (t.copyNode parent info).kind t.size = info.classify (parent.map (·.2)) := by
  have hnode : (t.copyNode parent info).nodes[t.size]? =
      some (info.lower (parent.map (·.2))) := by
    rw [← Array.getElem?_toList, nodes_copyNode info h,
      List.getElem?_append_right (Nat.le_of_eq (t.length_adopted parent _)), length_adopted]
    simp
  rw [kind, hnode]
  rfl

/-- Copying a node leaves the text alone. -/
theorem source_copyNode (t : SyntaxTree) (parent : Option Ancestor) (info : ConcreteNode) :
    (t.copyNode parent info).source = t.source := by
  obtain _ | ⟨p, k⟩ := parent
  · rfl
  · simp only [copyNode, addChild]
    split <;> rfl

/-! ## The recursion behind the loop -/

mutual

/-- Copies a whole tree, node by node, below a parent. -/
def graft (t : SyntaxTree) (parent : Option Ancestor) : ConcreteTree → SyntaxTree
  | .node info cs =>
    (t.copyNode parent info).graftAll (t.size, info.classify (parent.map (·.2))) cs

/-- Copies some trees, one after the other, below one parent. -/
def graftAll (t : SyntaxTree) (parent : Ancestor) : List ConcreteTree → SyntaxTree
  | [] => t
  | c :: cs => (t.graft (some parent) c).graftAll parent cs

end

/-- Copies what has not been visited of the trees above a cursor, each part below the ancestor that
has been opened for it. -/
def graftLater (t : SyntaxTree) : List Cursor.Frame → List Ancestor → SyntaxTree
  | frame :: above, a :: ancestors => (t.graftAll a frame.later).graftLater above ancestors
  | _, _ => t

/-- A climb goes to where the unvisited part of the tree begins, and the stack of open ancestors
follows it.  If there is no such place then all has been visited. -/
theorem graftLater_climb (t : SyntaxTree) (cursor : Cursor) (ancestors : List Ancestor)
    (hstep : cursor.above.length = ancestors.length) :
    match cursor.climb ancestors with
    | some (next, rest) =>
      next.above.length = rest.length ∧ rest <:+ ancestors ∧
        t.graftLater cursor.above ancestors =
          (t.graft rest.head? next.focus).graftLater next.above rest
    | none => t.graftLater cursor.above ancestors = t := by
  fun_induction Cursor.climb cursor ancestors with
  | case1 cursor ancestors next hnext =>
    -- the next sibling waits in the nearest frame, whose ancestor is the head of the stack
    obtain ⟨focus, _ | ⟨⟨info, earlier, _ | ⟨c, cs⟩⟩, up⟩⟩ := cursor
    · simp [Cursor.nextSibling?] at hnext
    · simp [Cursor.nextSibling?] at hnext
    · obtain rfl := Option.some.inj hnext
      obtain _ | ⟨a, ancestors⟩ := ancestors
      · simp at hstep
      · exact ⟨hstep, List.suffix_rfl, rfl⟩
  | case2 cursor ancestors hnone up hup ih =>
    obtain ⟨focus, _ | ⟨⟨info, earlier, _ | ⟨c, cs⟩⟩, above⟩⟩ := cursor
    · simp [Cursor.parent?] at hup
    · -- nothing waits in the nearest frame: the frame and its ancestor go together
      obtain rfl := Option.some.inj hup
      obtain _ | ⟨a, ancestors⟩ := ancestors
      · simp at hstep
      · have hup := ih (by simpa using hstep)
        revert hup
        dsimp only [List.tail_cons, graftLater, graftAll]
        cases Cursor.climb _ ancestors with
        | none => exact id
        | some found =>
          rintro ⟨hlength, hsuffix, heq⟩
          exact ⟨hlength, hsuffix.trans (List.suffix_cons a ancestors), heq⟩
    · simp [Cursor.nextSibling?] at hnone
  | case3 cursor ancestors hnone hroot =>
    obtain ⟨focus, _ | ⟨frame, above⟩⟩ := cursor
    · rfl
    · simp [Cursor.parent?] at hroot

/-- The loop copies what the recursion copies, as long as the stack of open ancestors is as deep as
the cursor stands and holds places that have been copied. -/
theorem lowerFrom_eq (t : SyntaxTree) (cursor : Cursor) (ancestors : List Ancestor)
    (hstep : cursor.above.length = ancestors.length) (hknown : ∀ a ∈ ancestors, a.1 < t.size) :
    t.lowerFrom cursor ancestors =
      (t.graft ancestors.head? cursor.focus).graftLater cursor.above ancestors := by
  fun_induction lowerFrom t cursor ancestors with
  | case1 t cursor ancestors id copied child hchild ih =>
    obtain ⟨⟨info, _ | ⟨c, cs⟩⟩, above⟩ := cursor
    · simp [Cursor.firstChild?] at hchild
    · obtain rfl := Option.some.inj hchild
      have hparent : t.Knows ancestors.head? :=
        fun a ha => hknown a (List.mem_of_mem_head? ha)
      have hsize : copied.size = t.size + 1 := size_copyNode info hparent
      have hkind : copied.kind id = info.classify (ancestors.head?.map (·.2)) :=
        kind_copyNode info hparent
      have hopen : ∀ a ∈ (id, copied.kind id) :: ancestors, a.1 < copied.size := by
        intro a ha
        rcases List.mem_cons.1 ha with rfl | ha
        · exact hsize ▸ Nat.lt_succ_self t.size
        · exact hsize ▸ Nat.lt_succ_of_lt (hknown a ha)
      rw [ih (by simpa using hstep) hopen, hkind]
      rfl
  | case2 t cursor ancestors copied hleaf next rest hclimb ih =>
    obtain ⟨⟨info, _ | ⟨c, cs⟩⟩, above⟩ := cursor
    · have hparent : t.Knows ancestors.head? :=
        fun a ha => hknown a (List.mem_of_mem_head? ha)
      have hsize : copied.size = t.size + 1 := size_copyNode info hparent
      have hlater := graftLater_climb copied _ ancestors hstep
      rw [hclimb] at hlater
      obtain ⟨hlength, hsuffix, heq⟩ := hlater
      rw [ih hlength fun a ha => hsize ▸ Nat.lt_succ_of_lt (hknown a (hsuffix.subset ha)), ← heq]
      rfl
    · simp [Cursor.firstChild?] at hleaf
  | case3 t cursor ancestors copied hleaf hclimb =>
    obtain ⟨⟨info, _ | ⟨c, cs⟩⟩, above⟩ := cursor
    · have hlater := graftLater_climb copied _ ancestors hstep
      rw [hclimb] at hlater
      exact hlater.symm
    · simp [Cursor.firstChild?] at hleaf

/-! ## The list that the recursion writes -/

mutual

/-- Copying a tree appends the nodes of its copy and enters the root with its parent. -/
theorem nodes_graft (t : SyntaxTree) (parent : Option Ancestor) (c : ConcreteTree)
    (h : t.Knows parent) :
    (t.graft parent c).nodes.toList =
      t.adopted parent [t.size] ++ c.copies t.size (parent.map (·.2)) := by
  obtain ⟨info, cs⟩ := c
  have hsize := size_copyNode info h
  have hself : t.size < (t.copyNode parent info).size := by omega
  have hplace := t.length_adopted parent [t.size]
  -- the copied node is the last one so far, and it adopts its children
  have hadopts : (t.adopted parent [t.size] ++ [info.lower (parent.map (·.2))]).modify t.size
        (Node.adopt (places (t.size + 1) cs)) =
      t.adopted parent [t.size] ++
        [{ info.lower (parent.map (·.2)) with children := (places (t.size + 1) cs).toArray }] := by
    have hmodify := modify_append_length (Node.adopt (places (t.size + 1) cs))
      (t.adopted parent [t.size]) (info.lower (parent.map (·.2)))
    rw [hplace] at hmodify
    rw [hmodify]
    simp [Node.adopt, ConcreteNode.lower]
  rw [graft, nodes_graftAll _ _ cs hself, nodes_copyNode info h, hsize, hadopts, copies]
  simp

/-- Copying trees below one parent appends the nodes of their copies and enters the roots with the
parent, in order. -/
theorem nodes_graftAll (t : SyntaxTree) (parent : Ancestor) (cs : List ConcreteTree)
    (h : parent.1 < t.size) :
    (t.graftAll parent cs).nodes.toList =
      t.nodes.toList.modify parent.1 (Node.adopt (places t.size cs)) ++
        forestCopies t.size parent.2 cs := by
  cases cs with
  | nil =>
    have hnone : Node.adopt [] = id := by
      funext n
      simp [Node.adopt]
    simp [graftAll, places, forestCopies, hnone]
  | cons c cs =>
    have hparent : t.Knows (some parent) := by
      intro a ha
      rwa [← Option.mem_some_iff.1 ha]
    have hfirst := nodes_graft t (some parent) c hparent
    have hsize : (t.graft (some parent) c).size = t.size + c.size := by
      have hlen := congrArg List.length hfirst
      rw [List.length_append, length_adopted, length_copies] at hlen
      exact hlen
    have hlater : parent.1 < (t.graft (some parent) c).size := by omega
    have hplace : parent.1 < (t.adopted (some parent) [t.size]).length := by
      rw [length_adopted]
      exact h
    rw [graftAll, nodes_graftAll _ parent cs hlater, hfirst, hsize,
      modify_append _ _ _ _ hplace]
    simp only [adopted, List.modify_modify_eq, Node.adopt_comp, places, forestCopies,
      List.append_assoc, Option.map_some, List.singleton_append]

end

mutual

/-- Copying a tree leaves the text alone. -/
theorem source_graft (t : SyntaxTree) (parent : Option Ancestor) (c : ConcreteTree) :
    (t.graft parent c).source = t.source := by
  obtain ⟨info, cs⟩ := c
  rw [graft, source_graftAll, source_copyNode]

/-- Copying some trees leaves the text alone. -/
theorem source_graftAll (t : SyntaxTree) (parent : Ancestor) (cs : List ConcreteTree) :
    (t.graftAll parent cs).source = t.source := by
  cases cs with
  | nil => rfl
  | cons c cs => rw [graftAll, source_graftAll, source_graft]

end

/-- Lowering is the recursion from an empty tree. -/
theorem lower_eq_graft (source : String) (c : ConcreteTree) :
    lower source c = (empty source).graft none c :=
  lowerFrom_eq (empty source) (Cursor.ofTree c) [] rfl (by simp)

/-- A lowered tree keeps its text. -/
theorem source_lower (source : String) (c : ConcreteTree) : (lower source c).source = source := by
  rw [lower_eq_graft, source_graft]
  rfl

/-- The nodes of a lowered tree are those of the copy that starts at the first place. -/
theorem nodes_lower (source : String) (c : ConcreteTree) :
    (lower source c).nodes.toList = c.copies 0 none := by
  rw [lower_eq_graft, nodes_graft _ none c (by simp [Knows])]
  rfl

/-- A lowered tree has one node for each node of the concrete tree. -/
theorem size_lower (source : String) (c : ConcreteTree) : (lower source c).size = c.size := by
  rw [← length_copies 0 none c, ← nodes_lower source c]
  rfl

/-! ## Where the copies stand -/

/-- The copy of a concrete tree, below a parent of a known kind, starts at a place. -/
def Holds (t : SyntaxTree) (place : Nat) (parent : Option Kind) (c : ConcreteTree) : Prop :=
  c.copies place parent <+: t.nodes.toList.drop place

/-- A lowered tree holds its concrete tree from the root on. -/
theorem holds_lower (source : String) (c : ConcreteTree) : (lower source c).Holds root none c := by
  rw [Holds, nodes_lower]
  exact List.prefix_rfl

/-- What follows the first part of a stretch of a list starts where that part ends. -/
theorem prefix_drop_of_append {α : Type} {xs ys l : List α} {start : Nat}
    (h : xs ++ ys <+: l.drop start) : ys <+: l.drop (start + xs.length) := by
  obtain ⟨rest, hrest⟩ := h
  refine ⟨rest, ?_⟩
  rw [← List.drop_drop, ← hrest, List.append_assoc, List.drop_left]

/-- Trees whose copies stand one after the other are held from their places on. -/
theorem forall₂_holds_places {t : SyntaxTree} {start : Nat} {parent : Kind}
    {cs : List ConcreteTree} (h : forestCopies start parent cs <+: t.nodes.toList.drop start) :
    List.Forall₂ (fun place c => t.Holds place (some parent) c) (places start cs) cs := by
  induction cs generalizing start with
  | nil => exact .nil
  | cons c cs ih =>
    rw [forestCopies] at h
    have hrest : forestCopies (start + c.size) parent cs <+:
        t.nodes.toList.drop (start + c.size) := by
      have hdrop := prefix_drop_of_append h
      rwa [length_copies] at hdrop
    exact .cons ((List.prefix_append _ _).trans h) (ih hrest)

section

variable {t : SyntaxTree} {place : Nat} {parent : Option Kind} {c : ConcreteTree}

/-- The node at the place of a tree is the copy of its root. -/
theorem Holds.getElem? (h : t.Holds place parent c) :
    t.nodes[place]? = some { c.info.lower parent with
      children := (places (place + 1) c.children).toArray } := by
  obtain ⟨info, cs⟩ := c
  rw [Holds, copies] at h
  obtain ⟨rest, hrest, -⟩ := List.cons_prefix_iff.1 h
  have hfirst := congrArg (·[0]?) hrest
  simpa using hfirst

/-- The kind of a held tree's root is settled by the root and the kind of its parent. -/
theorem Holds.kind (h : t.Holds place parent c) : t.kind place = c.info.classify parent := by
  rw [SyntaxTree.kind, h.getElem?]
  rfl

/-- The role of a held tree's root. -/
theorem Holds.field (h : t.Holds place parent c) :
    t.field place = c.info.field.bind Field.ofName? := by
  rw [SyntaxTree.field, h.getElem?]
  rfl

/-- The lines of a held tree's root. -/
theorem Holds.span (h : t.Holds place parent c) : t.span place = c.info.span := by
  rw [SyntaxTree.span, h.getElem?]
  rfl

/-- The bytes of a held tree's root. -/
theorem Holds.bytes (h : t.Holds place parent c) : t.bytes place = c.info.bytes := by
  rw [SyntaxTree.bytes, h.getElem?]
  rfl

/-- The children of a held tree's root start right after it. -/
theorem Holds.children_eq (h : t.Holds place parent c) :
    t.children place = places (place + 1) c.children := by
  rw [SyntaxTree.children, h.getElem?]

/-- The children of a held tree are held, in order, below the kind of its root. -/
theorem Holds.children (h : t.Holds place parent c) :
    List.Forall₂ (fun child d => t.Holds child (some (t.kind place)) d)
      (t.children place) c.children := by
  rw [h.children_eq, h.kind]
  obtain ⟨info, cs⟩ := c
  have hbelow : forestCopies (place + 1) (info.classify parent) cs <+:
      t.nodes.toList.drop (place + 1) := by
    rw [Holds, copies, ← List.singleton_append] at h
    exact prefix_drop_of_append h
  exact forall₂_holds_places hbelow

end

end SyntaxTree

end DocSignature.Syntax
