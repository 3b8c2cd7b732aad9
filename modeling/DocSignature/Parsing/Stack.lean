import DocSignature.Parsing.Tree

/-!
# Stacks with several versions

Readings of a text that are still possible share one stack.  Its nodes are numbered; a node knows
the state reached there and is linked to the nodes below it, with the tree that lies between.  Each
version of the stack is a head: its top node and what belongs to this reading alone.
-/

set_option autoImplicit false

namespace DocSignature.Parsing

open DocSignature.Grammar

/-- A link from a node to one below it.  No tree marks the place where an error was found. -/
structure Link (σ : Type) where
  node : Nat
  tree : Option (Tree σ)

/-- A node of the stack. -/
structure StackNode (σ : Type) where
  state : Nat
  position : Position
  links : Array (Link σ)
  /-- The cost of all errors up to here. -/
  cost : Nat
  /-- The greatest number of nodes shown up to here. -/
  count : Nat
  /-- The greatest weight of a reading up to here. -/
  dynamic : Int
deriving Inhabited

/-- A state found below an error, with the place and the number of trees above it. -/
structure SummaryEntry where
  position : Position
  depth : Nat
  state : Nat
deriving Inhabited

/-- What a version is doing. -/
inductive Status (σ : Type) where
  | active
  /-- Waiting to see whether another version gets past this token. -/
  | paused (lookahead : Tree σ)
  | halted
deriving Inhabited

/-- A version of the stack. -/
structure Head (σ : Type) where
  node : Nat
  /-- The memory of the scanner after the last scanned token. -/
  scanned : Option σ := none
  /-- The states below the last error. -/
  summary : Option (Array SummaryEntry) := none
  /-- The number of nodes shown when the last error was found. -/
  countAtError : Nat := 0
  status : Status σ := .active
deriving Inhabited

/-- A stack with its versions. -/
structure Stack (σ : Type) where
  nodes : Array (StackNode σ)
  heads : Array (Head σ)

/-- A row of trees taken off the stack, and the version that ends below them. -/
structure Slice (σ : Type) where
  trees : Array (Tree σ)
  version : Nat
deriving Inhabited

namespace Stack

variable {σ : Type}

/-- The number of links a node can have. -/
def maxLinks : Nat := 8

/-- The number of paths that are followed at once. -/
def maxPaths : Nat := 64

/-- How far down an error looks for states. -/
def maxSummaryDepth : Nat := 16

/-- The stack at the start: one version in the start state. -/
def initial : Stack σ := ⟨#[⟨1, {}, #[], 0, 0, 0⟩], #[{ node := 0 }]⟩

variable (s : Stack σ)

/-- A version. -/
def head (v : Nat) : Head σ := s.heads.getD v { node := 0 }

/-- A node. -/
def nodeAt (n : Nat) : StackNode σ := s.nodes.getD n ⟨0, {}, #[], 0, 0, 0⟩

/-- The top node of a version. -/
def top (v : Nat) : StackNode σ := s.nodeAt (s.head v).node

/-- The state of a version. -/
def stateOf (v : Nat) : Nat := (s.top v).state

/-- The place a version has come to. -/
def positionOf (v : Nat) : Position := (s.top v).position

/-- Whether a version is active. -/
def isActive (v : Nat) : Bool :=
  match (s.head v).status with
  | .active => true
  | _ => false

/-- Whether a version is paused. -/
def isPaused (v : Nat) : Bool :=
  match (s.head v).status with
  | .paused _ => true
  | _ => false

/-- Whether a version is halted. -/
def isHalted (v : Nat) : Bool :=
  match (s.head v).status with
  | .halted => true
  | _ => false

/-- Changes a version. -/
def modifyHead (v : Nat) (f : Head σ → Head σ) : Stack σ :=
  { s with heads := s.heads.modify v f }

/-- Takes a version away. -/
def removeVersion (v : Nat) : Stack σ :=
  { s with heads := s.heads.eraseIdxIfInBounds v }

/-- Adds a copy of a version at the end. -/
def copyVersion (v : Nat) : Stack σ × Nat :=
  ({ s with heads := s.heads.push { s.head v with summary := none } }, s.heads.size)

/-- Puts one version in place of another. -/
def renumber (source target : Nat) : Stack σ :=
  if source = target then s
  else
    let h := s.head source
    let h := { h with summary := h.summary <|> (s.head target).summary }
    ({ s with heads := s.heads.set! target h }).removeVersion source

/-- Exchanges two versions. -/
def swapVersions (v w : Nat) : Stack σ :=
  { s with heads := s.heads.swapIfInBounds v w }

/-- Pushes a tree, or the mark of an error, on a version. -/
def push (v : Nat) (tree : Option (Tree σ)) (state : Nat) : Stack σ :=
  let h := s.head v
  let below := s.nodeAt h.node
  let node : StackNode σ :=
    match tree with
    | some t =>
      { state
        position := t.info.stop
        links := #[⟨h.node, tree⟩]
        cost := below.cost + t.cost
        count := below.count + t.nodeCount
        dynamic := below.dynamic + t.info.dynamic }
    | none => { below with state, links := #[⟨h.node, none⟩] }
  let id := s.nodes.size
  { nodes := s.nodes.push node
    heads := s.heads.modify v fun h =>
      { h with
        node := id
        countAtError := if tree.isNone then node.count else h.countAtError } }

/-- Pushes several trees that leave the state as it is. -/
def pushAll (v : Nat) (trees : Array (Tree σ)) (state : Nat) : Stack σ :=
  trees.foldl (fun s t => s.push v (some t) state) s

variable [BEq σ]

/-- Whether two trees between the same nodes need not both be kept. -/
def sameTree (a b : Option (Tree σ)) (belowA belowB : Position) : Bool :=
  match a, b with
  | none, none => true
  | some x, some y =>
    x.symbol == y.symbol &&
      ((0 < x.cost && 0 < y.cost) ||
        (x.info.start.byte - belowA.byte == y.info.start.byte - belowB.byte &&
          x.info.stop.byte - x.info.start.byte == y.info.stop.byte - y.info.start.byte &&
          x.children.size == y.children.size && x.info.extra == y.info.extra &&
          x.info.scanned == y.info.scanned))
  | _, _ => false

/-- The weight that a link brings. -/
def linkDynamic (l : Link σ) : Int :=
  (s.nodeAt l.node).dynamic + (l.tree.map (·.info.dynamic)).getD 0

/-- Adds a link to a node.  If the node has an equivalent link to the same node, the tree with more
weight stays; if it has one to a node that can be merged with the new link's node, those two nodes
are merged instead.  `fuel` bounds how far down merging goes. -/
def addLink : Nat → Stack σ → Nat → Link σ → Stack σ
  | 0, s, _, _ => s
  | fuel + 1, s, n, link =>
    if link.node = n then s
    else
      let self := s.nodeAt n
      let other := s.nodeAt link.node
      let place := (List.range self.links.size).find? fun i =>
        match self.links[i]? with
        | some l =>
          let below := s.nodeAt l.node
          sameTree l.tree link.tree below.position other.position &&
            (l.node == link.node ||
              (below.state == other.state && below.position.byte == other.position.byte &&
                below.cost == other.cost))
        | none => false
      match place with
      | some i =>
        match self.links[i]? with
        | none => s
        | some l =>
          if l.node = link.node then
            let weight := fun (t : Option (Tree σ)) => (t.map (·.info.dynamic)).getD 0
            if weight l.tree < weight link.tree then
              { s with nodes := s.nodes.modify n fun self =>
                  { self with
                    links := self.links.set! i link
                    dynamic := other.dynamic + weight link.tree } }
            else s
          else
            let s := other.links.foldl (fun s inner => addLink fuel s l.node inner) s
            let dynamic := s.linkDynamic link
            { s with nodes := s.nodes.modify n fun self =>
                { self with dynamic := max self.dynamic dynamic } }
      | none =>
        if self.links.size = maxLinks then s
        else
          let count := other.count + (link.tree.map (·.nodeCount)).getD 0
          let dynamic := s.linkDynamic link
          { s with nodes := s.nodes.modify n fun self =>
              { self with
                links := self.links.push link
                count := max self.count count
                dynamic := max self.dynamic dynamic } }

/-- Whether two versions have come to the same state at the same place at the same cost. -/
def canMerge (v w : Nat) : Bool :=
  let a := s.top v
  let b := s.top w
  s.isActive v && s.isActive w && a.state == b.state && a.position.byte == b.position.byte &&
    a.cost == b.cost && (s.head v).scanned == (s.head w).scanned

/-- Merges the second version into the first if that is possible. -/
def merge (v w : Nat) : Stack σ × Bool :=
  if s.canMerge v w then
    let target := (s.head v).node
    let s' := (s.top w).links.foldl (fun s l => addLink 10000 s target l) s
    let s' := if (s'.nodeAt target).state = 0 then
        s'.modifyHead v fun h => { h with countAtError := (s'.nodeAt target).count }
      else s'
    (s'.removeVersion w, true)
  else (s, false)

omit [BEq σ]

/-- A path down the stack. -/
structure Path (σ : Type) where
  node : Nat
  /-- The trees met, the topmost first. -/
  trees : Array (Tree σ)
  /-- How many of them are not extras. -/
  depth : Nat
deriving Inhabited

/-- The paths that go on from a path: the first link takes its place, the others follow after the
paths that are waiting. -/
def Path.step (p : Path σ) (l : Link σ) : Path σ :=
  match l.tree with
  | some t => ⟨l.node, p.trees.push t, if t.info.extra then p.depth else p.depth + 1⟩
  | none => ⟨l.node, p.trees, p.depth + 1⟩

/-- What is done with a path at a node. -/
structure Verdict where
  take : Bool := false
  stop : Bool := false

/-- Records a row of trees taken off the stack.  A path that ends at the node of an earlier one
belongs to the same version; otherwise there is a new version. -/
def addSlice (s : Stack σ) (slices : Array (Slice σ)) (v node : Nat) (trees : Array (Tree σ)) :
    Stack σ × Array (Slice σ) :=
  let same := ((List.range slices.size).reverse).find? fun i =>
    (s.head (slices.getD i default).version).node == node
  match same with
  | some i =>
    let slice : Slice σ := ⟨trees, (slices.getD i default).version⟩
    (s, slices.extract 0 (i + 1) ++ #[slice] ++ slices.extract (i + 1) slices.size)
  | none =>
    let h := s.head v
    let new : Head σ := { node, scanned := h.scanned, countAtError := h.countAtError }
    ({ s with heads := s.heads.push new }, slices.push ⟨trees, s.heads.size⟩)

/-- Follows all paths down from a version.  At every node `visit` updates what is being collected
and says whether the path is taken off here and whether it ends here. -/
def walk {α : Type} (s : Stack σ) (v : Nat) (visit : α → Path σ → StackNode σ → α × Verdict)
    (start : α) : Stack σ × Array (Slice σ) × α := Id.run do
  let mut s := s
  let mut slices : Array (Slice σ) := #[]
  let mut memo := start
  let mut paths : Array (Path σ) := #[⟨(s.head v).node, #[], 0⟩]
  for _ in [0:10000000] do
    if paths.isEmpty then break
    -- One round moves each of the paths known at its start one node down.
    let mut size := paths.size
    let mut i := 0
    for _ in [0:paths.size] do
      if i ≥ size then break
      let p := paths.getD i default
      let node := s.nodeAt p.node
      let (memo', verdict) := visit memo p node
      memo := memo'
      if verdict.take then
        let (s', slices') := addSlice s slices v p.node p.trees.reverse
        s := s'
        slices := slices'
      if verdict.stop || node.links.isEmpty then
        paths := paths.eraseIdxIfInBounds i
        size := size - 1
      else
        for j in [1:node.links.size] do
          if paths.size < maxPaths then
            if let some l := node.links[j]? then paths := paths.push (p.step l)
        if let some l := node.links[0]? then paths := paths.set! i (p.step l)
        i := i + 1
  return (s, slices, memo)

/-- Takes `count` trees, extras aside, off a version, along every path. -/
def popCount (s : Stack σ) (v count : Nat) : Stack σ × Array (Slice σ) :=
  let (s, slices, _) := s.walk v (fun (_ : Unit) p _ =>
    let done := p.depth == count
    ((), { take := done, stop := done })) ()
  (s, slices)

/-- Takes everything off a version. -/
def popAll (s : Stack σ) (v : Nat) : Stack σ × Array (Slice σ) :=
  let (s, slices, _) := s.walk v (fun (_ : Unit) _ node =>
    ((), { take := node.links.isEmpty })) ()
  (s, slices)

/-- Takes an error off the top of a version, if there is one there, and gives it. -/
def popError (s : Stack σ) (v : Nat) : Stack σ × Array (Tree σ) :=
  let hasError := (s.top v).links.any fun l => (l.tree.map (·.isError)).getD false
  if hasError then
    let (s, slices, _) := s.walk v (fun (found : Bool) p _ =>
      match p.trees[0]? with
      | none => (found, {})
      | some t =>
        if !found && t.isError then (true, { take := true, stop := true })
        else (found, { stop := true })) false
    match slices[0]? with
    | some slice => (s.renumber slice.version v, slice.trees)
    | none => (s, #[])
  else (s, #[])

/-- Notes the states below a version. -/
def recordSummary (s : Stack σ) (v : Nat) : Stack σ :=
  let (s, _, entries) := s.walk v (fun (out : Array SummaryEntry) p node =>
    if maxSummaryDepth < p.depth then (out, { stop := true })
    else
      let recent := out.toList.reverse.takeWhile fun e => p.depth ≤ e.depth
      let known := recent.any fun e => e.depth == p.depth && e.state == node.state
      (if known then out else out.push ⟨node.position, p.depth, node.state⟩, {})) #[]
  s.modifyHead v fun h => { h with summary := some entries }

/-- The cost of a version, with that of a recovery about to begin. -/
def costOf (s : Stack σ) (v : Nat) : Nat :=
  let top := s.top v
  let atError := top.state == 0 && (match top.links[0]? with
    | some l => l.tree.isNone
    | none => true)
  top.cost + (if s.isPaused v || atError then costs.recovery else 0)

/-- Lowers the mark of the last error to the number of nodes shown, where it is higher. -/
def settleCount (s : Stack σ) (v : Nat) : Stack σ :=
  let count := (s.top v).count
  if count < (s.head v).countAtError then s.modifyHead v fun h => { h with countAtError := count }
  else s

/-- The number of nodes shown since the last error. -/
def countSinceError (s : Stack σ) (v : Nat) : Nat := (s.top v).count - (s.head v).countAtError

/-- Whether a version has taken up text since its last error. -/
def hasAdvanced (s : Stack σ) (v : Nat) : Bool :=
  (s.top v).cost == 0 || go s (s.head v).countAtError s.nodes.size (s.head v).node
where
  /-- Looks down along first links past trees without text. -/
  go (s : Stack σ) (mark : Nat) : Nat → Nat → Bool
    | 0, _ => false
    | fuel + 1, n =>
      let node := s.nodeAt n
      match node.links[0]?.bind fun l => l.tree.map (l.node, ·) with
      | some (below, t) =>
        if (s.nodeAt below).position.byte < t.info.stop.byte then true
        else if mark < node.count && t.cost == 0 then go s mark fuel below
        else false
      | none => false

end Stack

end DocSignature.Parsing
