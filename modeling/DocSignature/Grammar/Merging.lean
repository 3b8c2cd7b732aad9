import DocSignature.Grammar.Vocabulary

/-!
# Merging states

States with the same items that differ only in what may follow are merged where that changes
neither an action nor what the lexer or the scanner can deliver.  States that do nothing but hand a
hidden node on are skipped.
-/

set_option autoImplicit false

namespace DocSignature.Grammar

namespace Merging

/-- A partition of the states: the members of each group, and the group of each state. -/
structure Partition where
  groups : Array (Array Nat)
  groupOf : Array Nat

/-- Moves those members of each group that differ from a member that stays into a new group, which
is then treated the same way.  The second result says whether anything was moved. -/
def Partition.split (p : Partition) (differ : Array Nat → Nat → Nat → Bool) :
    Partition × Bool := Id.run do
  let mut groups := p.groups
  let mut groupOf := p.groupOf
  let mut moved := false
  for n in [0:p.groupOf.size + p.groups.size] do
    if n ≥ groups.size then break
    let members := groups.getD n #[]
    let mut leaving : Array Bool := Array.replicate members.size false
    for i in [0:members.size] do
      unless leaving.getD i false do
        let left := members.getD i 0
        for j in [i + 1:members.size] do
          unless leaving.getD j false do
            if differ groupOf left (members.getD j 0) then leaving := leaving.set! j true
    if leaving.any id then
      moved := true
      let out := (Array.range members.size).filterMap fun i =>
        if leaving.getD i false then members[i]? else none
      groups := groups.set! n ((Array.range members.size).filterMap fun i =>
        if leaving.getD i false then none else members[i]?)
      for s in out do groupOf := groupOf.set! s groups.size
      groups := groups.push out
  return (⟨groups, groupOf⟩, moved)

/-- What the comparison of states needs besides the states. -/
structure Context where
  states : Array State
  /-- The tokens known to each state. -/
  known : Array TokenSet
  /-- Tokens that may not be added to a state, because the scanner asks for them. -/
  fixed : TokenSet
  /-- For each token the tokens to which it may not be added. -/
  rivals : Array TokenSet
  tokenCount : Nat

/-- Whether the tokens that one state lacks may not be added to it. -/
def Context.lacks (c : Context) (missing present : TokenSet) : Bool :=
  !(missing.inter c.fixed).isEmpty ||
    (Array.range c.tokenCount).any fun t =>
      missing.contains t && !((c.rivals.getD t .empty).inter present).isEmpty

/-- Whether two shifts are at odds. -/
def shiftsDiffer (groupOf : Array Nat) (a b : Nat) : Bool :=
  if a = 0 || b = 0 then a != b
  else State.shiftRepeats a != State.shiftRepeats b ||
    groupOf.getD (State.shiftTarget a) 0 != groupOf.getD (State.shiftTarget b) 0

/-- Whether two states may not be merged, as far as their own entries go. -/
def Context.conflict (c : Context) (groupOf : Array Nat) (l r : Nat) : Bool :=
  let left := c.known.getD l .empty
  let right := c.known.getD r .empty
  if left != right &&
      (c.lacks (left.diff right) right || c.lacks (right.diff left) left) then true
  else
    let a := c.states.getD l default
    let b := c.states.getD r default
    (Array.range c.tokenCount).any fun t =>
      let ha := a.heads.getD t 0
      let hb := b.heads.getD t 0
      let sa := a.shifts.getD t 0
      let sb := b.shifts.getD t 0
      (ha != 0 || sa != 0) && (hb != 0 || sb != 0) && (ha != hb || shiftsDiffer groupOf sa sb)

/-- Whether two states lead to different groups. -/
def Context.successorsDiffer (c : Context) (groupOf : Array Nat) (l r : Nat) : Bool :=
  let a := c.states.getD l default
  let b := c.states.getD r default
  ((Array.range c.tokenCount).any fun t =>
    let sa := a.shifts.getD t 0
    let sb := b.shifts.getD t 0
    sa != 0 && sb != 0 &&
      groupOf.getD (State.shiftTarget sa) 0 != groupOf.getD (State.shiftTarget sb) 0) ||
  ((Array.range a.gotos.size).any fun v =>
    let ga := a.gotos.getD v 0
    let gb := b.gotos.getD v 0
    ga != 0 && gb != 0 && groupOf.getD (ga - 1) 0 != groupOf.getD (gb - 1) 0)

/-- The entries of both arrays; where both have one, the second counts. -/
def overlay (a b : Array Nat) : Array Nat :=
  (Array.range a.size).map fun i => if b.getD i 0 != 0 then b.getD i 0 else a.getD i 0

/-- Renames the states that a state refers to. -/
def renameTargets (f : Nat → Nat) (s : State) : State :=
  { s with
    shifts := s.shifts.map fun c =>
      if c = 0 then 0 else State.shiftCode (f (State.shiftTarget c)) (State.shiftRepeats c)
    gotos := s.gotos.map fun c => if c = 0 then 0 else f (c - 1) + 1 }

/-- Merges compatible states. -/
def mergeStates (g : Productions) (v : Vocabulary) (states : Array State) : Array State := Id.run do
  let tokenCount := g.firstVariable
  let rivals := (Array.range tokenCount).map fun t =>
    TokenSet.ofArray ((Array.range' g.firstToken g.tokens.size).filter fun u =>
      !(u == g.word && v.keywords.contains t) && !(t == g.word && v.keywords.contains u) &&
        (v.rivalry g t u).conflicts)
  let context : Context :=
    { states
      known := states.map fun s => .ofTest tokenCount s.hasToken
      fixed := .ofArray g.scanned
      rivals, tokenCount }
  let coreCount := (states.foldl (fun m s => max m s.core) 0) + 1
  let mut groups : Array (Array Nat) := Array.replicate coreCount #[]
  for i in [0:states.size] do
    groups := groups.modify (states.getD i default).core (·.push i)
  let (p, _) := Partition.split ⟨groups, states.map (·.core)⟩ context.conflict
  let mut p := p
  for _ in [0:states.size] do
    let (q, moved) := p.split context.successorsDiffer
    p := q
    unless moved do break
  let groupOf := p.groupOf
  return p.groups.map fun members =>
    let merged := members.foldl (fun (acc : Option State) i =>
      let s := states.getD i default
      match acc with
      | none => some s
      | some a => some { a with
          heads := overlay a.heads s.heads
          shifts := overlay a.shifts s.shifts
          gotos := overlay a.gotos s.gotos }) none
    renameTargets (fun i => groupOf.getD i 0) (merged.getD default)

/-- The hidden variable that a state does nothing but hand on, if there is one. -/
def handsOn (g : Productions) (aliased : TokenSet) (actions : ActionPool) (s : State) :
    Option Nat := Id.run do
  let mut found : Option Nat := none
  for t in [0:s.heads.size] do
    if s.shifts.getD t 0 != 0 then return none
    for a in actions.lists.getD (s.heads.getD t 0) [] do
      match a with
      | .shiftExtra => pure ()
      | .reduce symbol 1 0 0 =>
        if g.defaultAliases.contains symbol || g.supertypes.contains symbol ||
            aliased.contains symbol || (g.nameOf symbol).2 == .named then return none
        if found.isSome && found != some symbol then return none
        found := some symbol
      | _ => return none
  return found

/-- Leads past states that only hand a hidden node on. -/
def skipHandingOn (g : Productions) (actions : ActionPool) (states : Array State) :
    Array State :=
  let aliased := TokenSet.ofArray ((g.nonterminals.flatMap fun v => v.productions.flatMap fun p =>
    p.steps.filter (·.shown.isSome)).map (·.symbol))
  let handing := states.map (handsOn g aliased actions)
  states.map fun s =>
    let past := fun (s : State) => renameTargets (fun i =>
      match handing.getD i none with
      | some v =>
        let target := s.gotos.getD (v - g.firstVariable) 0
        if target = 0 then i else target - 1
      | none => i) s
    -- A state that is led to can itself be one that is skipped.
    (List.range 8).foldl (fun s _ => past s) s

/-- Drops states that nothing refers to and puts the rest in order, those with most entries first;
the first two keep their places. -/
def arrange (states : Array State) : Array State := Id.run do
  let mut used : Array Bool := Array.replicate states.size false
  used := (used.set! 0 true).set! 1 true
  for s in states do
    for c in s.shifts do
      if c != 0 then used := used.set! (State.shiftTarget c) true
    for c in s.gotos do
      if c != 0 then used := used.set! (c - 1) true
  let entries := states.map fun s =>
    ((Array.range s.heads.size).filter s.hasToken).size + (s.gotos.filter (· != 0)).size
  let kept := (List.range states.size).filter fun i => 2 ≤ i && used.getD i false
  let sorted := kept.mergeSort fun a b => entries.getD b 0 ≤ entries.getD a 0
  let order := 0 :: 1 :: sorted
  let mut place : Array Nat := Array.replicate states.size 0
  let mut n := 0
  for i in order do
    place := place.set! i n
    n := n + 1
  let final := place
  return (order.map fun i => renameTargets (fun j => final.getD j 0) (states.getD i default)).toArray

end Merging

/-- The automaton with as few states as keep its behaviour. -/
def Automaton.merged (a : Automaton) (g : Productions) (v : Vocabulary) : Automaton :=
  { a with
    states := Merging.arrange (Merging.skipHandingOn g a.actions (Merging.mergeStates g v a.states)) }

end DocSignature.Grammar
