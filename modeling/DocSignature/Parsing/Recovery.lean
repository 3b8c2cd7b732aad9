import DocSignature.Parsing.Lexing

/-!
# Reductions and comparison of versions

What both ordinary parsing and recovery from errors are made of: reducing a version along all its
paths, accepting, and judging which of two versions does better.
-/

set_option autoImplicit false

namespace DocSignature.Parsing

open DocSignature.Grammar

variable {σ : Type} [BEq σ]

/-- The number of versions kept from one token to the next. -/
def maxVersions : Nat := 6

/-- How many more versions there may be in between. -/
def versionOverflow : Nat := 4

/-- A difference in cost, times the number of nodes shown since, above which a version is given up. -/
def maxCostDifference : Nat := 18 * costs.skippedTree

/-- Merges a version into the first of the earlier ones, `skip` aside, that it can be merged with. -/
def mergeDown (s : Stack σ) (skip version : Nat) : Stack σ × Bool :=
  match (List.range version).find? fun j => j != skip && s.canMerge j version with
  | some j => s.merge j version
  | none => (s, false)

/-- Reduces a version: on every path the top `count` trees become one.  Paths that end at the same
node compete, and the best row of children stays. -/
def reduce (k : Setting σ) (m : Machine σ) (version symbol count : Nat) (dynamic : Int)
    (production : Nat) : Machine σ × Option Nat := Id.run do
  let before := m.stack.heads.size
  let here := m.stack.positionOf version
  let (stack, slices) := m.stack.popCount version count
  let mut stack := stack
  let mut removed := 0
  let mut i := 0
  for _ in [0:slices.size] do
    if i ≥ slices.size then break
    let slice := slices.getD i default
    let target := slice.version - removed
    -- The slices of one version stand side by side.
    let rivals := ((slices.extract i slices.size).toList.takeWhile fun r =>
      r.version == slice.version)
    i := i + rivals.length
    if maxVersions + versionOverflow < target then
      stack := stack.removeVersion target
      removed := removed + 1
    else
      let (children, extras) := Tree.splitExtras slice.trees
      let first := Tree.gather k.table symbol production children here
      let (parent, extras) := rivals.tail.foldl (fun best r =>
        let (children, extras) := Tree.splitExtras r.trees
        let plain := Tree.gather k.table symbol 0 children here
        if Tree.prefersSecond k.table best.1 plain then
          (Tree.gather k.table symbol production children here, extras)
        else best) (first, extras)
      let next := (k.table.nextState (stack.stateOf target) symbol).getD 0
      let parent := parent.withInfo fun i => { i with dynamic := i.dynamic + dynamic }
      stack := stack.push target (some parent) next
      stack := stack.pushAll target extras next
      let (stack', merged) := mergeDown stack version target
      stack := stack'
      if merged then removed := removed + 1
  return ({ m with stack },
    if before < stack.heads.size then some before else none)

/-- Ends a version at the end of the text: its trees are put under the start symbol, with all extras
around them, and the reading competes with those finished before. -/
def accept (k : Setting σ) (m : Machine σ) (version : Nat) (lookahead : Tree σ) : Machine σ :=
  let stack := m.stack.push version (some lookahead) 1
  let (stack, slices) := stack.popAll version
  let finish := fun (m : Machine σ) (slice : Slice σ) =>
    let trees := slice.trees
    match ((List.range trees.size).reverse).find? fun j =>
        (trees[j]?.map fun t => !t.info.extra).getD false with
    | none => m
    | some j =>
      match trees[j]? with
      | none => m
      | some t =>
        let children := trees.extract 0 j ++ t.children ++ trees.extract (j + 1) trees.size
        let root := Tree.gather k.table t.symbol t.info.production children {}
        let finished := match m.finished with
          | none => root
          | some old => if Tree.prefersSecond k.table old root then root else old
        { m with finished := some finished, accepted := m.accepted + 1 }
  let m := slices.foldl finish { m with stack }
  let stack := match slices[0]? with
    | some s => m.stack.removeVersion s.version
    | none => m.stack
  { m with stack := stack.modifyHead version ({ · with status := .halted }) }

/-! ## Which version does better -/

/-- How a version is doing. -/
structure Standing where
  cost : Nat
  count : Nat
  dynamic : Int
  inError : Bool

/-- The outcome of a comparison: the first or the second is better, and clearly so or not. -/
inductive Judgement where
  | takeFirst
  | preferFirst
  | neither
  | preferSecond
  | takeSecond
deriving BEq

/-- How a version is doing now. -/
def standing (s : Stack σ) (v : Nat) : Standing :=
  let paused := s.isPaused v
  { cost := s.costOf v + (if paused then costs.skippedTree else 0)
    count := s.countSinceError v
    dynamic := (s.top v).dynamic
    inError := paused || s.stateOf v == 0 }

/-- Compares two versions: one that is not in error is better, then the cheaper one, then the one
with more weight. -/
def judge (a b : Standing) : Judgement :=
  if !a.inError && b.inError then
    if a.cost < b.cost then .takeFirst else .preferFirst
  else if a.inError && !b.inError then
    if b.cost < a.cost then .takeSecond else .preferSecond
  else if a.cost < b.cost then
    if maxCostDifference < (b.cost - a.cost) * (1 + a.count) then .takeFirst else .preferFirst
  else if b.cost < a.cost then
    if maxCostDifference < (a.cost - b.cost) * (1 + b.count) then .takeSecond else .preferSecond
  else if b.dynamic < a.dynamic then .preferFirst
  else if a.dynamic < b.dynamic then .preferSecond
  else .neither

/-- Brings the marks of the last error up to date for all versions. -/
def settleCounts (s : Stack σ) : Stack σ :=
  (List.range s.heads.size).foldl (fun s v => s.settleCount v) s

/-- Whether a version that would have the given cost is clearly worse than another one that is at
least as far, or than a finished reading. -/
def betterExists (m : Machine σ) (version : Nat) (inError : Bool) (cost : Nat) : Bool :=
  let s := m.stack
  let finishedBetter := match m.finished with
    | some t => t.cost ≤ cost
    | none => false
  finishedBetter ||
    let mine : Standing :=
      { cost, inError, dynamic := (s.top version).dynamic, count := s.countSinceError version }
    (List.range s.heads.size).any fun i =>
      i != version && s.isActive i &&
        (s.positionOf version).byte ≤ (s.positionOf i).byte &&
        match judge mine (standing s i) with
        | .takeSecond => true
        | .preferSecond => s.canMerge i version
        | _ => false

/-! ## Recovery -/

/-- The reductions possible in a state at the given tokens, each symbol and length once, and whether
one of the tokens can be shifted. -/
def possibleReductions (table : Table) (state : Nat) (tokens : Array Nat) :
    Array (Nat × Nat × Int × Nat) × Bool :=
  tokens.foldl (fun (out, shifts) t =>
    let (out, recovers) := (table.actionsAt state t).foldl (fun (out, recovers) a =>
      match a with
      | .reduce symbol count dynamic production =>
        if count = 0 || out.any fun r => r.1 == symbol && r.2.1 == count then (out, recovers)
        else (out.push (symbol, count, dynamic, production), recovers)
      | .recover => (out, true)
      | _ => (out, recovers)) (out, false)
    let shift := match table.shiftAt state t with
      | some (_, repetition) => !repetition
      | none => false
    (out, shifts || shift || recovers)) (#[], false)

/-- Performs all reductions that some token, or the given one, would allow, again and again, starting
from one version; the results are further versions.  The second result says whether some token, or
the given one, could be shifted in the end. -/
def reduceAll (k : Setting σ) (m : Machine σ) (start : Nat) (lookahead : Option Nat) :
    Machine σ × Bool := Id.run do
  let mut m := m
  let initial := m.stack.heads.size
  let mut canShift := false
  let mut version := start
  let tokens := match lookahead with
    | some t => #[t]
    | none => k.table.repairOrder
  for round in [0:100000] do
    let count := m.stack.heads.size
    if version ≥ count then break
    let mergeable := (List.range' initial (version - initial)).find? fun j =>
      m.stack.canMerge j version
    if let some j := mergeable then
      m := { m with stack := (m.stack.merge j version).1 }
    else
      let (reductions, shifts) := possibleReductions k.table (m.stack.stateOf version) tokens
      let mut last : Option Nat := none
      for (symbol, count, dynamic, production) in reductions do
        let (m', v) := reduce k m version symbol count dynamic production
        m := m'
        last := v
      let mut again := false
      if shifts then canShift := true
      else
        match last with
        | some v =>
          if round < maxVersions then
            m := { m with stack := m.stack.renumber v version }
            again := true
          else if lookahead.isSome then
            m := { m with stack := m.stack.removeVersion version }
        | none =>
          if lookahead.isSome then
            m := { m with stack := m.stack.removeVersion version }
      unless again do
        version := if version = start then count else version + 1
  return (m, canShift)

/-- Goes back to a state found below the error: what was read since becomes an error. -/
def recoverTo (k : Setting σ) (m : Machine σ) (version depth goal : Nat) : Machine σ × Bool :=
  let (stack, slices) := m.stack.popCount version depth
  let step := fun (acc : Stack σ × Option Nat) (slice : Slice σ) =>
    let (stack, previous) := acc
    if previous == some slice.version then acc
    else if stack.stateOf slice.version != goal then
      (stack.modifyHead slice.version ({ · with status := .halted }), previous)
    else
      let (stack, errors) := stack.popError slice.version
      let inner := match errors[0]? with
        | some e => e.children
        | none => #[]
      let (trees, extras) := Tree.splitExtras (inner ++ slice.trees)
      let stack :=
        if trees.isEmpty then stack
        else
          let error := Tree.gather k.table errorSymbol 0 trees {}
          stack.push slice.version (some (error.withInfo ({ · with extra := true }))) goal
      (stack.pushAll slice.version extras goal, some slice.version)
  let (stack, previous) := slices.foldl step (stack, none)
  ({ m with stack }, previous.isSome)

/-- Takes away versions from `from_` on that are not active. -/
def dropInactive (s : Stack σ) (from_ : Nat) : Stack σ :=
  ((List.range' from_ (s.heads.size - from_)).reverse).foldl (fun s v =>
    if s.isActive v then s else s.removeVersion v) s

/-- Deals with a token in the error state.  If the token is valid in a state below the error, a new
version goes back there; besides, the token is skipped, unless that is clearly worse. -/
def recover (k : Setting σ) (m : Machine σ) (version : Nat) (lookahead : Tree σ) : Machine σ := Id.run do
  let mut m := { m with stack := settleCounts m.stack }
  let before := m.stack.heads.size
  let position := m.stack.positionOf version
  let sinceError := m.stack.countSinceError version
  let cost := m.stack.costOf version
  let mut didRecover := false
  unless lookahead.isError do
    for entry in (m.stack.head version).summary.getD #[] do
      if entry.state = 0 || entry.position.byte = position.byte then continue
      let depth := if 0 < sinceError then entry.depth + 1 else entry.depth
      let wouldMerge := (List.range before).any fun j =>
        m.stack.stateOf j == entry.state && (m.stack.positionOf j).byte == position.byte
      if wouldMerge then continue
      let newCost := cost + entry.depth * costs.skippedTree +
        (position.byte - entry.position.byte) * costs.skippedByte +
        (position.row - entry.position.row) * costs.skippedLine
      if betterExists m version false newCost then break
      if k.table.knows entry.state lookahead.symbol then
        let (m', done) := recoverTo k m version depth entry.state
        m := m'
        if done then
          didRecover := true
          break
  m := { m with stack := dropInactive m.stack before }
  if lookahead.symbol = k.table.eof then
    let error := Tree.gather k.table errorSymbol 0 #[] position
    return accept k { m with stack := m.stack.push version (some error) 1 } version lookahead
  let halt := fun (m : Machine σ) =>
    { m with stack := m.stack.modifyHead version ({ · with status := .halted }) }
  if didRecover && maxVersions < m.stack.heads.size then return halt m
  if didRecover && lookahead.info.scanChanged then return halt m
  let newCost := cost + costs.skippedTree +
    (lookahead.info.stop.byte - position.byte) * costs.skippedByte +
    (lookahead.info.stop.row - position.row) * costs.skippedLine
  if betterExists m version false newCost then return halt m
  let token :=
    if k.table.actionsAt 1 lookahead.symbol == [.shiftExtra] then
      lookahead.withInfo ({ · with extra := true })
    else lookahead
  let mut skipped := Tree.gather k.table errorRepeatSymbol 0 #[token] position
  if 0 < sinceError then
    let (stack, slices) := m.stack.popCount version 1
    match slices[0]? with
    | some first =>
      let stack := { stack with heads := stack.heads.take (first.version + 1) }
      m := { m with stack := stack.renumber first.version version }
      skipped := Tree.gather k.table errorRepeatSymbol 0 (first.trees.push skipped) position
    | none => m := { m with stack }
  let mut stack := m.stack.push version (some skipped) 0
  if token.info.scanned.isSome then
    stack := stack.modifyHead version ({ · with scanned := token.info.scanned })
  return { m with stack }

/-- Starts recovery in a version that cannot go on: all reductions are tried, a missing token may be
supplied, and the versions that arose are gathered in the error state. -/
def handleError (k : Setting σ) (m : Machine σ) (version : Nat) (lookahead : Tree σ) :
    Machine σ := Id.run do
  let mut m := m
  let before := m.stack.heads.size
  m := (reduceAll k m version none).1
  let count := m.stack.heads.size
  let position := m.stack.positionOf version
  let mut supplied := false
  let mut v := version
  for _ in [0:count + 1] do
    if v ≥ count then break
    unless supplied do
      let state := m.stack.stateOf v
      for token in k.table.repairOrder do
        let next := (k.table.nextState state token).getD 0
        if next != 0 && next != state && k.table.reducesAt next lookahead.symbol then
          let (stack, w) := m.stack.copyVersion v
          let missing : Tree σ :=
            (leaf k.table token position position 0).withInfo ({ · with missing := true })
          let (m', shifts) :=
            reduceAll k { m with stack := stack.push w (some missing) next } w
              (if lookahead.symbol = k.table.eof then none else some lookahead.symbol)
          m := m'
          if shifts then
            supplied := true
            break
    m := { m with stack := m.stack.push v none 0 }
    v := if v = version then before else v + 1
  for _ in [before:count] do
    m := { m with stack := (m.stack.merge version before).1 }
  m := { m with stack := m.stack.recordSummary version }
  return recover k m version lookahead

end DocSignature.Parsing
