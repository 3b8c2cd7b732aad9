import DocSignature.Parsing.Recovery

/-!
# Parsing

Generalised LR parsing: all readings of a text advance side by side, token by token.  After each
round the versions are sorted and thinned out; when only versions remain that cannot go on, the best
of them recovers.  The first complete reading that no version can still undercut is the result.
-/

set_option autoImplicit false

namespace DocSignature.Parsing

open DocSignature.Grammar

variable {σ : Type} [BEq σ]

/-- Shifts a token. -/
def shift (m : Machine σ) (version state : Nat) (token : Tree σ) (extra : Bool) : Machine σ :=
  let token := token.withInfo ({ · with extra })
  let stack := m.stack.push version (some token) state
  { m with
    stack :=
      if token.info.scanned.isSome then
        stack.modifyHead version ({ · with scanned := token.info.scanned })
      else stack }

/-- Lets a version act on a token until it has been shifted, or the version can do nothing more with
it.  Reductions make new versions; the last of them takes the place of the version. -/
def act (k : Setting σ) (version : Nat) : Nat → Machine σ → Tree σ → Machine σ
  | 0, m, _ => { m with stack := m.stack.modifyHead version ({ · with status := .halted }) }
  | fuel + 1, m, lookahead =>
    let symbol := lookahead.symbol
    let state := m.stack.stateOf version
    let actions := k.table.actionsAt state symbol
    let (m, last) := actions.foldl (fun (acc : Machine σ × Option Nat) a =>
      match a with
      | .reduce whole count dynamic production =>
        let (m, v) := reduce k acc.1 version whole count dynamic production
        (m, v <|> acc.2)
      | _ => acc) (m, none)
    match k.table.shiftAt state symbol with
    | some (next, false) => shift m version next lookahead false
    | _ =>
      if actions.contains .accept then accept k m version lookahead
      else if actions.contains .shiftExtra then shift m version state lookahead true
      else if actions.contains .recover then recover k m version lookahead
      else
        match last with
        | some v => act k version fuel { m with stack := m.stack.renumber v version } lookahead
        | none =>
          if lookahead.info.keyword && symbol != k.table.word && k.table.knows state k.table.word then
            act k version fuel m
              (lookahead.withInfo fun i =>
                { i with symbol := k.table.word
                         visible := Tree.showsSymbol k.table k.table.word })
          else if state = 0 then recover k m version lookahead
          else
            let count := (m.stack.top version).count
            { m with stack := m.stack.modifyHead version fun h =>
                { h with status := .paused lookahead, countAtError := count } }

/-- Lets a version read a token and act on it. -/
def advance (k : Setting σ) (m : Machine σ) (version : Nat) : Machine σ :=
  let state := m.stack.stateOf version
  match cachedToken k m version state with
  | some token => act k version 100000 m token
  | none =>
    let byte := (m.stack.positionOf version).byte
    let scanned := (m.stack.head version).scanned
    let (m, token) := readToken k m version state
    act k version 100000 { m with cached := some ⟨byte, scanned, token⟩ } token

/-- Compares each version with those before it: versions that are clearly worse go, versions that
have met are merged, and better versions move forward.  Also gives the least cost of a version that
is not in error. -/
def sortVersions (s : Stack σ) : Stack σ × Option Nat := Id.run do
  let mut s := s
  let mut least : Option Nat := none
  let mut i := 0
  for _ in [0:100000] do
    if i ≥ s.heads.size then break
    if s.isHalted i then
      s := s.removeVersion i
      continue
    s := settleCounts s
    let mine := standing s i
    if !mine.inError && (match least with | some c => mine.cost < c | none => true) then
      least := some mine.cost
    let mut j := 0
    let mut gone := false
    for _ in [0:100000] do
      if j ≥ i then break
      match judge (standing s j) mine with
      | .takeFirst =>
        s := s.removeVersion i
        gone := true
        break
      | .preferFirst | .neither =>
        let (s', merged) := s.merge j i
        s := s'
        if merged then
          gone := true
          break
        j := j + 1
      | .preferSecond =>
        let (s', merged) := s.merge j i
        s := s'
        if merged then
          gone := true
          break
        s := s.swapVersions i j
        j := j + 1
      | .takeSecond =>
        s := s.removeVersion j
        i := i - 1
    unless gone do i := i + 1
  return ({ s with heads := s.heads.take maxVersions }, least)

/-- Sorts the versions; then, if no version can go on, the best paused one recovers, and all other
paused ones go. -/
def condense (k : Setting σ) (m : Machine σ) : Machine σ × Option Nat := Id.run do
  let (stack, least) := sortVersions m.stack
  let mut m := { m with stack }
  let mut least := least
  let mut i := 0
  let mut n := m.stack.heads.size
  let mut running := false
  for _ in [0:n] do
    if i ≥ n then break
    match (m.stack.head i).status with
    | .paused lookahead =>
      if !running && m.accepted < maxVersions then
        least := some (m.stack.costOf i)
        m := { m with stack := m.stack.modifyHead i ({ · with status := .active }) }
        m := handleError k m i lookahead
        running := true
        i := i + 1
      else
        m := { m with stack := m.stack.removeVersion i }
        n := n - 1
    | _ =>
      running := true
      i := i + 1
  return (m, least)

/-- Lets every version advance past the place reached so far. -/
def advanceAll (k : Setting σ) (m : Machine σ) (reached : Nat) : Machine σ × Nat := Id.run do
  let mut m := m
  let mut reached := reached
  let mut version := 0
  for _ in [0:100000] do
    if version ≥ m.stack.heads.size then break
    for _ in [0:100000] do
      unless m.stack.isActive version do break
      m := advance k m version
      let byte := (m.stack.positionOf version).byte
      if reached < byte || (0 < version && byte = reached) then
        reached := byte
        break
    version := version + 1
  return (m, reached)

/-- Goes on round by round until a finished reading costs less than any version, or no version is
left. -/
def runRounds (k : Setting σ) : Nat → Machine σ → Nat → Machine σ
  | 0, m, _ => m
  | fuel + 1, m, reached =>
    if m.stack.heads.isEmpty then m
    else
      let (m, reached) := advanceAll k m reached
      let (m, least) := condense k m
      let done := match m.finished, least with
        | some t, some c => decide (t.cost < c)
        | some _, none => true
        | none, _ => false
      if done then m else runRounds k fuel m reached

/-- The best reading of a text. -/
def parseTree (table : Table) (scanner : Scanner σ) (text : Text) : Option (Tree σ) :=
  let k : Setting σ := ⟨table, scanner, text⟩
  (runRounds k (100 * text.size + 1000) { memory := scanner.initial } 0).finished

end DocSignature.Parsing
