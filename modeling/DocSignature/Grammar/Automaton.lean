import DocSignature.Grammar.Item

/-!
# States

The states of the LR(1) parser, one for each set of items with the tokens that may follow them.  In
a state every token has an entry: the reductions possible at that token, and the state reached by
shifting it.  Entries with several actions are thinned out by precedence and by associativity; what
remains is tried in parallel when parsing.
-/

set_option autoImplicit false

namespace DocSignature.Grammar

/-! ## Shared sets of tokens -/

/-- A collection of token sets that are known by number, with remembered unions. -/
structure SetPool where
  sets : Array TokenSet := #[.empty]
  members : Array (Array Nat) := #[#[]]
  ids : Std.HashMap TokenSet Nat := Std.HashMap.emptyWithCapacity.insert .empty 0
  unions : Std.HashMap Nat Nat := {}
  /-- Tokens are numbered below this. -/
  bound : Nat

namespace SetPool

/-- The number of a set. -/
def intern (p : SetPool) (s : TokenSet) : SetPool × Nat :=
  match p.ids.get? s with
  | some i => (p, i)
  | none =>
    let i := p.sets.size
    ({ p with
        sets := p.sets.push s
        members := p.members.push (s.toArray p.bound)
        ids := p.ids.insert s i }, i)

/-- More sets than this are never made; pairs of numbers are coded with it. -/
def limit : Nat := 1048576

/-- The number of the union of two sets. -/
def union (p : SetPool) (a b : Nat) : SetPool × Nat :=
  if a = b || b = 0 then (p, a)
  else if a = 0 then (p, b)
  else
    let key := if a < b then a * limit + b else b * limit + a
    match p.unions.get? key with
    | some i => (p, i)
    | none =>
      let (p, i) := p.intern ((p.sets.getD a .empty).union (p.sets.getD b .empty))
      ({ p with unions := p.unions.insert key i }, i)

end SetPool

/-! ## Closures -/

/-- A variable that can come first where another one is expected, the tokens that can follow it
there, and whether what follows the expected variable can follow it too. -/
structure Leading where
  which : Nat
  follow : TokenSet
  passesOn : Bool
deriving Inhabited

/-- For each variable the variables that can come first in it, itself included. -/
def Productions.leading (g : Productions) (firsts : Array TokenSet) : Array (Array Leading) :=
  (Array.range g.nonterminals.size).map fun v => Id.run do
    let mut follow : Array TokenSet := Array.replicate g.nonterminals.size .empty
    let mut passes : Array Bool := Array.replicate g.nonterminals.size false
    let mut seen : Array Bool := Array.replicate g.nonterminals.size false
    passes := passes.set! v true
    seen := seen.set! v true
    -- A variable is looked at again whenever something new is known about it.
    let mut work : Array Nat := #[v]
    for _ in [0:10000000] do
      let some u := work.back? | break
      work := work.pop
      for p in (g.nonterminals.getD u default).productions do
        let some first := p.steps[0]? | continue
        if g.isVariable first.symbol then
          let w := first.symbol - g.firstVariable
          let (new, passesOn) := match p.steps[1]? with
            | some second => (firsts.getD second.symbol .empty, false)
            | none => (follow.getD u .empty, passes.getD u false)
          let old := follow.getD w .empty
          let joined := old.union new
          let joinedPasses := passes.getD w false || passesOn
          if !seen.getD w false || joined != old || joinedPasses != passes.getD w false then
            follow := follow.set! w joined
            passes := passes.set! w joinedPasses
            seen := seen.set! w true
            work := work.push w
    return (Array.range g.nonterminals.size).filterMap fun w =>
      if seen.getD w false then some ⟨w, follow.getD w .empty, passes.getD w false⟩ else none

/-! ## The states -/

/-- A state under construction or done. -/
structure State where
  /-- The number of the item set, lookaheads aside. -/
  core : Nat
  /-- For each token the number of its list of actions other than shifting; zero is the empty list. -/
  heads : Array Nat
  /-- For each token zero, or one more than twice the state it is shifted to, plus one if that shift
  only continues a repetition. -/
  shifts : Array Nat
  /-- For each variable zero or one more than the state that follows it. -/
  gotos : Array Nat
deriving Inhabited

/-- The number under which a shift is kept. -/
def State.shiftCode (target : Nat) (repetition : Bool) : Nat :=
  2 * target + 1 + (if repetition then 1 else 0)

/-- The state that a shift leads to. -/
def State.shiftTarget (code : Nat) : Nat := (code - 1) / 2

/-- Whether a shift only continues a repetition. -/
def State.shiftRepeats (code : Nat) : Bool := code % 2 == 0

/-- Whether a state knows what to do at a token. -/
def State.hasToken (s : State) (t : Nat) : Bool := s.heads.getD t 0 != 0 || s.shifts.getD t 0 != 0

/-- Lists of actions by number. -/
structure ActionPool where
  lists : Array (List Action) := #[[]]
  ids : Std.HashMap (List Action) Nat := Std.HashMap.emptyWithCapacity.insert [] 0

/-- The number of a list of actions. -/
def ActionPool.intern (p : ActionPool) (l : List Action) : ActionPool × Nat :=
  match p.ids.get? l with
  | some i => (p, i)
  | none => (⟨p.lists.push l, p.ids.insert l p.lists.size⟩, p.lists.size)

/-- All states, and the lists of actions that they refer to. -/
structure Automaton where
  states : Array State
  actions : ActionPool

namespace Automaton

/-- An item set as a state starts out with: items with the numbers of their follow sets, in class
order. -/
abbrev Kernel := Array (Nat × Nat)

/-- What the construction keeps between states. -/
structure Builder where
  kernels : Array Kernel := #[]
  cores : Array Nat := #[]
  byKernel : Std.HashMap (Array Nat) Nat := {}
  byCore : Std.HashMap (Array Nat) Nat := {}
  pool : SetPool
  actions : ActionPool := {}

/-- Puts items in class order and joins those of one class; the first of a class represents it. -/
def normalise (classOf : Array Nat) (pool : SetPool) (entries : Array (Nat × Nat)) :
    SetPool × Kernel :=
  if entries.size ≤ 1 then (pool, entries)
  else
    let sorted := entries.insertionSort fun a b => classOf.getD a.1 0 < classOf.getD b.1 0
    sorted.foldl (fun (pool, out) e =>
      match out.back? with
      | some last =>
        if classOf.getD last.1 0 = classOf.getD e.1 0 then
          let (pool, joined) := pool.union last.2 e.2
          (pool, out.pop.push (last.1, joined))
        else (pool, out.push e)
      | none => (pool, out.push e)) (pool, #[])

/-- The state of an item set, new if it was not known. -/
def Builder.stateOf (b : Builder) (classOf : Array Nat) (k : Kernel) : Builder × Nat :=
  let key := k.map fun e => classOf.getD e.1 0 * SetPool.limit + e.2
  match b.byKernel.get? key with
  | some i => (b, i)
  | none =>
    let coreKey := k.map fun e => classOf.getD e.1 0
    let i := b.kernels.size
    match b.byCore.get? coreKey with
    | some c =>
      ({ b with
          kernels := b.kernels.push k
          cores := b.cores.push c
          byKernel := b.byKernel.insert key i }, i)
    | none =>
      let c := b.byCore.size
      ({ b with
          kernels := b.kernels.push k
          cores := b.cores.push c
          byKernel := b.byKernel.insert key i
          byCore := b.byCore.insert coreKey c }, i)

/-- A finished item: what it does, how it binds, and when. -/
structure Finished where
  action : Action
  precedence : Int
  side : Option Associativity
  follow : Nat

/-- The reductions left at one token after comparing levels, with what the comparison with a shift
needs to know of them. -/
structure Reductions where
  actions : List Action := []
  precedence : Int := 0
  left : Bool := false
  right : Bool := false
  neither : Bool := false

/-- Adds a reduction: a higher level drives out the others, a lower one is left out. -/
def Reductions.add (r : Reductions) (f : Finished) : Reductions :=
  if !r.actions.isEmpty && f.precedence < r.precedence then r
  else
    let r := if !r.actions.isEmpty && r.precedence < f.precedence then {} else r
    { actions := r.actions ++ [f.action]
      precedence := f.precedence
      left := r.left || f.side == some .left
      right := r.right || f.side == some .right
      neither := r.neither || f.side == none }

/-- How a token that could be shifted or reduced at is settled. -/
inductive Settled where
  /-- Only a repetition goes on; both stay. -/
  | repetition
  /-- Only the shift stays. -/
  | shift
  /-- Only the reductions stay. -/
  | reduce
  /-- Both stay. -/
  | both

/-- Settles a shift against reductions by level, then by side. -/
def settle (shiftLevels : List Int) (r : Reductions) : Settled :=
  let more := shiftLevels.any (r.precedence < ·)
  let less := shiftLevels.any (· < r.precedence)
  if more && !less then .shift
  else if less && !more then .reduce
  else if !less && !more then
    if r.left && !r.neither && !r.right then .reduce
    else if r.right && !r.neither && !r.left then .shift
    else .both
  else .both

/-- The items of a state whose mark is past the first step, or that belong to the whole text, with
inlined variables replaced. -/
def mainItems (t : Items) (pool : SetPool) (k : Kernel) : SetPool × Kernel :=
  normalise t.classOf pool
    (k.flatMap fun e => (t.standsFor.getD e.1 #[]).map fun i => (i, e.2))

/-- Builds all states of a grammar.  State 0 has no items and is for errors, state 1 is the start. -/
def build (g : Productions) (t : Items) : Automaton := Id.run do
  let leading := g.leading t.firsts
  let tokenCount := g.firstVariable
  let mut b : Builder := { pool := { bound := tokenCount } }
  -- Follow sets that the closure will ask for.
  let mut leadingIds : Array (Array (Nat × Nat × Bool)) := #[]
  for ls in leading do
    let mut row := #[]
    for l in ls do
      let (pool, i) := b.pool.intern l.follow
      b := { b with pool }
      row := row.push (l.which, i, l.passesOn)
    leadingIds := leadingIds.push row
  let mut firstIds : Array Nat := #[]
  for f in t.firsts do
    let (pool, i) := b.pool.intern f
    b := { b with pool }
    firstIds := firstIds.push i
  let levels := t.items.map fun i => i.precedence.getD 0
  let secondSymbols := t.items.map fun i => (i.production.steps[i.mark + 1]?).map (·.symbol)
  let (b', _) := b.stateOf t.classOf #[]
  b := b'
  let (pool, eofSet) := b.pool.intern (.single g.eof)
  let (b', _) := { b with pool }.stateOf t.classOf #[(t.root, eofSet)]
  b := b'
  let mut states : Array State := #[]
  for n in [0:1000000] do
    if n ≥ b.kernels.size then break
    let kernel := b.kernels.getD n #[]
    let (pool, main) := mainItems t b.pool kernel
    let mut pool := pool
    -- The closure: a follow set for each variable that can come next.
    let mut follow : Array Nat := Array.replicate g.nonterminals.size 0
    let mut open_ : Array Bool := Array.replicate g.nonterminals.size false
    for (i, la) in main do
      if let some s := t.next.getD i none then
        if g.isVariable s then
          let after := match secondSymbols.getD i none with
            | some s2 => firstIds.getD s2 0
            | none => la
          for (v, f, passesOn) in leadingIds.getD (s - g.firstVariable) #[] do
            let (p, u) := pool.union (follow.getD v 0) f
            pool := p
            let (p, u) := if passesOn then pool.union u after else (pool, u)
            pool := p
            follow := follow.set! v u
            open_ := open_.set! v true
    -- Successors by symbol, and finished items.
    let mut buckets : Array (Array (Nat × Nat)) := Array.replicate g.symbolCount #[]
    let mut finished : Array Finished := #[]
    for v in [0:g.nonterminals.size] do
      if open_.getD v false then
        let la := follow.getD v 0
        for i in t.starts.getD v #[] do
          match t.next.getD i none with
          | some s => buckets := buckets.modify s (·.push (t.successor.getD i 0, la))
          | none => finished := finished.push ⟨t.action.getD i default, 0, none, la⟩
    for (i, la) in main do
      match t.next.getD i none with
      | some s => buckets := buckets.modify s (·.push (t.successor.getD i 0, la))
      | none =>
        let item := t.items.getD i default
        finished := finished.push ⟨t.action.getD i default, levels.getD i 0, item.side, la⟩
    -- Reductions by token.
    let mut reductions : Array Reductions := #[]
    unless finished.isEmpty do
      reductions := Array.replicate tokenCount {}
      for f in finished do
        for tok in pool.members.getD f.follow #[] do
          reductions := reductions.modify tok (·.add f)
    -- Shifts and gotos.
    let mut shifts : Array Nat := Array.replicate tokenCount 0
    let mut gotos : Array Nat := Array.replicate g.nonterminals.size 0
    b := { b with pool }
    for s in [0:g.symbolCount] do
      let entries := buckets.getD s #[]
      unless entries.isEmpty do
        let (joined, k) := normalise t.classOf b.pool entries
        let (b', target) := { b with pool := joined }.stateOf t.classOf k
        b := b'
        if g.isVariable s then gotos := gotos.set! (s - g.firstVariable) (target + 1)
        else shifts := shifts.set! s (State.shiftCode target false)
    -- Conflicts.
    let mut heads : Array Nat := Array.replicate tokenCount 0
    unless finished.isEmpty do
      for tok in [0:tokenCount] do
        let r := reductions.getD tok {}
        unless r.actions.isEmpty do
          let mut keep := r.actions
          let shift := shifts.getD tok 0
          if shift != 0 then
            let shiftable := main.filter fun e =>
              0 < (t.items.getD e.1 default).mark && match t.next.getD e.1 none with
                | some s => (t.firsts.getD s .empty).contains tok
                | none => false
            let ending := main.filter fun e =>
              (t.next.getD e.1 none).isNone && (b.pool.sets.getD e.2 .empty).contains tok
            let owners := ((shiftable ++ ending).map fun e => (t.items.getD e.1 default).owner).filter
              (· != g.symbolCount)
            let first := owners.getD 0 0
            let outcome :=
              if (g.nameOf first).2 == .auxiliary && owners.all (· == first) then .repetition
              else settle (shiftable.map fun e => levels.getD e.1 0).toList r
            match outcome with
            | .repetition =>
              shifts := shifts.set! tok (State.shiftCode (State.shiftTarget shift) true)
            | .shift => keep := []
            | .reduce => shifts := shifts.set! tok 0
            | .both => pure ()
          let (actions, h) := b.actions.intern keep
          b := { b with actions }
          heads := heads.set! tok h
    let (actions, extra) := b.actions.intern [.shiftExtra]
    b := { b with actions }
    for e in g.extras do
      if heads.getD e 0 = 0 && shifts.getD e 0 = 0 then heads := heads.set! e extra
    states := states.push ⟨b.cores.getD n 0, heads, shifts, gotos⟩
  return ⟨states, b.actions⟩

end Automaton

end DocSignature.Grammar
