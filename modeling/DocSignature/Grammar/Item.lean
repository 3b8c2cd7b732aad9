import DocSignature.Grammar.Production
import DocSignature.Grammar.TokenSet

/-!
# Items

An item is a production with a mark between two of its steps: what lies before the mark has been
read.  Items are numbered once for the whole grammar, together with what the construction of the
states asks of them: the symbol after the mark, the item with the mark one step on, and the
reduction at the end.

Two items count as equal when nothing that is still to come can tell them apart.  Equal items share
a *class*, and classes are numbered in the order in which a state lists its items.
-/

set_option autoImplicit false

namespace DocSignature.Grammar

/-- What a parser may do at a token, shifting apart. -/
inductive Action where
  /-- Replaces the top `count` trees by one of the given variable. -/
  | reduce (symbol count : Nat) (dynamic : Int) (production : Nat)
  /-- Ends the parse. -/
  | accept
  /-- Takes the token as an extra. -/
  | shiftExtra
  /-- Takes part in error recovery. -/
  | recover
deriving BEq, Hashable, Inhabited, Repr

/-- What a production says about the nodes that it gathers. -/
structure ProductionInfo where
  /-- The alias of each child, up to the last one that has any. -/
  aliases : Array (Option Alias) := #[]
  /-- The roles: name, index of the child, and whether the role is given inside that child. -/
  fields : Array (String × Nat × Bool) := #[]
deriving BEq, Inhabited

/-- An item: its variable, its production, and the number of steps before the mark. -/
structure Item where
  owner : Nat
  production : Production
  mark : Nat
  /-- Whether a child that hands its roles up lies before the mark. -/
  inherits : Bool
deriving Inhabited

namespace Item

/-- The step before the mark. -/
def before (i : Item) : Option Step := if i.mark = 0 then none else i.production.steps[i.mark - 1]?

/-- The step after the mark. -/
def after (i : Item) : Option Step := i.production.steps[i.mark]?

/-- The level of the step before the mark. -/
def precedence (i : Item) : Option Int := i.before.bind (·.precedence)

/-- The side of the step before the mark. -/
def side (i : Item) : Option Associativity := i.before.bind (·.side)

end Item

/-! ## First and last tokens -/

/-- The tokens that a symbol can begin with, or end with, when `edge` picks the first or the last
step of a production. -/
def Productions.edgeTokens (g : Productions) (edge : Production → Option Step) :
    Array TokenSet := Id.run do
  let mut sets := (Array.range g.symbolCount).map fun s =>
    if g.isVariable s then TokenSet.empty else .single s
  -- A pass that adds nothing is the last one; each other pass completes at least one variable.
  for _ in [0:g.nonterminals.size + 1] do
    let mut changed := false
    for v in [0:g.nonterminals.size] do
      let s := g.firstVariable + v
      let old := sets.getD s .empty
      let new := (g.nonterminals.getD v default).productions.foldl (fun acc p =>
        match edge p with
        | some step => acc.union (sets.getD step.symbol .empty)
        | none => acc) old
      if new != old then
        sets := sets.set! s new
        changed := true
    unless changed do break
  return sets

/-! ## Inlining -/

/-- Replaces the step at an index by the steps of a production. -/
def Production.splice (p : Production) (at_ : Nat) (q : Production) : Production :=
  match p.steps[at_]? with
  | none => p
  | some old =>
    let inner := q.steps.map fun s =>
      { s with shown := old.shown <|> s.shown, field := old.field <|> s.field }
    let inner := inner.modify (inner.size - 1) fun s =>
      { s with precedence := s.precedence <|> old.precedence, side := s.side <|> old.side }
    { steps := p.steps.extract 0 at_ ++ inner ++ p.steps.extract (at_ + 1) p.steps.size
      dynamic := if q.dynamic.natAbs > p.dynamic.natAbs then q.dynamic else p.dynamic }

/-- The productions that stand for `p` once the inlined variable at an index is replaced; a
production without one there stands for itself. -/
def Productions.inlineAt (g : Productions) (at_ : Nat) : Nat → Production → List Production
  | 0, p => [p]
  | depth + 1, p =>
    match p.steps[at_]? with
    | some s =>
      if g.inlined.contains s.symbol then
        (g.variableOf s.symbol).productions.toList.flatMap fun q =>
          g.inlineAt at_ depth (p.splice at_ q)
      else [p]
    | none => [p]

/-! ## Roles -/

/-- The role names that each variable hands to its parent. -/
def Productions.fieldNames (g : Productions) : Array (List String) := Id.run do
  let shows := fun (s : Step) =>
    s.shown.isSome || g.defaultAliases.contains s.symbol || !g.isVariable s.symbol ||
      g.supertypes.contains s.symbol || (g.variableOf s.symbol).kind.visible
  let mut names : Array (List String) := Array.replicate g.nonterminals.size []
  for _ in [0:g.nonterminals.size + 1] do
    let mut changed := false
    for v in [0:g.nonterminals.size] do
      let old := names.getD v []
      let mut new := old
      for p in (g.nonterminals.getD v default).productions do
        for s in p.steps do
          if let some f := s.field then
            unless new.contains f do new := f :: new
          unless shows s do
            for f in names.getD (s.symbol - g.firstVariable) [] do
              unless new.contains f do new := f :: new
      if new.length != old.length then
        names := names.set! v new
        changed := true
    unless changed do break
  return names

/-! ## The table of items -/

/-- All items of a grammar with what is asked of them. -/
structure Items where
  /-- The items by number. -/
  items : Array Item
  /-- The class of each item. -/
  classOf : Array Nat
  /-- The symbol after the mark. -/
  next : Array (Option Nat)
  /-- The item with the mark one step on. -/
  successor : Array Nat
  /-- What an item whose next symbol is inlined stands for; other items stand for themselves. -/
  standsFor : Array (Array Nat)
  /-- What is done when the mark is at the end. -/
  action : Array Action
  /-- The items with which each variable begins, in class order. -/
  starts : Array (Array Nat)
  /-- The item of the whole text. -/
  root : Nat
  /-- What the productions say about their nodes. -/
  infos : Array ProductionInfo
  /-- The tokens each symbol can begin with. -/
  firsts : Array TokenSet
  /-- The tokens each symbol can end with. -/
  lasts : Array TokenSet

/-- Numbers for names in alphabetical order, from one on; zero is for no name. -/
def ranks (names : List String) : Std.HashMap String Nat :=
  let sorted := (names.mergeSort (· ≤ ·)).eraseDups
  (sorted.zipIdx).foldl (fun m e => m.insert e.1 (e.2 + 1)) {}

namespace Items

/-- Collects items and finds them again. -/
structure Collector where
  items : Array Item := #[]
  codes : Array (Array Nat) := #[]
  index : Std.HashMap (Array Nat) Nat := {}
  infos : Array ProductionInfo := #[{}]

/-- Numbers for everything that a code is made of. -/
structure Coding where
  aliasRank : Std.HashMap String Nat
  fieldRank : Std.HashMap String Nat

/-- The number of a level. -/
def codePrecedence : Option Int → Nat
  | none => 0
  | some p => (p + 1000).toNat

/-- The number of a side. -/
def codeSide : Option Associativity → Nat
  | none => 0
  | some .left => 1
  | some .right => 2

/-- The number of an alias. -/
def Coding.alias? (c : Coding) : Option Alias → Nat
  | none => 0
  | some a => 2 * c.aliasRank.getD a.name 0 + (if a.named then 1 else 0)

/-- The number of a role. -/
def Coding.field? (c : Coding) : Option String → Nat
  | none => 0
  | some f => c.fieldRank.getD f 0

/-- What decides the order and the equality of items: the number of steps read, the variable, the
weight, the length, the level and side before the mark, then the steps.  Of steps already read only
the alias and the role count, and the symbol where roles are handed up. -/
def Coding.classCode (c : Coding) (i : Item) : Array Nat :=
  let head := #[i.mark, i.owner, (i.production.dynamic + 1000).toNat, i.production.steps.size,
    codePrecedence i.precedence, codeSide i.side, if i.inherits then 1 else 0]
  (i.production.steps.toList.zipIdx).foldl (fun acc e =>
    let s := e.1
    if e.2 < i.mark then
      acc ++ #[c.alias? s.shown, c.field? s.field, if i.inherits then s.symbol else 0]
    else
      acc ++ #[s.symbol, codePrecedence s.precedence, codeSide s.side, c.alias? s.shown,
        c.field? s.field]) head

/-- Everything about an item, for finding it again. -/
def Coding.fullCode (c : Coding) (i : Item) : Array Nat :=
  (i.production.steps).foldl (fun acc s =>
    acc ++ #[s.symbol, codePrecedence s.precedence, codeSide s.side, c.alias? s.shown,
      c.field? s.field])
    #[i.mark, i.owner, (i.production.dynamic + 1000).toNat, if i.inherits then 1 else 0]

/-- The number of an item, new if it was not known. -/
def Collector.add (k : Collector) (c : Coding) (i : Item) : Collector × Nat :=
  let code := c.fullCode i
  match k.index.get? code with
  | some n => (k, n)
  | none =>
    let n := k.items.size
    ({ k with
        items := k.items.push i
        codes := k.codes.push (c.classCode i)
        index := k.index.insert code n }, n)

/-- Whether the first code comes before or at the second, compared number by number. -/
def codeLe (a b : Array Nat) : Bool :=
  go 0 (max a.size b.size)
where
  /-- Compares from an index on. -/
  go (i : Nat) : Nat → Bool
    | 0 => true
    | n + 1 =>
      let x := a.getD i 0
      let y := b.getD i 0
      if x < y then true else if y < x then false else go (i + 1) n

/-- What a production says about its nodes. -/
def infoOf (g : Productions) (handedUp : Array (List String)) (p : Production) :
    ProductionInfo := Id.run do
  let mut fields : Array (String × Nat × Bool) := #[]
  for j in [0:p.steps.size] do
    let s := p.steps.getD j default
    if let some f := s.field then fields := fields.push (f, j, false)
    if g.isVariable s.symbol && !(g.variableOf s.symbol).kind.visible then
      for f in handedUp.getD (s.symbol - g.firstVariable) [] do
        fields := fields.push (f, j, true)
  let mut aliases := p.steps.map (·.shown)
  for _ in [0:p.steps.size] do
    if aliases.back? == some none then aliases := aliases.pop else break
  return { aliases, fields }

/-- Finds all items of a grammar. -/
def ofProductions (g : Productions) : Items := Id.run do
  let handedUp := g.fieldNames
  let steps := g.nonterminals.toList.flatMap fun v => v.productions.toList.flatMap (·.steps.toList)
  let coding : Coding :=
    ⟨ranks (steps.filterMap fun s => s.shown.map (·.name)), ranks (steps.filterMap (·.field))⟩
  let handsUp := fun (s : Nat) => g.isVariable s && !(g.variableOf s).kind.visible &&
    !(handedUp.getD (s - g.firstVariable) []).isEmpty
  let mut k : Collector := {}
  let mut next : Array (Option Nat) := #[]
  let mut successor : Array Nat := #[]
  let mut standsFor : Array (Array Nat) := #[]
  let mut starts : Array (Array Nat) := #[]
  for v in [0:g.nonterminals.size] do
    let s := g.firstVariable + v
    let mut mine := #[]
    unless g.inlined.contains s do
      for p in (g.nonterminals.getD v default).productions do
        for q in g.inlineAt 0 8 p do
          let (k', n) := k.add coding ⟨s, q, 0, false⟩
          k := k'
          unless mine.contains n do mine := mine.push n
    starts := starts.push mine
  let rootProduction : Production := ⟨#[⟨g.firstVariable, none, none, none, none⟩], 0⟩
  let (k', root) := k.add coding ⟨g.symbolCount, rootProduction, 0, false⟩
  k := k'
  -- Items are visited in the order in which they were found, until none is new.
  for n in [0:1000000] do
    if n ≥ k.items.size then break
    let i := k.items.getD n default
    match i.after with
    | none =>
      next := next.push none
      successor := successor.push n
      standsFor := standsFor.push #[n]
    | some s =>
      next := next.push (some s.symbol)
      if g.inlined.contains s.symbol then
        let mut stand := #[]
        for q in g.inlineAt i.mark 8 i.production do
          let (k', m) := k.add coding { i with production := q }
          k := k'
          unless stand.contains m do stand := stand.push m
        standsFor := standsFor.push stand
        successor := successor.push n
      else
        let (k', m) := k.add coding
          { i with mark := i.mark + 1, inherits := i.inherits || handsUp s.symbol }
        k := k'
        successor := successor.push m
        standsFor := standsFor.push #[n]
  -- Classes are numbered in order.
  let order := (List.range k.items.size).mergeSort fun a b =>
    codeLe (k.codes.getD a #[]) (k.codes.getD b #[])
  let mut classOf := Array.replicate k.items.size 0
  let mut last : Option (Array Nat) := none
  let mut count := 0
  for n in order do
    let code := k.codes.getD n #[]
    if last.isSome && last != some code then count := count + 1
    last := some code
    classOf := classOf.set! n count
  let byClass := fun (ns : Array Nat) =>
    (ns.toList.mergeSort fun a b => classOf.getD a 0 ≤ classOf.getD b 0).toArray
  -- Reductions.
  let mut infos : Array ProductionInfo := #[{}]
  let mut action : Array Action := #[]
  for i in k.items do
    if i.mark < i.production.steps.size then
      action := action.push .accept
    else if i.owner = g.symbolCount then
      action := action.push .accept
    else
      let info := infoOf g handedUp i.production
      let n := (infos.findIdx? (· == info)).getD infos.size
      if n = infos.size then infos := infos.push info
      action := action.push (.reduce i.owner i.mark i.production.dynamic n)
  return {
    items := k.items
    classOf, next, successor, standsFor, action, root, infos
    starts := starts.map byClass
    firsts := g.edgeTokens fun p => p.steps[0]?
    lasts := g.edgeTokens fun p => p.steps.back? }

end Items

end DocSignature.Grammar
