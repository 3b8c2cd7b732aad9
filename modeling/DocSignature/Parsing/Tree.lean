import DocSignature.Grammar.Table
import DocSignature.Parsing.Position

/-!
# Trees under construction

The trees that a parser builds hold every token and every variable, also those that make no node.
Each tree carries what the choice between readings depends on: the cost of the errors in it, its
weight, and how many nodes it shows.
-/

set_option autoImplicit false

namespace DocSignature.Parsing

open DocSignature.Grammar

/-- The symbol of text that fits nowhere. -/
def errorSymbol : Nat := 65535

/-- The symbol of skipped text that is still growing. -/
def errorRepeatSymbol : Nat := 65534

/-- What errors cost. -/
structure Costs where
  /-- Every place where the parser gives up on its state. -/
  recovery : Nat := 500
  /-- Every missing token, besides the recovery. -/
  missing : Nat := 110
  /-- Every skipped tree. -/
  skippedTree : Nat := 100
  /-- Every skipped byte. -/
  skippedByte : Nat := 1
  /-- Every skipped line. -/
  skippedLine : Nat := 30

/-- The costs in use. -/
def costs : Costs := {}

/-- What is known of a tree besides its children.  Scanned tokens keep the state, of type `σ`, in
which they left the scanner. -/
structure TreeInfo (σ : Type) where
  symbol : Nat
  start : Position
  stop : Position
  visible : Bool
  /-- Whether the tree may stand anywhere and takes no part in productions. -/
  extra : Bool := false
  /-- Whether the tree is a token that the text lacks. -/
  missing : Bool := false
  /-- Whether the token begins with the text of a keyword. -/
  keyword : Bool := false
  /-- The cost of the errors inside, a missing token aside. -/
  innerCost : Nat := 0
  /-- The weight of the reading. -/
  dynamic : Int := 0
  /-- The production by which the children were gathered. -/
  production : Nat := 0
  /-- The number of nodes directly below. -/
  visibleChildren : Nat := 0
  /-- The number of nodes below. -/
  descendants : Nat := 0
  /-- The state in which the token was read. -/
  readIn : Nat := 0
  /-- The state in which the token left the scanner. -/
  scanned : Option σ := none
  /-- Whether the token changed the state of the scanner. -/
  scanChanged : Bool := false

/-- A tree. -/
inductive Tree (σ : Type) where
  | node (info : TreeInfo σ) (children : Array (Tree σ))

namespace Tree

variable {σ : Type}

/-- What is known of a tree. -/
def info : Tree σ → TreeInfo σ
  | .node i _ => i

/-- The children of a tree. -/
def children : Tree σ → Array (Tree σ)
  | .node _ cs => cs

/-- The symbol of a tree. -/
def symbol (t : Tree σ) : Nat := t.info.symbol

/-- The cost of the errors of a tree. -/
def cost (t : Tree σ) : Nat :=
  if t.info.missing then costs.missing + costs.recovery else t.info.innerCost

/-- Whether a tree is text that fits nowhere. -/
def isError (t : Tree σ) : Bool := t.symbol == errorSymbol

/-- Whether a tree is skipped text, complete or still growing. -/
def isSkipped (symbol : Nat) : Bool := symbol == errorSymbol || symbol == errorRepeatSymbol

/-- Replaces what is known of a tree. -/
def withInfo (t : Tree σ) (f : TreeInfo σ → TreeInfo σ) : Tree σ :=
  match t with
  | .node i cs => .node (f i) cs

/-- How many nodes a tree adds to those shown.  Growing skipped text counts, so that progress in it
can be seen. -/
def nodeCount (t : Tree σ) : Nat :=
  t.info.descendants + (if t.info.visible then 1 else 0) +
    (if t.symbol == errorRepeatSymbol then 1 else 0)

/-- The place of a symbol when readings are compared. -/
def rank (table : Table) (symbol : Nat) : Nat :=
  if h : symbol < table.symbols.size then table.symbols[symbol].rank else symbol

/-- Whether a symbol makes a node. -/
def showsSymbol (table : Table) (symbol : Nat) : Bool :=
  if h : symbol < table.symbols.size then table.symbols[symbol].visible
  else symbol == errorSymbol

/-- Gathers trees under a symbol; a tree without children stands at `here`. -/
def gather (table : Table) (symbol production : Nat) (children : Array (Tree σ))
    (here : Position) : Tree σ :=
  let skipped := isSkipped symbol
  let aliases := (table.infos.getD production {}).aliases
  let base : TreeInfo σ :=
    { symbol, production
      start := (children[0]?.map (·.info.start)).getD here
      stop := (children.back?.map (·.info.stop)).getD here
      visible := showsSymbol table symbol }
  let step := fun (acc : TreeInfo σ × Nat) (c : Tree σ) =>
    let (i, place) := acc
    let ci := c.info
    let own := if c.symbol == errorRepeatSymbol then 0 else c.cost
    let skippedCost :=
      if skipped && !ci.extra && !(c.isError && c.children.isEmpty) then
        if ci.visible then costs.skippedTree else costs.skippedTree * ci.visibleChildren
      else 0
    let renamed := !ci.extra && c.symbol != table.eof && (aliases.getD place none).isSome
    let shown := renamed || ci.visible
    ({ i with
        innerCost := i.innerCost + own + skippedCost
        dynamic := i.dynamic + ci.dynamic
        descendants := i.descendants + ci.descendants + (if shown then 1 else 0)
        visibleChildren := i.visibleChildren + (if shown then 1 else ci.visibleChildren) },
      if ci.extra then place else place + 1)
  let (i, _) := children.foldl step (base, 0)
  let i := if skipped then
      { i with innerCost := i.innerCost + costs.recovery +
          costs.skippedByte * (i.stop.byte - i.start.byte) +
          costs.skippedLine * (i.stop.row - i.start.row) }
    else i
  .node i children

/-- Compares two trees from the root on, by symbol and by number of children; `.lt` means that the
first comes first. -/
def compareAll (table : Table) : Nat → List (Tree σ × Tree σ) → Ordering
  | 0, _ => .eq
  | _, [] => .eq
  | fuel + 1, (a, b) :: rest =>
    match compare (rank table a.symbol) (rank table b.symbol) with
    | .eq =>
      match compare a.children.size b.children.size with
      | .eq => compareAll table fuel ((a.children.zip b.children).toList ++ rest)
      | o => o
    | o => o

/-- Compares two readings of one stretch of text. -/
def compareReadings (table : Table) (a b : Tree σ) : Ordering :=
  compareAll table 10000000 [(a, b)]

/-- Whether the second of two readings is to be taken: the one with less error cost, then with more
weight, then the one that comes first symbol by symbol. -/
def prefersSecond (table : Table) (a b : Tree σ) : Bool :=
  if b.cost < a.cost then true
  else if a.cost < b.cost then false
  else if a.info.dynamic < b.info.dynamic then true
  else if b.info.dynamic < a.info.dynamic then false
  else if 0 < a.cost then true
  else compareReadings table a b == .gt

/-- Takes the extras at the end off a row of trees. -/
def splitExtras (ts : Array (Tree σ)) : Array (Tree σ) × Array (Tree σ) :=
  let keep := ts.popWhile (·.info.extra)
  (keep, ts.extract keep.size ts.size)

end Tree

end DocSignature.Parsing
