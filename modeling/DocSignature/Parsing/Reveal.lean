import DocSignature.Parsing.Tree
import DocSignature.Syntax.ConcreteTree

/-!
# What shows of a tree

The nodes of a concrete tree are the trees whose symbol shows, or that a production shows under
another name.  A tree that does not show passes its children on to the node above it, and with them
its role there.
-/

set_option autoImplicit false

namespace DocSignature.Parsing

open DocSignature.Grammar DocSignature.Syntax

variable {σ : Type}

/-- The place of a position as rows and columns. -/
def Position.point (p : Position) : Point := ⟨p.row, p.column⟩

/-- The concrete node of a tree that shows, under its own or another name and in a role. -/
def Tree.concreteNode (table : Table) (i : TreeInfo σ) (shown : Option Alias)
    (field : Option String) : ConcreteNode :=
  let (name, named) := match shown with
    | some alt => (alt.name, alt.named)
    | none =>
      if h : i.symbol < table.symbols.size then
        (table.symbols[i.symbol].name, table.symbols[i.symbol].named)
      else ("ERROR", true)
  { name, named
    isError := shown.isNone && i.symbol == errorSymbol
    isMissing := i.missing
    field
    start := i.start.point
    stop := i.stop.point
    bytes := ⟨i.start.byte, i.stop.byte⟩ }

/-- The role that a production gives to the child at a place. -/
def fieldAt (info : ProductionInfo) (place : Nat) : Option String :=
  (info.fields.find? fun (_, p, inherited) => p == place && !inherited).map (·.1)

mutual

/-- Puts what shows of a tree before `rest`. -/
def Tree.reveal (table : Table) (shown : Option Alias) (field : Option String)
    (rest : List ConcreteTree) : Tree σ → List ConcreteTree
  | .node i ⟨children⟩ =>
    let info := table.infos.getD i.production {}
    if shown.isSome || i.visible then
      .node (Tree.concreteNode table i shown field) (Tree.revealAll table info none 0 [] children)
        :: rest
    else Tree.revealAll table info field 0 rest children

/-- Puts what shows of the children of a production from a place on before `rest`. -/
def Tree.revealAll (table : Table) (info : ProductionInfo) (inherited : Option String)
    (place : Nat) (rest : List ConcreteTree) : List (Tree σ) → List ConcreteTree
  | [] => rest
  | c :: cs =>
    if c.info.extra then
      c.reveal table none none (Tree.revealAll table info inherited place rest cs)
    else
      c.reveal table (info.aliases.getD place none) (fieldAt info place <|> inherited)
        (Tree.revealAll table info inherited (place + 1) rest cs)

end

/-- The concrete tree of a whole reading. -/
def Tree.toConcrete (table : Table) (t : Tree σ) : Option ConcreteTree :=
  (t.reveal table none none []).head?

end DocSignature.Parsing
