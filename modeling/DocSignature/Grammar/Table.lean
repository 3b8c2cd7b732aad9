import DocSignature.Grammar.Lexer

/-!
# Parse tables

Everything a parser needs to know of a grammar: the actions of every state, the lexer, the tokens
that the scanner may deliver in every state, and how symbols show in the tree.
-/

set_option autoImplicit false

namespace DocSignature.Grammar

/-- How a symbol shows in the tree. -/
structure SymbolInfo where
  name : String
  /-- Whether it makes a node. -/
  visible : Bool
  /-- Whether its node is a named one. -/
  named : Bool
  /-- The place of the symbol when two readings are compared symbol by symbol. -/
  rank : Nat
deriving Inhabited

/-- The tables of a grammar. -/
structure Table where
  symbols : Array SymbolInfo
  /-- Symbols below this are tokens. -/
  tokenCount : Nat
  eof : Nat
  word : Nat
  actionLists : Array (List Action)
  states : Array State
  lexer : Lexer
  /-- The symbol of each token of the scanner. -/
  scanned : Array Nat
  /-- For each state the tokens of the scanner that may come, by their place in the scanner's
  order. -/
  scannedIn : Array TokenSet
  /-- What productions say about their nodes. -/
  infos : Array ProductionInfo
  /-- The tokens in the order in which a missing one is looked for. -/
  repairOrder : Array Nat

namespace Table

/-- The tables of a grammar; `letters` are the characters keywords may be spelled with. -/
def ofGrammar (grammar : Description) (letters : CharSet) : Table :=
  let g := grammar.productions
  let t := Items.ofProductions g
  let a := Automaton.build g t
  let v := Vocabulary.ofAutomaton g t a letters
  let m := (a.withRecovery g v).merged g v
  let order := #[g.eof, g.word] ++
    (Array.range' g.firstToken g.tokens.size).filter (· != g.word) ++ Array.range g.eof ++
    Array.range' g.firstVariable g.nonterminals.size
  let ranks := (Array.range order.size).foldl (fun (out : Array Nat) i =>
    out.set! (order.getD i 0) i) (Array.replicate g.symbolCount 0)
  { symbols := (Array.range g.symbolCount).map fun s =>
      match g.defaultAliases.get? s with
      | some alt => ⟨alt.name, true, alt.named, ranks.getD s 0⟩
      | none =>
        let (name, kind) := g.nameOf s
        ⟨name, kind.visible, kind == .named, ranks.getD s 0⟩
    tokenCount := g.firstVariable
    eof := g.eof
    word := g.word
    actionLists := m.actions.lists
    states := m.states
    lexer := Lexer.ofAutomaton g v m
    scanned := g.scanned
    scannedIn := m.states.map fun s =>
      .ofArray ((Array.range g.scanned.size).filter fun k => s.hasToken (g.scanned.getD k 0))
    infos := t.infos
    repairOrder := (order.extract 0 g.firstVariable).filter (· != g.eof) }

variable (t : Table)

/-- The actions other than shifting in a state at a token. -/
def actionsAt (state token : Nat) : List Action :=
  t.actionLists.getD ((t.states.getD state default).heads.getD token 0) []

/-- The shift in a state at a token: the next state, and whether it only goes on with a
repetition. -/
def shiftAt (state token : Nat) : Option (Nat × Bool) :=
  let c := (t.states.getD state default).shifts.getD token 0
  if c = 0 then none else some (State.shiftTarget c, State.shiftRepeats c)

/-- Whether a state knows a token. -/
def knows (state token : Nat) : Bool := (t.states.getD state default).hasToken token

/-- Whether the first action in a state at a token is a reduction. -/
def reducesAt (state token : Nat) : Bool :=
  match t.actionsAt state token with
  | .reduce .. :: _ => true
  | _ => false

/-- The state after a variable. -/
def gotoAt (state symbol : Nat) : Option Nat :=
  let c := (t.states.getD state default).gotos.getD (symbol - t.tokenCount) 0
  if c = 0 then none else some (c - 1)

/-- The state after a symbol, if there is one; an extra leaves the state as it is. -/
def nextState (state symbol : Nat) : Option Nat :=
  if symbol < t.tokenCount then
    match t.shiftAt state symbol with
    | some (s, _) => some s
    | none => if t.actionsAt state symbol == [.shiftExtra] then some state else none
  else t.gotoAt state symbol

end Table

end DocSignature.Grammar
