import DocSignature.Grammar.Rule
import Std.Data.HashMap

/-!
# Productions

The rules of a grammar, brought to the form that a parser generator works on: every symbol has a
number, repetitions have become rules of their own that double, and every alternative is one
production, a row of steps.
-/

set_option autoImplicit false

namespace DocSignature.Grammar

/-- How a symbol shows in the tree. -/
inductive Visibility where
  /-- Makes no node. -/
  | hidden
  /-- Stands for a repetition or an unnamed pattern and makes no node. -/
  | auxiliary
  /-- Makes a node known by its text. -/
  | anonymous
  /-- Makes a named node. -/
  | named
deriving BEq, DecidableEq, Inhabited, Repr

/-- Whether a symbol of this kind makes a node. -/
def Visibility.visible : Visibility → Bool
  | .named | .anonymous => true
  | .hidden | .auxiliary => false

/-- One step of a production. -/
structure Step where
  /-- The symbol expected here. -/
  symbol : Nat
  /-- The level at which this step binds. -/
  precedence : Option Int
  /-- The side to which this step nests. -/
  side : Option Associativity
  /-- The name under which the step's node shows. -/
  shown : Option Alias
  /-- The role of the step's node. -/
  field : Option String
deriving BEq, Inhabited

/-- One alternative of a rule. -/
structure Production where
  /-- The steps in order. -/
  steps : Array Step
  /-- The weight of this reading against others. -/
  dynamic : Int
deriving BEq, Inhabited

/-- A rule with its productions. -/
structure Variable where
  name : String
  kind : Visibility
  productions : Array Production
deriving Inhabited

/-- A token that the lexer recognises. -/
structure Token where
  name : String
  kind : Visibility
  spec : TokenSpec
deriving Inhabited

/-- A grammar over numbered symbols.  Scanned tokens come first, then the end of the text, then the
tokens of the lexer, then the variables. -/
structure Productions where
  /-- The tokens that only the scanner knows. -/
  scannedOnly : Array (String × Visibility)
  /-- The tokens of the lexer. -/
  tokens : Array Token
  /-- The rules, the start rule first. -/
  nonterminals : Array Variable
  /-- The symbol of each token of the scanner, in the scanner's order. -/
  scanned : Array Nat
  /-- The symbols that may stand anywhere. -/
  extras : Array Nat
  /-- The variables replaced by their alternatives. -/
  inlined : Array Nat
  /-- The variables that stand for several kinds of node. -/
  supertypes : Array Nat
  /-- The symbol of the word token. -/
  word : Nat
  /-- What may stand before a token. -/
  blanks : Pattern
  /-- Names by which symbols show that never show under their own. -/
  defaultAliases : Std.HashMap Nat Alias := {}

namespace Productions

variable (g : Productions)

/-- The symbol of the end of the text. -/
def eof : Nat := g.scannedOnly.size

/-- The symbol of the first token of the lexer. -/
def firstToken : Nat := g.eof + 1

/-- The symbol of the first variable, which is also the number of tokens of any kind. -/
def firstVariable : Nat := g.firstToken + g.tokens.size

/-- The number of symbols. -/
def symbolCount : Nat := g.firstVariable + g.nonterminals.size

/-- Whether a symbol is a variable. -/
def isVariable (s : Nat) : Bool := g.firstVariable ≤ s

/-- Whether a symbol is a token of the lexer. -/
def isToken (s : Nat) : Bool := g.firstToken ≤ s && s < g.firstVariable

/-- The variable of a symbol. -/
def variableOf (s : Nat) : Variable := g.nonterminals.getD (s - g.firstVariable) default

/-- The name and kind of a symbol, its default alias aside. -/
def nameOf (s : Nat) : String × Visibility :=
  if s < g.eof then g.scannedOnly.getD s ("", .hidden)
  else if s = g.eof then ("end", .hidden)
  else if g.isVariable s then ((g.variableOf s).name, (g.variableOf s).kind)
  else
    let t := g.tokens.getD (s - g.firstToken) default
    (t.name, t.kind)

end Productions

/-! ## Tokens -/

/-- The tokens of a rule, in the order in which they occur. -/
def Rule.tokens : Rule → List TokenSpec
  | .blank => []
  | .token t => [t]
  | .ref _ => []
  | .seq rs => tokensOf rs
  | .choice rs => tokensOf rs
  | .many1 r => r.tokens
  | .prec _ _ r => r.tokens
  | .dynamicPrec _ r => r.tokens
  | .renamed _ r => r.tokens
  | .field _ r => r.tokens
where
  /-- The tokens of several rules. -/
  tokensOf : List Rule → List TokenSpec
    | [] => []
    | r :: rs => r.tokens ++ tokensOf rs

/-- Distinct tokens in order of first occurrence, each with its number of occurrences. -/
def countTokens (ts : List TokenSpec) : Array (TokenSpec × Nat) :=
  ts.foldl (fun out t =>
    match out.findIdx? (·.1 == t) with
    | some i => out.modify i fun e => (e.1, e.2 + 1)
    | none => out.push (t, 1)) #[]

/-- The kind that a rule's name gives it. -/
def kindOfName (name : String) : Visibility :=
  if name.startsWith "_" then .hidden else .named

/-! ## Repetitions -/

/-- The repetitions met so far and how many of them arose in the current rule. -/
structure Repeats where
  known : List (Rule × String)
  added : Array (String × Rule)
  count : Nat

/-- Replaces repetitions by references to rules that double: such a rule is two of itself or the
repeated rule once.  Equal repetitions share one rule. -/
def Rule.expandRepeats (owner : String) : Rule → StateM Repeats Rule
  | .seq rs => return .seq (← expandAll rs)
  | .choice rs => return .choice (← expandAll rs)
  | .many1 r => do
    let inner ← r.expandRepeats owner
    let st ← get
    match st.known.find? (·.1 == inner) with
    | some (_, name) => return .ref name
    | none =>
      let name := owner ++ "_repeat" ++ toString (st.count + 1)
      let doubled := Rule.anyOf [.seq [.ref name, .ref name], inner]
      set (Repeats.mk ((inner, name) :: st.known) (st.added.push (name, doubled)) (st.count + 1))
      return .ref name
  | .prec l s r => return .prec l s (← r.expandRepeats owner)
  | .dynamicPrec l r => return .dynamicPrec l (← r.expandRepeats owner)
  | .renamed a r => return .renamed a (← r.expandRepeats owner)
  | .field n r => return .field n (← r.expandRepeats owner)
  | r => return r
where
  /-- Expands several rules in order. -/
  expandAll : List Rule → StateM Repeats (List Rule)
    | [] => return []
    | r :: rs => do
      let r' ← r.expandRepeats owner
      return r' :: (← expandAll rs)

/-- All rules without repetitions, the rules for repetitions last. -/
def expandRepeats (rules : List (String × Rule)) : List (String × Rule) × Array (String × Rule) :=
  let step : String × Rule → StateM Repeats (String × Rule) := fun p => do
    modify fun (st : Repeats) => { st with count := 0 }
    return (p.1, ← p.2.expandRepeats p.1)
  let run : StateM Repeats (List (String × Rule)) := rules.mapM step
  let (out, st) := run.run ⟨[], #[], 0⟩
  (out, st.added)

/-! ## Alternatives -/

/-- The alternatives of a rule, none of which holds a choice. -/
def Rule.alternatives : Rule → List Rule
  | .seq rs => (rows rs).map .seq
  | .choice rs => each rs
  | .prec l s r => r.alternatives.map (.prec l s)
  | .dynamicPrec l r => r.alternatives.map (.dynamicPrec l)
  | .renamed a r => r.alternatives.map (.renamed a)
  | .field n r => r.alternatives.map (.field n)
  | r => [r]
where
  /-- Every way to take one alternative of each rule; the last one varies fastest. -/
  rows : List Rule → List (List Rule)
    | [] => [[]]
    | r :: rs =>
      let tails := rows rs
      r.alternatives.flatMap fun a => tails.map (a :: ·)
  /-- The alternatives of all rules one after another. -/
  each : List Rule → List Rule
    | [] => []
    | r :: rs => r.alternatives ++ each rs

/-- What surrounds the part of a rule that is being flattened. -/
structure Surrounding where
  precedence : Option Int := none
  side : Option Associativity := none
  shown : Option Alias := none
  field : Option String := none

/-- Changes the last step. -/
def Production.modifyLast (p : Production) (f : Step → Step) : Production :=
  { p with steps := p.steps.modify (p.steps.size - 1) f }

/-- Appends the steps of a rule without choices.  A level or side that ends before the end of the
production does not hold for the last step it covers: what comes after that step is compared at the
level around it. -/
def Rule.flatten (symbolOf : Rule → Option Nat) (out : Production) (around : Surrounding)
    (atEnd : Bool) : Rule → Production
  | .blank => out
  | .seq rs => flattenAll out around rs
  | .choice _ => out
  | .many1 _ => out
  | .prec l s r =>
    let inner := { around with precedence := some l, side := s <|> around.side }
    let next := r.flatten symbolOf out inner atEnd
    if next.steps.size = out.steps.size || atEnd then next
    else
      let next := next.modifyLast ({ · with precedence := around.precedence })
      if s.isSome then next.modifyLast ({ · with side := around.side }) else next
  | .dynamicPrec l r =>
    let dynamic := if l.natAbs > out.dynamic.natAbs then l else out.dynamic
    r.flatten symbolOf { out with dynamic } around atEnd
  | .renamed a r => r.flatten symbolOf out { around with shown := some a } atEnd
  | .field n r => r.flatten symbolOf out { around with field := some n } atEnd
  | r =>
    match symbolOf r with
    | none => out
    | some s =>
      let step : Step := ⟨s, around.precedence, around.side, around.shown, around.field⟩
      { out with steps := out.steps.push step }
where
  /-- Appends the steps of several rules. -/
  flattenAll (out : Production) (around : Surrounding) : List Rule → Production
    | [] => out
    | [r] => r.flatten symbolOf out around atEnd
    | r :: rs => flattenAll (r.flatten symbolOf out around false) around rs

/-- The productions of a rule without repetitions. -/
def Rule.productions (symbolOf : Rule → Option Nat) (r : Rule) : Array Production :=
  r.alternatives.foldl (fun out a =>
    let p := a.flatten symbolOf ⟨#[], 0⟩ {} true
    if out.contains p then out else out.push p) #[]

/-! ## Default aliases -/

/-- Counts one more use of an alias. -/
def countAlias (uses : List (Alias × Nat)) (a : Alias) : List (Alias × Nat) :=
  if uses.any (·.1 == a) then uses.map fun u => if u.1 == a then (a, u.2 + 1) else u
  else uses ++ [(a, 1)]

/-- The alias used most often, the first of them if several are. -/
def mostUsed : List (Alias × Nat) → Option Alias
  | [] => none
  | u :: us => some (us.foldl (fun best v => if best.2 < v.2 then v else best) u).1

/-- Symbols that show only under aliases get the most frequent one as their default, and steps that
ask for just that alias no longer need to say so. -/
def Productions.withDefaultAliases (g : Productions) : Productions := Id.run do
  let mut uses : Std.HashMap Nat (List (Alias × Nat)) := {}
  let mut bare : Std.HashMap Nat Unit := {}
  for e in g.extras do
    bare := bare.insert e ()
  for v in g.nonterminals do
    for p in v.productions do
      for s in p.steps do
        unless g.inlined.contains s.symbol do
          match s.shown with
          | some a => uses := uses.insert s.symbol (countAlias (uses.getD s.symbol []) a)
          | none => bare := bare.insert s.symbol ()
  let mut defaults : Std.HashMap Nat Alias := {}
  for (s, us) in uses do
    unless bare.contains s do
      if let some a := mostUsed us then
        defaults := defaults.insert s a
  let mut nonterminals := #[]
  for v in g.nonterminals do
    let mut productions := v.productions
    for i in [0:v.productions.size] do
      let p := v.productions.getD i default
      for j in [0:p.steps.size] do
        let s := p.steps.getD j default
        if s.shown.isSome && s.shown == defaults.get? s.symbol then
          let needed := (Array.range v.productions.size).any fun k =>
            k != i && match (v.productions.getD k default).steps[j]? with
              | some o => o.shown == s.shown && defaults.get? o.symbol != s.shown
              | none => false
          unless needed do
            productions := productions.modify i fun q =>
              { q with steps := q.steps.modify j ({ · with shown := none }) }
    nonterminals := nonterminals.push { v with productions }
  return { g with nonterminals, defaultAliases := defaults }

/-! ## Numbering -/

/-- A grammar over numbered symbols. -/
def Description.productions (g : Description) : Productions :=
  let specs := countTokens (g.rules.flatMap fun r => r.2.tokens)
  let start := (g.rules.head?.map (·.1)).getD ""
  let kindOf := fun name => if g.supertypes.contains name then Visibility.hidden else kindOfName name
  -- A rule that is just one token, used nowhere else, names that token.
  let naming := fun (i : Nat) => g.rules.find? fun (name, rule) =>
    match rule, specs[i]? with
    | .token t, some (spec, count) =>
      name != start && t == spec && count = 1 &&
        (spec.literal.isNone || kindOf name != .hidden)
    | _, _ => false
  let tokens := (Array.range specs.size).map fun i =>
    let spec := (specs.getD i default).1
    match naming i, spec.literal with
    | some (name, _), _ => { name, kind := kindOf name, spec : Token }
    | none, some s => { name := s, kind := .anonymous, spec }
    | none, none => { name := "", kind := .auxiliary, spec }
  let isTokenRule := fun name => tokens.any fun t => t.kind != .anonymous && t.name == name
  let (rules, repeats) := expandRepeats (g.rules.filter fun r => !isTokenRule r.1)
  let scannedOnly := (g.scanned.filterMap fun
    | .own name => some (name, kindOfName name)
    | _ => none).toArray
  let firstToken := scannedOnly.size + 1
  let firstVariable := firstToken + tokens.size
  let names : Array String := scannedOnly.map (·.1) ++ #["end"] ++
    tokens.map (fun t => if t.kind == .anonymous then "" else t.name) ++
    (rules.map (·.1)).toArray ++ repeats.map (·.1)
  let byName : Std.HashMap String Nat :=
    (Array.range names.size).foldl (fun m i =>
      let n := names.getD i ""
      if n == "" then m else m.insert n i) {}
  let symbolOf : Rule → Option Nat := fun
    | .ref name => byName.get? name
    | .token t => (tokens.findIdx? (·.spec == t)).map (firstToken + ·)
    | _ => none
  let variableOf := fun (kind : Visibility) (r : String × Rule) =>
    { name := r.1, kind, productions := r.2.productions symbolOf : Variable }
  let found := fun (ns : List String) => (ns.filterMap (byName.get? ·)).toArray
  let numbered : Productions :=
    { scannedOnly
      tokens
      nonterminals := (rules.map fun r => variableOf (kindOf r.1) r).toArray ++
        repeats.map (variableOf .auxiliary)
      scanned := (g.scanned.filterMap fun
        | .own name => byName.get? name
        | .ofRule name => byName.get? name
        | .ofText s => symbolOf (.token (.ofText s))).toArray
      extras := found g.extras
      inlined := found g.inlined
      supertypes := (found g.supertypes).filter (firstVariable ≤ ·)
      word := byName.getD g.word firstToken
      blanks := g.blanks }
  numbered.withDefaultAliases

end DocSignature.Grammar
