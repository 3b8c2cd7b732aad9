import DocSignature.Grammar.Merging

/-!
# Lexers

A lexer is a deterministic automaton over the classes of an alphabet.  It reads as long as it can
and delivers the last token that ended on the way.  States of the parser that may ask for the same
tokens without harm share a start state, their *mode*.
-/

set_option autoImplicit false

namespace DocSignature.Grammar

/-- A state of a lexer. -/
structure LexState where
  /-- The token that ends here: one more than its symbol, or zero. -/
  accept : Nat
  /-- For each class zero, or one more than twice the next state, plus one if a blank is skipped. -/
  next : Array Nat
  /-- Whether the text may end here. -/
  endAllowed : Bool
deriving Inhabited

/-- A lexer with several start states. -/
structure Lexer where
  alphabet : Alphabet
  states : Array LexState
  /-- The start state for each state of the parser. -/
  modes : Array Nat
  /-- The start state for keywords. -/
  keywordMode : Nat

namespace Lexer

/-- Lexer states under construction, known by their nodes and by whether the text may end. -/
structure Builder where
  nodes : Array (Array Nat × Bool) := #[]
  index : Std.HashMap (Array Nat × Bool) Nat := {}

/-- The state for the given nodes. -/
def Builder.stateOf (b : Builder) (r : Recogniser) (nodes : Array Nat) (endAllowed : Bool) :
    Builder × Nat :=
  let key := (r.settle nodes, endAllowed)
  match b.index.get? key with
  | some i => (b, i)
  | none => (⟨b.nodes.push key, b.index.insert key b.nodes.size⟩, b.nodes.size)

/-- Fills in the table row of a state: where its ways lead, unless ending the token is better. -/
def fill (g : Productions) (r : Recogniser) (b : Builder) (nodes : Array Nat) (endAllowed : Bool) :
    Builder × LexState := Id.run do
  let mut b := b
  let ended := r.winner (r.endings nodes)
  let readsBlank := r.readsBlank nodes
  let mut next : Array Nat := Array.replicate r.alphabet.size 0
  for w in r.ways nodes do
    let taken := match ended with
      | some e => r.goesOn w e readsBlank
      | none => true
    if taken then
      let (b', target) := b.stateOf r w.targets (endAllowed && w.blank)
      b := b'
      let code := 2 * target + 1 + (if w.blank then 1 else 0)
      for c in [0:r.alphabet.size] do
        if w.classes.testBit c then next := next.set! c code
  let accept := match ended with
    | some (t, _) => g.firstToken + t + 1
    | none => 0
  return (b, ⟨accept, next, endAllowed⟩)

/-- For each symbol the tokens that a lexer could confuse it with where it does not belong. -/
def confusions (g : Productions) (v : Vocabulary) : Array TokenSet :=
  (Array.range g.firstVariable).map fun s => .ofTest g.firstVariable fun t =>
    g.isToken s && g.isToken t &&
      ((v.rivalry g s t).conflicts || (v.rivalry g s t).winsAsPart ||
        (!v.areTogether s t && ((v.rivalry g t s).overlaps || (v.rivalry g s t).overlaps)))

/-- Whether two sets of tokens may be joined without a lexer confusing their members. -/
def joinable (confused : Array TokenSet) (a b : TokenSet) : Bool :=
  let clash := fun (only without : TokenSet) =>
    !only.isEmpty && (Array.range confused.size).any fun s =>
      only.contains s && !((confused.getD s .empty).inter without).isEmpty
  !clash (a.diff b) b && !clash (b.diff a) a

/-- Groups of token sets that share a mode: each set joins the first group it may join. -/
def groupSets (confused : Array TokenSet) (sets : Array TokenSet) :
    Array TokenSet × Array Nat :=
  sets.foldl (fun (groups, modeOf) s =>
    match groups.findIdx? fun group => joinable confused group s with
    | some i => (groups.modify i (·.union s), modeOf.push i)
    | none => (groups.push s, modeOf.push groups.size)) (#[], #[])

/-- The lexer of an automaton.  Keywords are lexed as words. -/
def ofAutomaton (g : Productions) (v : Vocabulary) (a : Automaton) : Lexer := Id.run do
  let r := v.recogniser
  let keywords := v.keywords.toArray g.firstVariable
  let isKeyword := (Array.range g.firstVariable).map v.keywords.contains
  let asked := a.states.map fun s => TokenSet.ofTest g.firstVariable fun t =>
    g.eof ≤ t && !isKeyword.getD t false &&
      (s.hasToken t || (t == g.word && keywords.any s.hasToken))
  let (groups, groupOf) := groupSets (confusions g v) asked
  let startNodes := fun (s : TokenSet) =>
    ((Array.range' g.firstToken g.tokens.size).filter s.contains).map fun t =>
      r.starts.getD (t - g.firstToken) 0
  let mut b : Builder := {}
  let mut groupStarts := #[]
  for s in groups do
    let (b', i) := b.stateOf r (startNodes s) (s.contains g.eof)
    b := b'
    groupStarts := groupStarts.push i
  let (b', keywordMode) := b.stateOf r (startNodes v.keywords) false
  b := b'
  let mut states := #[]
  for n in [0:100000] do
    if n ≥ b.nodes.size then break
    let (nodes, endAllowed) := b.nodes.getD n default
    let (b', s) := fill g r b nodes endAllowed
    b := b'
    states := states.push s
  return { alphabet := r.alphabet
           states
           modes := groupOf.map fun i => groupStarts.getD i 0
           keywordMode }

end Lexer

end DocSignature.Grammar
