import DocSignature.Grammar.Automaton
import DocSignature.Grammar.Recogniser

/-!
# The vocabulary of a grammar

What the states and the token patterns say together: which tokens occur side by side in a state,
which tokens are keywords, and which tokens take text from one another.
-/

set_option autoImplicit false

namespace DocSignature.Grammar

/-- How the tokens of a grammar stand to one another.  Sets are sets of symbols. -/
structure Vocabulary where
  recogniser : Recogniser
  /-- How each token of the lexer competes with each other one, counted from zero. -/
  rivalries : Array (Array Rivalry)
  /-- For each symbol the tokens of the lexer that occur together with it in some state. -/
  together : Array TokenSet
  /-- The tokens that are recognised by reading a word first. -/
  keywords : TokenSet

namespace Vocabulary

/-- Whether every character is a letter or a low line, by classes of the alphabet. -/
def letterClasses (a : Alphabet) (letters : CharSet) : Nat :=
  (Array.range a.bounds.size).foldl (fun m i =>
    if letters.contains (a.bounds.getD i 0) then m ||| (1 <<< a.classes.getD i 0) else m) 0

/-- The tokens that can directly follow each token of the lexer. -/
def followers (g : Productions) (t : Items) : Array TokenSet := Id.run do
  let mut out : Array TokenSet := Array.replicate g.tokens.size .empty
  let own := g.nonterminals.flatMap fun v => v.productions
  for p in own ++ t.items.map (·.production) do
    for i in [1:p.steps.size] do
      let left := t.lasts.getD (p.steps.getD (i - 1) default).symbol .empty
      let right := t.firsts.getD (p.steps.getD i default).symbol .empty
      for tok in left.toArray g.firstVariable do
        if g.isToken tok then
          out := out.modify (tok - g.firstToken) (·.union right)
  let everything := TokenSet.ofArray (Array.range' g.firstToken g.tokens.size)
  for e in g.extras do
    out := (out.map (·.insert e)).set! (e - g.firstToken) everything
  return out

/-- The classes of characters that can directly follow each token of the lexer. -/
def followingClasses (g : Productions) (t : Items) (r : Recogniser) : Array Nat :=
  let starts := r.startClasses
  (followers g t).map fun s =>
    (s.toArray g.firstVariable).foldl (fun m tok =>
      if g.isToken tok then m ||| starts.getD (tok - g.firstToken) 0 else m) 0

/-- The distinct sets of tokens of the lexer with which states go on. -/
def tokenSets (g : Productions) (a : Automaton) : Array TokenSet :=
  let sets := a.states.foldl (fun (m : Std.HashMap TokenSet Unit) s =>
    m.insert (.ofTest g.firstVariable fun t => g.isToken t && s.hasToken t) ()) {}
  sets.keysArray

/-- For each symbol the tokens of the lexer that occur together with it. -/
def togetherness (g : Productions) (sets : Array TokenSet) : Array TokenSet :=
  sets.foldl (fun out s =>
    (s.toArray g.firstVariable).foldl (fun out tok => out.modify tok (·.union s)) out)
    (Array.replicate g.firstVariable .empty)

/-- The keywords: tokens spelled with letters that the word token matches too, and that may be read
as words without new rivalries. -/
def findKeywords (g : Productions) (r : Recogniser) (rivalries : Array (Array Rivalry))
    (sets : Array TokenSet) (letters : CharSet) : TokenSet :=
  let word := g.word - g.firstToken
  let rivalry := fun (i j : Nat) => (rivalries.getD i #[]).getD j {}
  let letterMask := letterClasses r.alphabet letters
  let spelled := fun (i : Nat) => (r.ways (r.settle #[r.starts.getD i 0])).all fun w =>
    w.blank || (w.classes &&& letterMask) == w.classes
  let candidates := (Array.range g.tokens.size).filter fun i =>
    spelled i && (rivalry i word).winsSameText && !(rivalry i word).ownText
  let alone := candidates.filter fun i =>
    candidates.all fun j => j == i || !(rivalry j i).winsSameText
  let kept := alone.filter fun i =>
    (Array.range g.tokens.size).all fun j =>
      candidates.contains j ||
        (sets.all fun s => !(s.contains (g.firstToken + i) && s.contains (g.firstToken + j)) ||
          s.contains g.word) ||
        rivalry i j == rivalry word j
  .ofArray (kept.map (g.firstToken + ·))

/-- The vocabulary of a grammar with the given states; `letters` are the letters and the low line. -/
def ofAutomaton (g : Productions) (t : Items) (a : Automaton) (letters : CharSet) : Vocabulary :=
  let r := Recogniser.ofProductions g
  let rivalries := r.rivalries (followingClasses g t r)
  let sets := tokenSets g a
  { recogniser := r
    rivalries
    together := togetherness g sets
    keywords := findKeywords g r rivalries sets letters }

/-- How one symbol competes with another, if both are tokens of the lexer. -/
def rivalry (v : Vocabulary) (g : Productions) (s t : Nat) : Rivalry :=
  if g.isToken s && g.isToken t then
    (v.rivalries.getD (s - g.firstToken) #[]).getD (t - g.firstToken) {}
  else {}

/-- Whether two symbols occur together in some state. -/
def areTogether (v : Vocabulary) (s t : Nat) : Bool := (v.together.getD s .empty).contains t

/-- Whether the first symbol can take text from the second by being longer or shorter. -/
def shorterOrLonger (v : Vocabulary) (g : Productions) (s t : Nat) : Bool :=
  ((v.rivalry g s t).readsOnFollower || (v.rivalry g s t).endsInBlanks) &&
    !(v.rivalry g t s).endsInBlanks

/-- The tokens at which error recovery can take up again: all but those that could take text from a
token without such rivals. -/
def recoverTokens (v : Vocabulary) (g : Productions) : Array Nat :=
  let tokens := Array.range' g.firstToken g.tokens.size
  let free := tokens.filter fun s =>
    tokens.all fun t => t == s || v.areTogether s t || !v.shorterOrLonger g s t
  let kept := tokens.filter fun s =>
    free.contains s || v.keywords.contains s || s == g.word ||
      free.all fun t => v.areTogether s t || !(v.rivalry g s t).conflicts
  Array.range g.firstToken ++ kept

end Vocabulary

/-- The automaton with an entry for every token that error recovery knows in the error state. -/
def Automaton.withRecovery (a : Automaton) (g : Productions) (v : Vocabulary) : Automaton :=
  let (actions, recover) := a.actions.intern [.recover]
  { actions
    states := a.states.modify 0 fun s =>
      (v.recoverTokens g).foldl (fun s t =>
        if s.hasToken t then s else { s with heads := s.heads.set! t recover }) s }

end DocSignature.Grammar
