import DocSignature.Grammar.Alphabet
import DocSignature.Grammar.Production

/-!
# Recognising tokens

All token patterns become one automaton whose nodes either read a character or end a token.  From a
set of nodes and the next character follows the set of nodes reached; sets that belong to two tokens
show where those tokens compete.
-/

set_option autoImplicit false

namespace DocSignature.Grammar

/-- A node of the automaton of all tokens. -/
inductive RecogniserNode where
  /-- Reads one character of the given classes. -/
  | read (classes : Nat) (next : Nat) (precedence : Int) (blank : Bool)
  /-- Ends a token. -/
  | done (token : Nat) (precedence : Int)
  /-- Goes on at either of two nodes. -/
  | either (left right : Nat)
deriving Inhabited

/-- The automaton of all tokens.  Tokens are counted from zero here. -/
structure Recogniser where
  nodes : Array RecogniserNode
  /-- The token to which each node belongs. -/
  tokenOf : Array Nat
  /-- The node at which each token starts. -/
  starts : Array Nat
  /-- How strongly the form of each token counts. -/
  weights : Array Nat
  alphabet : Alphabet

/-- The character sets of a pattern. -/
def Pattern.sets : Pattern → List CharSet
  | .empty => []
  | .chars s => [s]
  | .seq a b => a.sets ++ b.sets
  | .alt a b => a.sets ++ b.sets
  | .plus a => a.sets

namespace Recogniser

/-- Adds a pattern that goes on at `next`, and gives the node at which it starts. -/
def addPattern (alphabet : Alphabet) (precedence : Int) (blank : Bool) :
    Pattern → Array RecogniserNode → Nat → Array RecogniserNode × Nat
  | .empty, nodes, next => (nodes, next)
  | .chars s, nodes, next =>
    (nodes.push (.read (alphabet.maskOf s) next precedence blank), nodes.size)
  | .seq a b, nodes, next =>
    let (nodes, mid) := addPattern alphabet precedence blank b nodes next
    addPattern alphabet precedence blank a nodes mid
  | .alt a b, nodes, next =>
    let (nodes, right) := addPattern alphabet precedence blank b nodes next
    let (nodes, left) := addPattern alphabet precedence blank a nodes next
    (nodes.push (.either left right), nodes.size)
  | .plus a, nodes, next =>
    let loop := nodes.size
    let (nodes, start) := addPattern alphabet precedence blank a (nodes.push default) loop
    (nodes.set! loop (.either start next), start)

/-- The automaton of the tokens of a grammar.  A token that is not immediate may follow blanks. -/
def ofProductions (g : Productions) : Recogniser := Id.run do
  let patterns := g.tokens.toList.map (·.spec.pattern)
  let alphabet := Alphabet.ofSets ((g.blanks :: patterns).flatMap Pattern.sets)
  let mut nodes := #[]
  let mut tokenOf := #[]
  let mut starts := #[]
  for i in [0:g.tokens.size] do
    let spec := (g.tokens.getD i default).spec
    let finish := nodes.size
    nodes := nodes.push (.done i spec.precedence)
    let (ns, start) := addPattern alphabet spec.precedence false spec.pattern nodes finish
    let (ns, start) :=
      if spec.immediate then (ns, start)
      else addPattern alphabet 0 true (.star g.blanks) ns start
    nodes := ns
    starts := starts.push start
    tokenOf := tokenOf ++ Array.replicate (nodes.size - tokenOf.size) i
  return { nodes, tokenOf, starts, weights := g.tokens.map (·.spec.formWeight), alphabet }

/-- All nodes reached from the given ones without reading, in increasing order. -/
def settle (r : Recogniser) (from_ : Array Nat) : Array Nat := Id.run do
  let mut out : Array Nat := #[]
  let mut seen : Array Nat := #[]
  let mut work := from_.reverse
  for _ in [0:r.nodes.size * 2 + from_.size + 1] do
    let some n := work.back? | break
    work := work.pop
    unless seen.contains n do
      seen := seen.push n
      match r.nodes.getD n default with
      | .either a b => work := (work.push b).push a
      | _ => out := out.push n
  return out.insertionSort (· < ·)

/-- A way on from a set of nodes: the classes that take it, where it leads, the highest precedence
among its reads, and whether all of them read blanks. -/
structure Way where
  classes : Nat
  targets : Array Nat
  precedence : Int
  blank : Bool
deriving Inhabited

/-- The tokens that end at settled nodes. -/
def endings (r : Recogniser) (nodes : Array Nat) : Array (Nat × Int) :=
  nodes.filterMap fun n => match r.nodes.getD n default with
    | .done t p => some (t, p)
    | _ => none

/-- Whether some settled node reads blanks. -/
def readsBlank (r : Recogniser) (nodes : Array Nat) : Bool :=
  nodes.any fun n => match r.nodes.getD n default with
    | .read _ _ _ blank => blank
    | _ => false

/-- Inserts a number into an increasing array. -/
def insertSorted (a : Array Nat) (n : Nat) : Array Nat :=
  if a.contains n then a else (a.push n).insertionSort (· < ·)

/-- The ways on from settled nodes; no two share a class. -/
def ways (r : Recogniser) (nodes : Array Nat) : Array Way :=
  nodes.foldl (fun out n =>
    match r.nodes.getD n default with
    | .read classes next precedence blank =>
      let split := out.foldl (fun (acc : Array Way × Nat) w =>
        let both := w.classes &&& acc.2
        if both = 0 then (acc.1.push w, acc.2)
        else
          let joined : Way :=
            ⟨both, insertSorted w.targets next, max w.precedence precedence, w.blank && blank⟩
          let rest := w.classes ^^^ both
          let acc1 := acc.1.push joined
          (if rest = 0 then acc1 else acc1.push { w with classes := rest }, acc.2 ^^^ both))
        (#[], classes)
      if split.2 = 0 then split.1 else split.1.push ⟨split.2, #[next], precedence, blank⟩
    | _ => out) #[]

/-- Whether the first of two tokens that end at one place, each with its precedence, wins: by
precedence, then by form, then by order. -/
def prefers (r : Recogniser) (a b : Nat × Int) : Bool :=
  if a.2 != b.2 then b.2 < a.2
  else
    let wa := r.weights.getD a.1 0
    let wb := r.weights.getD b.1 0
    if wa != wb then wb < wa else a.1 < b.1

/-- The token that wins among those that end at one place. -/
def winner (r : Recogniser) (es : Array (Nat × Int)) : Option (Nat × Int) :=
  es.foldl (fun best e =>
    match best with
    | none => some e
    | some b => if r.prefers b e then some b else some e) none

/-- Whether reading on is better than ending the given token here. -/
def goesOn (r : Recogniser) (w : Way) (ended : Nat × Int) (readsBlank : Bool) : Bool :=
  if w.precedence < ended.2 then false
  else if w.precedence = ended.2 then
    !w.blank && !(readsBlank && !(w.targets.any fun n => r.tokenOf.getD n 0 = ended.1))
  else true

end Recogniser

/-! ## Competing tokens -/

/-- How one token competes with another. -/
structure Rivalry where
  /-- It ends where the other could be read on, and wins. -/
  winsAsPart : Bool := false
  /-- It can be read on where the other ends, and wins. -/
  readsOn : Bool := false
  /-- It can be read on, past the end of the other, by what may really follow the other. -/
  readsOnFollower : Bool := false
  /-- It ends where blanks are read. -/
  endsInBlanks : Bool := false
  /-- It matches a text that the other matches too, and wins. -/
  winsSameText : Bool := false
  /-- It matches a text that the other does not match. -/
  ownText : Bool := false
deriving BEq, Inhabited

namespace Rivalry

/-- Whether the token can take text from the other. -/
def conflicts (x : Rivalry) : Bool := x.readsOnFollower || x.endsInBlanks || x.winsSameText

/-- Whether the two meet in any way. -/
def overlaps (x : Rivalry) : Bool :=
  x.endsInBlanks || x.winsAsPart || x.winsSameText || x.readsOn

end Rivalry

namespace Recogniser

/-- Compares two tokens, given the classes that may follow each: how the first competes with the
second, and the second with the first. -/
def compare (r : Recogniser) (followers : Array Nat) (i j : Nat) : Rivalry × Rivalry := Id.run do
  let mut mine : Rivalry := {}
  let mut other : Rivalry := {}
  let mut seen : Array (Array Nat) := #[]
  let mut work : Array (Array Nat) := #[#[r.starts.getD i 0, r.starts.getD j 0]]
  for _ in [0:100000] do
    let some set := work.back? | break
    work := work.pop
    let hasI := set.any fun n => r.tokenOf.getD n 0 = i
    let hasJ := set.any fun n => r.tokenOf.getD n 0 = j
    if !hasJ then mine := { mine with ownText := true }
    else if !hasI then other := { other with ownText := true }
    else
      let nodes := r.settle set
      let readsBlank := r.readsBlank nodes
      let mut ended : Option (Nat × Int) := none
      for e in r.endings nodes do
        if readsBlank then
          if e.1 = i then mine := { mine with endsInBlanks := true }
          else other := { other with endsInBlanks := true }
        match ended with
        | none => ended := some e
        | some p =>
          if p.1 != e.1 then
            let best := if r.prefers p e then p else e
            ended := some best
            if best.1 = i then mine := { mine with winsSameText := true }
            else other := { other with winsSameText := true }
      for w in r.ways nodes do
        if let some e := ended then
          let goesToEnded := w.targets.any fun n => r.tokenOf.getD n 0 = e.1
          unless goesToEnded do
            let advanced := if e.1 = i then j else i
            if r.goesOn w e readsBlank then
              let real := (w.classes &&& followers.getD (if advanced = i then j else i) 0) != 0
              if advanced = i then
                mine := { mine with readsOn := true, readsOnFollower := mine.readsOnFollower || real }
              else
                other :=
                  { other with readsOn := true, readsOnFollower := other.readsOnFollower || real }
            else if e.1 = i then mine := { mine with winsAsPart := true }
            else other := { other with winsAsPart := true }
        unless seen.contains w.targets do
          seen := seen.push w.targets
          work := work.push w.targets
  return (mine, other)

/-- The classes with which each token can start, blanks before it included. -/
def startClasses (r : Recogniser) : Array Nat :=
  r.starts.map fun s => (r.ways (r.settle #[s])).foldl (fun m w => m ||| w.classes) 0

/-- How every token competes with every other. -/
def rivalries (r : Recogniser) (followers : Array Nat) : Array (Array Rivalry) := Id.run do
  let n := r.starts.size
  let mut out : Array (Array Rivalry) := Array.replicate n (Array.replicate n {})
  for i in [0:n] do
    for j in [0:i] do
      let (a, b) := r.compare followers i j
      out := out.modify i (·.set! j a)
      out := out.modify j (·.set! i b)
  return out

end Recogniser

end DocSignature.Grammar
