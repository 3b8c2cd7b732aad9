import DocSignature.Grammar.Pattern
import Std.Data.HashMap

/-!
# The alphabet of a set of patterns

Characters that no pattern tells apart form one class.  Patterns are matched class by class, so the
number of classes and not the number of characters decides how large a lexer becomes.
-/

set_option autoImplicit false

namespace DocSignature.Grammar

/-- The classes of characters. -/
structure Alphabet where
  /-- The first code point of each stretch of characters of one class, in increasing order. -/
  bounds : Array Nat
  /-- The class of each stretch. -/
  classes : Array Nat
  /-- The number of classes. -/
  size : Nat
  /-- The classes of the first 128 code points. -/
  ascii : Array Nat

namespace Alphabet

/-- The last index with a bound at or below `n`, searched between `lo` and `hi`. -/
def search (bounds : Array Nat) (n : Nat) : Nat → Nat → Nat → Nat
  | 0, lo, _ => lo
  | fuel + 1, lo, hi =>
    if hi ≤ lo + 1 then lo
    else
      let mid := (lo + hi) / 2
      if bounds.getD mid 0 ≤ n then search bounds n fuel mid hi else search bounds n fuel lo mid

/-- The class of a code point. -/
def classOf (a : Alphabet) (n : Nat) : Nat :=
  if h : n < a.ascii.size then a.ascii[n]
  else a.classes.getD (search a.bounds n 32 0 a.bounds.size) 0

/-- The alphabet that tells apart just what the given sets tell apart. -/
def ofSets (sets : List CharSet) : Alphabet := Id.run do
  let edges := sets.flatMap fun s => s.ranges.toList.flatMap fun r => [r.1, r.2 + 1]
  let bounds := ((0 :: edges).mergeSort (· ≤ ·)).eraseReps.toArray
  -- A stretch is known by the sets that hold it, one binary digit each.
  let mut holders : Array Nat := Array.replicate bounds.size 0
  let mut digit := 1
  for s in sets do
    let mut at_ := 0
    for (first, last) in s.ranges do
      at_ := search bounds first 32 at_ bounds.size
      for _ in [0:bounds.size] do
        if at_ < bounds.size && bounds.getD at_ 0 ≤ last then
          holders := holders.modify at_ (· + digit)
          at_ := at_ + 1
        else break
    digit := digit * 2
  let mut known : Std.HashMap Nat Nat := {}
  let mut classes := #[]
  for h in holders do
    match known.get? h with
    | some c => classes := classes.push c
    | none =>
      classes := classes.push known.size
      known := known.insert h known.size
  let plain : Alphabet := ⟨bounds, classes, known.size, #[]⟩
  return { plain with ascii := (Array.range 128).map plain.classOf }

/-- The classes of the characters of a set of the alphabet, one binary digit each. -/
def maskOf (a : Alphabet) (s : CharSet) : Nat :=
  s.ranges.foldl (fun mask r =>
    let first := search a.bounds r.1 32 0 a.bounds.size
    let last := search a.bounds r.2 32 0 a.bounds.size
    (Array.range' first (last + 1 - first)).foldl (fun m i => m ||| (1 <<< a.classes.getD i 0)) mask)
    0

end Alphabet

end DocSignature.Grammar
