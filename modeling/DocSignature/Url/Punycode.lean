/-!
# Punycode

A label of a domain name that holds characters outside ASCII is written with ASCII characters only:
first the ASCII characters, then, in digits of base thirty-six, where the others go.  `encode`
writes a label and `decode?` reads it back.
-/

set_option autoImplicit false

namespace DocSignature.Url.Punycode

/-- The character of a digit. -/
def digitChar (d : Nat) : Char :=
  if d < 26 then Char.ofNat (97 + d) else Char.ofNat (22 + d)

/-- The least value that is not the last digit at a place. -/
def threshold (place bias : Nat) : Nat :=
  if place ≤ bias then 1 else if bias + 26 ≤ place then 26 else place - bias

/-- A threshold lies between one and twenty-six. -/
theorem threshold_bounds (place bias : Nat) :
    1 ≤ threshold place bias ∧ threshold place bias ≤ 26 := by
  unfold threshold
  split
  · omega
  · split <;> omega

/-- Divides a difference until it is small, counting thirty-six for every division. -/
def shrink (delta count : Nat) : Nat × Nat :=
  if 455 < delta then shrink (delta / 35) (count + 36) else (delta, count)
termination_by delta
decreasing_by exact Nat.div_lt_self (by omega) (by omega)

/-- The bias after a difference, given how many characters are in place. -/
def adapt (delta points : Nat) (first : Bool) : Nat :=
  let start := if first then delta / 700 else delta / 2
  let (rest, count) := shrink (start + start / points) 0
  count + 36 * rest / (rest + 38)

/-- The digits of a difference. -/
def encodeDigits (bias place q : Nat) : List Char :=
  let t := threshold place bias
  if q < t then [digitChar q]
  else digitChar (t + (q - t) % (36 - t)) :: encodeDigits bias (place + 36) ((q - t) / (36 - t))
termination_by q
decreasing_by
  have := threshold_bounds place bias
  calc (q - threshold place bias) / (36 - threshold place bias)
      ≤ q - threshold place bias := Nat.div_le_self _ _
    _ < q := by omega

/-- What is known between two characters. -/
structure Progress where
  out : List Char
  delta : Nat
  bias : Nat
  /-- The number of characters in place. -/
  placed : Nat

/-- Takes note of one character of the label while placing those of one code point. -/
def placeOne (basic point : Nat) (p : Progress) (c : Char) : Progress :=
  if c.toNat < point then { p with delta := p.delta + 1 }
  else if c.toNat = point then
    { out := p.out ++ encodeDigits p.bias 36 p.delta
      delta := 0
      bias := adapt p.delta (p.placed + 1) (p.placed == basic)
      placed := p.placed + 1 }
  else p

/-- Places the characters of each code point, in increasing order. -/
def placeAll (label : List Char) (basic : Nat) : List Nat → Nat → Progress → Progress
  | [], _, p => p
  | point :: points, next, p =>
    let p := { p with delta := p.delta + (point - next) * (p.placed + 1) }
    let p := label.foldl (placeOne basic point) p
    placeAll label basic points (point + 1) { p with delta := p.delta + 1 }

/-- A label in ASCII characters, without the mark that says so. -/
def encode (label : List Char) : List Char :=
  let basic := label.filter fun c => c.toNat < 128
  let points := ((label.filter fun c => 128 ≤ c.toNat).map Char.toNat).mergeSort.eraseDups
  let p := placeAll label basic.length points 128 ⟨[], 0, 72, basic.length⟩
  basic ++ (if basic.isEmpty then [] else ['-']) ++ p.out

/-! ## Reading -/

/-- The value of a digit. -/
def digitValue? (c : Char) : Option Nat :=
  if c.isLower then some (c.toNat - 97)
  else if c.isUpper then some (c.toNat - 65)
  else if c.isDigit then some (c.toNat - 22)
  else none

/-- What is known between two digits. -/
structure Reading where
  /-- The characters found so far, in order. -/
  out : List Char
  /-- The code point of the next character. -/
  point : Nat
  /-- Where the next character goes. -/
  index : Nat
  bias : Nat
  /-- The index before the digits of the next character. -/
  start : Nat
  /-- What the next digit is multiplied by. -/
  weight : Nat
  place : Nat

/-- Puts the next character in its place, which needs a code point that is one. -/
def Reading.insert? (r : Reading) : Option Reading :=
  let count := r.out.length + 1
  let point := r.point + r.index / count
  let index := r.index % count
  if point.isValidChar then
    some
      { out := r.out.take index ++ Char.ofNat point :: r.out.drop index
        point
        index := index + 1
        bias := adapt (r.index - r.start) count (r.start == 0)
        start := index + 1
        weight := 1
        place := 36 }
  else none

/-- Reads digits; the last one has to end a character. -/
def Reading.readDigits? (r : Reading) : List Char → Option (List Char)
  | [] => if r.place = 36 then some r.out else none
  | c :: rest => do
    let d ← digitValue? c
    let t := threshold r.place r.bias
    let index := r.index + d * r.weight
    if d < t then readDigits? (← insert? { r with index }) rest
    else readDigits? { r with index, weight := r.weight * (36 - t), place := r.place + 36 } rest

/-- The label that some ASCII characters stand for, without the mark that says so. -/
def decode? (cs : List Char) : Option (List Char) :=
  let digits := (cs.reverse.takeWhile (· != '-')).reverse
  let basic := cs.take (cs.length - digits.length - 1)
  Reading.readDigits? ⟨basic, 128, 0, 72, 0, 1, 36⟩ digits

end DocSignature.Url.Punycode
