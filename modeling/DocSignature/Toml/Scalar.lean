import DocSignature.Toml.Lexical
import DocSignature.Toml.Value

/-!
# Numbers and moments

Integers have 64 bits with a sign.  Other numbers are kept as they are written, once they are known
not to lie above the largest number of double precision.  Dates and times are kept as they are
written, once they are known to exist.
-/

set_option autoImplicit false

namespace DocSignature.Toml

/-! ## Numbers -/

/-- Reads digits, with single underscores between them. -/
def readMoreDigits? (isDigit : Char → Bool) : List Char → Option (List Char × List Char)
  | [] => some ([], [])
  | ['_'] => none
  | '_' :: d :: rest =>
    if isDigit d then (readMoreDigits? isDigit rest).map fun (ds, rest) => (d :: ds, rest)
    else none
  | c :: rest =>
    if isDigit c then (readMoreDigits? isDigit rest).map fun (ds, rest) => (c :: ds, rest)
    else some ([], c :: rest)

/-- Reads one or more digits, with single underscores between them. -/
def readDigits? (isDigit : Char → Bool) (cs : List Char) : Option (List Char × List Char) :=
  if cs.head?.any isDigit then readMoreDigits? isDigit cs else none

/-- Reads the digits before the point.  No digit follows a leading zero. -/
def readWhole? : List Char → Option (List Char × List Char)
  | '0' :: rest => some (['0'], rest)
  | cs => readDigits? Char.isDigit cs

/-- Reads the digits after the point, if there is one. -/
def readFraction? : List Char → Option (List Char × List Char)
  | '.' :: rest => readDigits? Char.isDigit rest
  | rest => some ([], rest)

/-- Reads a sign, if there is one; it tells whether the sign is a minus. -/
def readSign : List Char → Bool × List Char
  | '-' :: rest => (true, rest)
  | '+' :: rest => (false, rest)
  | rest => (false, rest)

/-- Reads an exponent, if there is one. -/
def readExponent? : List Char → Option (Option Int × List Char)
  | c :: rest =>
    if c = 'e' ∨ c = 'E' then
      let (negative, rest) := readSign rest
      (readDigits? Char.isDigit rest).map fun (ds, rest) =>
        let n : Int := Text.digitsValue ds
        (some (if negative then -n else n), rest)
    else some (none, c :: rest)
  | [] => some (none, [])

/-- Half a unit of the last place above the largest number of double precision. -/
def overflowBound : Nat := Nat.pow 2 1024 - Nat.pow 2 970

/-- Whether `digits` times ten to the power `exponent` is too large for double precision. -/
def overflows (digits : List Char) (exponent : Int) : Bool :=
  let digits := digits.dropWhile (· == '0')
  if digits.isEmpty then false
  else if 400 < digits.length + exponent then true
  else if digits.length + exponent < 0 then false
  else
    let n := Text.digitsValue digits
    if 0 ≤ exponent then overflowBound ≤ n * Nat.pow 10 exponent.toNat
    else overflowBound * Nat.pow 10 (-exponent).toNat ≤ n

/-- The integer with a sign, if it has no more than 64 bits. -/
def integer? (negative : Bool) (n : Nat) : Option Value :=
  if negative then if n ≤ Nat.pow 2 63 then some (.integer (-n)) else none
  else if n < Nat.pow 2 63 then some (.integer n) else none

/-- Reads an integer to a base other than ten. -/
def readBased? (base : Nat) (cs : List Char) : Option (Value × List Char) := do
  let (ds, rest) ← readDigits? (fun c => (Text.hexValue? c).any (· < base)) cs
  return (← integer? false (← Text.readBase? base 0 ds), rest)

/-- Reads a number to base ten. -/
def readDecimal? (negative : Bool) (cs : List Char) : Option (Value × List Char) := do
  let (whole, rest) ← readWhole? cs
  let (fraction, rest) ← readFraction? rest
  let (exponent, rest) ← readExponent? rest
  if fraction.isEmpty && exponent.isNone then
    return (← integer? negative (Text.digitsValue whole), rest)
  else if !negative && overflows (whole ++ fraction) (exponent.getD 0 - fraction.length) then none
  else
    let text := cs.take (cs.length - rest.length)
    return (.real (String.ofList (if negative then '-' :: text else text)), rest)

/-- Reads a number. -/
def readNumber? (cs : List Char) : Option (Value × List Char) :=
  match cs with
  | '0' :: 'x' :: rest => readBased? 16 rest
  | '0' :: 'o' :: rest => readBased? 8 rest
  | '0' :: 'b' :: rest => readBased? 2 rest
  | _ =>
    let (negative, digits) := readSign cs
    match digits with
    | 'i' :: 'n' :: 'f' :: rest => some (.real (if negative then "-inf" else "inf"), rest)
    | 'n' :: 'a' :: 'n' :: rest => some (.real "nan", rest)
    | _ => readDecimal? negative digits

/-! ## Moments -/

/-- Reads two digits that spell a number in a range. -/
def readPair? (low high : Nat) : List Char → Option (Nat × List Char)
  | a :: b :: rest =>
    let n := Text.digitsValue [a, b]
    if a.isDigit ∧ b.isDigit ∧ low ≤ n ∧ n ≤ high then some (n, rest) else none
  | _ => none

/-- Reads a given character. -/
def readMark? (mark : Char) : List Char → Option (List Char)
  | c :: rest => if c = mark then some rest else none
  | [] => none

/-- Whether a year has a day more than others. -/
def isLeapYear (year : Nat) : Bool :=
  year % 4 == 0 && (year % 100 != 0 || year % 400 == 0)

/-- The number of days of a month. -/
def daysIn (year month : Nat) : Nat :=
  if month = 2 then if isLeapYear year then 29 else 28
  else if [4, 6, 9, 11].contains month then 30
  else 31

/-- Reads a date after its year and the mark that follows. -/
def readMonthDay? (year : Nat) (cs : List Char) : Option (List Char) := do
  let (month, rest) ← readPair? 1 12 cs
  let rest ← readMark? '-' rest
  let (_, rest) ← readPair? 1 (daysIn year month) rest
  return rest

/-- Reads a time; a leap second is allowed, and so is any fraction. -/
def readTime? (cs : List Char) : Option (List Char) := do
  let (_, rest) ← readPair? 0 23 cs
  let rest ← readMark? ':' rest
  let (_, rest) ← readPair? 0 59 rest
  let rest ← readMark? ':' rest
  let (_, rest) ← readPair? 0 60 rest
  match rest with
  | '.' :: d :: more => if d.isDigit then some (more.dropWhile Char.isDigit) else none
  | _ => some rest

/-- Reads how far a time is from universal time, if that is said. -/
def readOffset? : List Char → Option (List Char)
  | 'Z' :: rest | 'z' :: rest => some rest
  | c :: rest =>
    if c = '+' ∨ c = '-' then do
      let (_, rest) ← readPair? 0 23 rest
      let rest ← readMark? ':' rest
      let (_, rest) ← readPair? 0 59 rest
      return rest
    else some (c :: rest)
  | [] => some []

/-- Whether a time starts here. -/
def startsTime : List Char → Bool
  | a :: b :: ':' :: _ => a.isDigit && b.isDigit
  | _ => false

/-- Reads the time that may follow a date after a mark or a blank. -/
def readTimeOfDay? : List Char → Option (List Char)
  | c :: rest =>
    if (c = 'T' ∨ c = 't' ∨ c = ' ') ∧ startsTime rest then do readOffset? (← readTime? rest)
    else some (c :: rest)
  | [] => some []

/-- Reads a date or a time; `none` if none starts here, and otherwise what is left. -/
def readMoment? (cs : List Char) : Option (Option (List Char)) :=
  match cs with
  | a :: b :: c :: d :: '-' :: rest =>
    if [a, b, c, d].all Char.isDigit then
      some do readTimeOfDay? (← readMonthDay? (Text.digitsValue [a, b, c, d]) rest)
    else none
  | _ => if startsTime cs then some (readTime? cs) else none

/-- Reads a number or a moment. -/
def readScalarValue? (cs : List Char) : Option (Value × List Char) :=
  match readMoment? cs with
  | some none => none
  | some (some rest) => some (.moment (String.ofList (cs.take (cs.length - rest.length))), rest)
  | none => readNumber? cs

end DocSignature.Toml
