import DocSignature.Url.Percent

/-!
# Hosts

The host of a URL is a domain name or an address, always kept in one spelling: domain names in
lower-case ASCII, addresses of four numbers in decimal, addresses of eight groups with the longest
run of zeros left out.  How a name that is not in ASCII is spelled depends on tables of Unicode,
which are a parameter (`DomainNames`).
-/

set_option autoImplicit false

namespace DocSignature.Url

/-- Splits a list at every occurrence of a separator. -/
def splitAll {α : Type} (isSeparator : α → Bool) : List α → List (List α)
  | [] => [[]]
  | x :: xs =>
    if isSeparator x then [] :: splitAll isSeparator xs
    else
      match splitAll isSeparator xs with
      | [] => [[x]]
      | s :: ss => (x :: s) :: ss

/-! ## Addresses of four numbers -/

/-- Reads a part of an address: decimal, octal after a zero, hexadecimal after `0x`. -/
def addressPart? : List Char → Option Nat
  | [] => none
  | '0' :: 'x' :: rest | '0' :: 'X' :: rest => Text.readBase? 16 0 rest
  | '0' :: d :: rest => Text.readBase? 8 0 (d :: rest)
  | cs => Text.readBase? 10 0 cs

/-- Drops an empty part at the end. -/
def dropEmptyLast (parts : List (List Char)) : List (List Char) :=
  if parts.getLast? = some [] then parts.dropLast else parts

/-- Whether the last part of a name is a number, so that the name has to be an address. -/
def endsInNumber (host : List Char) : Bool :=
  match (dropEmptyLast (splitAll (· == '.') host)).getLast? with
  | some last => !last.isEmpty && (last.all Char.isDigit || (addressPart? last).isSome)
  | none => false

/-- Reads an address of up to four numbers. -/
def address4? (host : List Char) : Option Nat := do
  let parts := dropEmptyLast (splitAll (· == '.') host)
  if 4 < parts.length then none
  let numbers ← parts.mapM addressPart?
  let last ← numbers.getLast?
  let init := numbers.dropLast
  if init.any (255 < ·) || Nat.pow 256 (4 - init.length) ≤ last then none
  return (List.range init.length).foldl
    (fun n i => n + init.getD i 0 * Nat.pow 256 (3 - i)) last

/-- The text of an address of four numbers. -/
def address4Text (n : Nat) : String :=
  ".".intercalate ([n / 16777216, n / 65536 % 256, n / 256 % 256, n % 256].map toString)

/-! ## Addresses of eight groups -/

/-- Reads a group of an address. -/
def group? (cs : List Char) : Option Nat :=
  if cs.isEmpty || 4 < cs.length then none else Text.readBase? 16 0 cs

/-- Reads a number of the four that may end an address of groups. -/
def decimalByte? (cs : List Char) : Option Nat := do
  if cs.isEmpty || 3 < cs.length || (cs.head? == some '0' && 1 < cs.length) then none
  let n ← Text.readBase? 10 0 cs
  if 255 < n then none else return n

/-- Reads the groups between colons; the last may be an address of four numbers. -/
def groups? (cs : List Char) (mayEnd : Bool) : Option (List Nat) :=
  if cs.isEmpty then some []
  else
    let parts := splitAll (· == ':') cs
    match parts.getLast? with
    | none => none
    | some last =>
      if mayEnd && last.contains '.' then do
        let init ← parts.dropLast.mapM group?
        match ← (splitAll (· == '.') last).mapM decimalByte? with
        | [a, b, c, d] => return init ++ [a * 256 + b, c * 256 + d]
        | _ => none
      else parts.mapM group?

/-- Splits at the first two colons in a row. -/
def splitDoubleColon : List Char → Option (List Char × List Char)
  | ':' :: ':' :: rest => some ([], rest)
  | c :: rest => (splitDoubleColon rest).map fun (a, b) => (c :: a, b)
  | [] => none

/-- Reads an address of eight groups. -/
def address6? (cs : List Char) : Option (List Nat) :=
  match splitDoubleColon cs with
  | none => do
    let gs ← groups? cs true
    if gs.length = 8 then return gs else none
  | some (left, right) => do
    let a ← groups? left false
    let b ← groups? right true
    if 7 < a.length + b.length then none
    return a ++ List.replicate (8 - a.length - b.length) 0 ++ b

/-- The start and length of the first longest run of zeros. -/
def longestZeros (gs : List Nat) : Nat × Nat :=
  (List.range gs.length).foldl (fun (best : Nat × Nat) i =>
    let run := ((gs.drop i).takeWhile (· == 0)).length
    if best.2 < run then (i, run) else best) (0, 0)

/-- The hexadecimal digits of a number without leading zeros. -/
def hexText (n : Nat) : String := String.ofList (Nat.toDigits 16 n)

/-- The text of an address of eight groups. -/
def address6Text (gs : List Nat) : String :=
  let (start, run) := longestZeros gs
  let text (gs : List Nat) := ":".intercalate (gs.map hexText)
  "[" ++ (if run < 2 then text gs
    else text (gs.take start) ++ "::" ++ text (gs.drop (start + run))) ++ "]"

/-! ## Names -/

/-- Whether a character may not stand in a host. -/
def isForbiddenInHost (c : Char) : Bool :=
  [Char.ofNat 0, '\t', '\n', '\r', ' ', '#', '/', ':', '<', '>', '?', '@', '[', '\\', ']', '^',
    '|'].contains c

/-- Whether a character may not stand in a domain name. -/
def isForbiddenInDomain (c : Char) : Bool :=
  isForbiddenInHost c || c.toNat < 32 || c == '%' || c.toNat == 127

/-- Whether a name is in ASCII and no label of it starts with `xn--`, so that lower case is all it
takes to spell it. -/
def isPlainName (cs : List Char) : Bool :=
  cs.all (·.toNat < 128) &&
    (splitAll (· == '.') cs).all fun label => (label.take 4).map Char.toLower != "xn--".toList

/-- What the reading of URLs takes from the tables of Unicode: the mapping of domain names to ASCII
that UTS #46 lays down (`domain_to_ascii`).  It is asked for names that are not plain, and `none`
says that such a name is in error. -/
class DomainNames where
  toAscii? : List Char → Option (List Char)

/-- A domain name in lower-case ASCII. -/
def domain? [DomainNames] (cs : List Char) : Option (List Char) := do
  let ascii ← if isPlainName cs then some (cs.map Char.toLower) else DomainNames.toAscii? cs
  if ascii.any isForbiddenInDomain then none else return ascii

/-- The host between the brackets of an address of groups. -/
def bracketed? (cs : List Char) : Option String :=
  if cs.getLast? = some ']' then (address6? (cs.drop 1).dropLast).map address6Text else none

/-- The host of a URL with a special scheme. -/
def host? [DomainNames] (cs : List Char) : Option String :=
  if cs.head? = some '[' then bracketed? cs
  else do
    let decoded ← Text.ofUtf8? (decodeBytes cs)
    let domain ← domain? decoded.toList
    if domain.isEmpty then none
    if endsInNumber domain then (address4? domain).map address4Text
    else return String.ofList domain

/-- The host of a URL with any other scheme. -/
def opaqueHost? (cs : List Char) : Option String :=
  if cs.head? = some '[' then bracketed? cs
  else if cs.any isForbiddenInHost then none
  else some (String.ofList (encodeChars controlSet cs))

end DocSignature.Url
