import DocSignature.Json.Value
import DocSignature.Text.Digits

/-!
# JSON as text

`Json.compact` writes a value without blanks, `Json.pretty` with one member to a line, and
`Json.parse?` reads both and any other spelling of a value.
-/

set_option autoImplicit false

namespace DocSignature.Json

/-! ## Writing -/

/-- A character as it stands in a string.  Quotes, backslashes and control characters are
escaped. -/
def escapeChar (c : Char) : List Char :=
  if c = '"' then ['\\', '"']
  else if c = '\\' then ['\\', '\\']
  else if c.toNat = 8 then ['\\', 'b']
  else if c.toNat = 9 then ['\\', 't']
  else if c.toNat = 10 then ['\\', 'n']
  else if c.toNat = 12 then ['\\', 'f']
  else if c.toNat = 13 then ['\\', 'r']
  else if c.toNat < 32 then ['\\', 'u', '0', '0', Text.hexDigit (c.toNat / 16), Text.hexDigit (c.toNat % 16)]
  else [c]

/-- A text between quotes. -/
def quote (s : String) : String :=
  "\"" ++ String.ofList (s.toList.flatMap escapeChar) ++ "\""

mutual

/-- Appends a value without blanks. -/
def writeCompact (out : String) : Json → String
  | .null => out ++ "null"
  | .bool true => out ++ "true"
  | .bool false => out ++ "false"
  | .integer n => out ++ toString n
  | .real text => out ++ text
  | .string s => out ++ quote s
  | .array items => writeItems (out ++ "[") true items ++ "]"
  | .object members => writeMembers (out ++ "\x7b") true members ++ "\x7d"

/-- Appends the items of an array. -/
def writeItems (out : String) (first : Bool) : List Json → String
  | [] => out
  | v :: vs => writeItems (writeCompact (if first then out else out ++ ",") v) false vs

/-- Appends the members of an object. -/
def writeMembers (out : String) (first : Bool) : List (String × Json) → String
  | [] => out
  | (k, v) :: ms =>
    writeMembers (writeCompact ((if first then out else out ++ ",") ++ quote k ++ ":") v) false ms

end

/-- A value without blanks. -/
def compact (v : Json) : String :=
  writeCompact "" v

/-- The start of a line at a depth: two blanks for each level. -/
def lineStart (depth : Nat) : String :=
  "\n" ++ "".pushn ' ' (2 * depth)

mutual

/-- Appends a value with one member to a line. -/
def writePretty (out : String) (depth : Nat) : Json → String
  | .null => out ++ "null"
  | .bool true => out ++ "true"
  | .bool false => out ++ "false"
  | .integer n => out ++ toString n
  | .real text => out ++ text
  | .string s => out ++ quote s
  | .array [] => out ++ "[]"
  | .array (v :: vs) =>
    prettyItems (out ++ "[") (depth + 1) true (v :: vs) ++ lineStart depth ++ "]"
  | .object [] => out ++ "\x7b\x7d"
  | .object (m :: ms) =>
    prettyMembers (out ++ "\x7b") (depth + 1) true (m :: ms) ++ lineStart depth ++ "\x7d"

/-- Appends the items of an array, one to a line. -/
def prettyItems (out : String) (depth : Nat) (first : Bool) : List Json → String
  | [] => out
  | v :: vs =>
    prettyItems (writePretty ((if first then out else out ++ ",") ++ lineStart depth) depth v)
      depth false vs

/-- Appends the members of an object, one to a line. -/
def prettyMembers (out : String) (depth : Nat) (first : Bool) : List (String × Json) → String
  | [] => out
  | (k, v) :: ms =>
    prettyMembers
      (writePretty ((if first then out else out ++ ",") ++ lineStart depth ++ quote k ++ ": ")
        depth v) depth false ms

end

/-- A value with one member to a line and two blanks for each level. -/
def pretty (v : Json) : String :=
  writePretty "" 0 v

/-! ## Reading -/

/-- Whether a character may stand between the parts of a value. -/
def isSpace (c : Char) : Bool :=
  c == ' ' || c == '\n' || c == '\r' || c == '\t'

/-- Leaves out blanks. -/
def skipSpace (cs : List Char) : List Char :=
  cs.dropWhile isSpace

/-- Reads four hexadecimal digits. -/
def readUnit? : List Char → Option (Nat × List Char)
  | a :: b :: c :: d :: rest => do
    let a ← Text.hexValue? a
    let b ← Text.hexValue? b
    let c ← Text.hexValue? c
    let d ← Text.hexValue? d
    return (((a * 16 + b) * 16 + c) * 16 + d, rest)
  | _ => none

/-- Reads what follows a backslash. -/
def readEscape? : List Char → Option (Char × List Char)
  | '"' :: rest => some ('"', rest)
  | '\\' :: rest => some ('\\', rest)
  | '/' :: rest => some ('/', rest)
  | 'b' :: rest => some (Char.ofNat 8, rest)
  | 'f' :: rest => some (Char.ofNat 12, rest)
  | 'n' :: rest => some ('\n', rest)
  | 'r' :: rest => some ('\r', rest)
  | 't' :: rest => some ('\t', rest)
  | 'u' :: rest => do
    let (high, rest) ← readUnit? rest
    if 0xD800 ≤ high ∧ high < 0xDC00 then
      match rest with
      | '\\' :: 'u' :: rest =>
        let (low, rest) ← readUnit? rest
        if 0xDC00 ≤ low ∧ low < 0xE000 then
          return (Char.ofNat (0x10000 + (high - 0xD800) * 0x400 + (low - 0xDC00)), rest)
        else none
      | _ => none
    else if 0xDC00 ≤ high ∧ high < 0xE000 then none
    else return (Char.ofNat high, rest)
  | _ => none

/-- Reads the characters of a string up to its closing quote; `acc` holds those read, the last one
first. -/
def readString? : Nat → List Char → List Char → Option (String × List Char)
  | 0, _, _ => none
  | _, _, [] => none
  | fuel + 1, acc, c :: rest =>
    if c = '"' then some (String.ofList acc.reverse, rest)
    else if c = '\\' then
      match readEscape? rest with
      | some (c, rest) => readString? fuel (c :: acc) rest
      | none => none
    else if c.toNat < 32 then none
    else readString? fuel (c :: acc) rest

/-- Reads one or more digits. -/
def readDigits? (cs : List Char) : Option (List Char × List Char) :=
  let ds := cs.takeWhile Char.isDigit
  if ds.isEmpty then none else some (ds, cs.dropWhile Char.isDigit)

/-- Reads the fraction of a number, if there is one. -/
def readFraction? : List Char → Option (List Char × List Char)
  | '.' :: rest => (readDigits? rest).map fun (ds, rest) => ('.' :: ds, rest)
  | rest => some ([], rest)

/-- Reads the exponent of a number, if there is one. -/
def readExponent? (cs : List Char) : Option (List Char × List Char) :=
  let digits (mark : List Char) (rest : List Char) :=
    (readDigits? rest).map fun (ds, rest) => (mark ++ ds, rest)
  match cs with
  | e :: '+' :: rest => if e = 'e' ∨ e = 'E' then digits [e, '+'] rest else some ([], cs)
  | e :: '-' :: rest => if e = 'e' ∨ e = 'E' then digits [e, '-'] rest else some ([], cs)
  | e :: rest => if e = 'e' ∨ e = 'E' then digits [e] rest else some ([], cs)
  | [] => some ([], [])

/-- Reads a number.  No digit may follow a leading zero. -/
def readNumber? (cs : List Char) : Option (Json × List Char) := do
  let (sign, cs) := match cs with
    | '-' :: rest => (['-'], rest)
    | _ => ([], cs)
  let (whole, rest) ← readDigits? cs
  if whole.head? == some '0' && 1 < whole.length then none
  let (fraction, rest) ← readFraction? rest
  let (exponent, rest) ← readExponent? rest
  let n := Text.digitsValue whole
  let text := String.ofList (sign ++ whole ++ fraction ++ exponent)
  if !fraction.isEmpty || !exponent.isEmpty then return (.real text, rest)
  else if sign.isEmpty then
    return (if n < Nat.pow 2 64 then .integer n else .real text, rest)
  else
    return (if 0 < n ∧ n ≤ Nat.pow 2 63 then .integer (-n) else .real text, rest)

/-- Reads a given word. -/
def readWord? (word : List Char) (value : Json) (cs : List Char) : Option (Json × List Char) :=
  if word.isPrefixOf cs then some (value, cs.drop word.length) else none

mutual

/-- Reads a value that starts with the first character; `depth` bounds how deep arrays and objects
may stand in each other. -/
def readValue? : Nat → Nat → List Char → Option (Json × List Char)
  | 0, _, _ => none
  | fuel + 1, depth, cs =>
    match cs with
    | 'n' :: _ => readWord? ['n', 'u', 'l', 'l'] .null cs
    | 't' :: _ => readWord? ['t', 'r', 'u', 'e'] (.bool true) cs
    | 'f' :: _ => readWord? ['f', 'a', 'l', 's', 'e'] (.bool false) cs
    | '"' :: rest => (readString? (fuel + 1) [] rest).map fun (s, rest) => (.string s, rest)
    | '[' :: rest =>
      if depth = 0 then none
      else
        match skipSpace rest with
        | ']' :: rest => some (.array [], rest)
        | rest => readItems? fuel (depth - 1) [] rest
    | '\x7b' :: rest =>
      if depth = 0 then none
      else
        match skipSpace rest with
        | '\x7d' :: rest => some (.object [], rest)
        | rest => readMembers? fuel (depth - 1) [] rest
    | _ => readNumber? cs

/-- Reads the items of an array from one on; `acc` holds those read, the last one first. -/
def readItems? : Nat → Nat → List Json → List Char → Option (Json × List Char)
  | 0, _, _, _ => none
  | fuel + 1, depth, acc, cs =>
    match readValue? fuel depth cs with
    | none => none
    | some (v, rest) =>
      match skipSpace rest with
      | ',' :: rest => readItems? fuel depth (v :: acc) (skipSpace rest)
      | ']' :: rest => some (.array (v :: acc).reverse, rest)
      | _ => none

/-- Reads the members of an object from one on; `acc` holds those read, the last one first. -/
def readMembers? : Nat → Nat → List (String × Json) → List Char → Option (Json × List Char)
  | 0, _, _, _ => none
  | fuel + 1, depth, acc, cs =>
    match cs with
    | '"' :: rest =>
      match readString? (fuel + 1) [] rest with
      | none => none
      | some (k, rest) =>
        match skipSpace rest with
        | ':' :: rest =>
          match readValue? fuel depth (skipSpace rest) with
          | none => none
          | some (v, rest) =>
            match skipSpace rest with
            | ',' :: rest => readMembers? fuel depth ((k, v) :: acc) (skipSpace rest)
            | '\x7d' :: rest => some (.object ((k, v) :: acc).reverse, rest)
            | _ => none
        | _ => none
    | _ => none

end

/-- How deep arrays and objects may stand in each other. -/
def depthLimit : Nat := 127

/-- The value that a text spells, arrays and objects standing in each other at most `depth`
deep. -/
def parseWithin? (depth : Nat) (text : String) : Option Json :=
  let cs := text.toList
  match readValue? (2 * cs.length + 2) depth (skipSpace cs) with
  | some (v, rest) => if (skipSpace rest).isEmpty then some v else none
  | none => none

/-- The value that a text spells. -/
def parse? (text : String) : Option Json :=
  parseWithin? depthLimit text

end DocSignature.Json
