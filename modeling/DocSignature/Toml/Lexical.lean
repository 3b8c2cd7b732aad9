import DocSignature.Text.Digits

/-!
# The small parts of a document

Blanks, comments and line ends, and the texts and keys between them.  Every reader takes the
characters that are left and gives back what it read and what is left then, or nothing if the
document is malformed there.
-/

set_option autoImplicit false

namespace DocSignature.Toml

/-! ## Blanks, comments and line ends -/

/-- Whether a character is a blank inside a line. -/
def isBlank (c : Char) : Bool := c == ' ' || c == '\t'

/-- Leaves out blanks. -/
def skipBlanks (cs : List Char) : List Char := cs.dropWhile isBlank

/-- Whether a character may stand in a line: all but control characters, of which only the tab is
allowed. -/
def isPlain (c : Char) : Bool := c == '\t' || (32 ≤ c.toNat && c.toNat != 127)

/-- Leaves out a comment, if one starts here. -/
def skipComment : List Char → List Char
  | '#' :: rest => rest.dropWhile isPlain
  | rest => rest

/-- Reads a line break. -/
def readBreak? : List Char → Option (List Char)
  | '\n' :: rest => some rest
  | '\r' :: '\n' :: rest => some rest
  | _ => none

/-- Reads the rest of a line that has nothing more to say. -/
def readLineEnd? (cs : List Char) : Option (List Char) :=
  match skipComment (skipBlanks cs) with
  | [] => some []
  | rest => readBreak? rest

/-- Leaves out blanks and line breaks.  The first argument bounds the steps. -/
def skipBlankLines : Nat → List Char → List Char
  | 0, cs => cs
  | fuel + 1, cs =>
    match readBreak? (skipBlanks cs) with
    | some rest => skipBlankLines fuel rest
    | none => skipBlanks cs

/-- Leaves out blanks, comments and line breaks.  The first argument bounds the steps. -/
def skipFiller : Nat → List Char → List Char
  | 0, cs => cs
  | fuel + 1, cs =>
    match readBreak? (skipComment (skipBlanks cs)) with
    | some rest => skipFiller fuel rest
    | none => skipComment (skipBlanks cs)

/-! ## Texts -/

/-- Reads a number of hexadecimal digits as the character they name. -/
def readScalar? (digits : Nat) (cs : List Char) : Option (Char × List Char) := do
  if cs.length < digits then none
  let n ← Text.readBase? 16 0 (cs.take digits)
  if n < 0xD800 ∨ (0xE000 ≤ n ∧ n < 0x110000) then return (Char.ofNat n, cs.drop digits) else none

/-- Reads what follows a backslash. -/
def readEscape? : List Char → Option (Char × List Char)
  | 'b' :: rest => some (Char.ofNat 8, rest)
  | 't' :: rest => some ('\t', rest)
  | 'n' :: rest => some ('\n', rest)
  | 'f' :: rest => some (Char.ofNat 12, rest)
  | 'r' :: rest => some ('\r', rest)
  | '"' :: rest => some ('"', rest)
  | '\\' :: rest => some ('\\', rest)
  | 'u' :: rest => readScalar? 4 rest
  | 'U' :: rest => readScalar? 8 rest
  | _ => none

/-- Reads a text up to its closing quote; `acc` holds the characters read, the last one first.  Only
between double quotes does a backslash escape. -/
def readLine? (quote : Char) : Nat → List Char → List Char → Option (String × List Char)
  | 0, _, _ => none
  | _, _, [] => none
  | fuel + 1, acc, c :: rest =>
    if c = quote then some (String.ofList acc.reverse, rest)
    else if c = '\\' ∧ quote = '"' then
      match readEscape? rest with
      | some (c, rest) => readLine? quote fuel (c :: acc) rest
      | none => none
    else if isPlain c then readLine? quote fuel (c :: acc) rest
    else none

/-- Reads a text of several lines up to its three closing quotes.  One or two quotes that stand
before these, or that others do not follow, belong to the text.  A backslash at the end of a line
leaves out the break and all blanks after it. -/
def readLines? (quote : Char) : Nat → List Char → List Char → Option (String × List Char)
  | 0, _, _ => none
  | _, _, [] => none
  | fuel + 1, acc, c :: rest =>
    if c = quote then
      let run := (c :: rest).takeWhile (· == quote)
      let rest := (c :: rest).dropWhile (· == quote)
      if run.length < 3 then readLines? quote fuel (run ++ acc) rest
      else if run.length ≤ 5 then
        some (String.ofList ((run.drop 3) ++ acc).reverse, rest)
      else none
    else if c = '\\' ∧ quote = '"' then
      match readBreak? (skipBlanks rest) with
      | some rest => readLines? quote fuel acc (skipBlankLines fuel rest)
      | none =>
        match readEscape? rest with
        | some (c, rest) => readLines? quote fuel (c :: acc) rest
        | none => none
    else
      match readBreak? (c :: rest) with
      | some rest => readLines? quote fuel ('\n' :: acc) rest
      | none => if isPlain c then readLines? quote fuel (c :: acc) rest else none

/-- Reads a text between quotes on one line. -/
def readQuoted? : List Char → Option (String × List Char)
  | '"' :: rest => readLine? '"' (rest.length + 1) [] rest
  | '\'' :: rest => readLine? '\'' (rest.length + 1) [] rest
  | _ => none

/-- Reads a text of one or several lines.  A line break right after three opening quotes does not
count. -/
def readText? (cs : List Char) : Option (String × List Char) :=
  let lines (quote : Char) (rest : List Char) :=
    readLines? quote (rest.length + 1) [] ((readBreak? rest).getD rest)
  match cs with
  | '"' :: '"' :: '"' :: rest => lines '"' rest
  | '\'' :: '\'' :: '\'' :: rest => lines '\'' rest
  | _ => readQuoted? cs

/-! ## Keys -/

/-- Whether a character may stand in a name without quotes. -/
def isNameChar (c : Char) : Bool := c.isAlphanum || c == '-' || c == '_'

/-- Reads a name, with or without quotes. -/
def readName? (cs : List Char) : Option (String × List Char) :=
  match cs with
  | '"' :: _ | '\'' :: _ => readQuoted? cs
  | _ =>
    let name := cs.takeWhile isNameChar
    if name.isEmpty then none else some (String.ofList name, cs.dropWhile isNameChar)

/-- Reads names with dots between them.  The first argument bounds their number. -/
def readNames? : Nat → List Char → Option (List String × List Char)
  | 0, _ => none
  | fuel + 1, cs =>
    match readName? (skipBlanks cs) with
    | none => none
    | some (name, rest) =>
      match skipBlanks rest with
      | '.' :: rest => (readNames? fuel rest).map fun (names, rest) => (name :: names, rest)
      | rest => some ([name], rest)

end DocSignature.Toml
