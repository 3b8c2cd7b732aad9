import DocSignature.Parsing.Scanner

/-!
# Lines, indentation and strings

The scanner of Python keeps the indentations of the open blocks and the delimiters of the open
strings.  From them and the text ahead it finds the ends of logical lines, the starts and ends of
blocks, and the parts of strings.
-/

set_option autoImplicit false

namespace DocSignature.Python

open DocSignature.Grammar DocSignature.Parsing

/-- The tokens of the scanner, by their place in its order. -/
inductive ScannerToken where
  | newline
  | indent
  | dedent
  | stringStart
  | stringContent
  | escapeInterpolation
  | stringEnd
  | comment
  | closeBracket
  | closeParen
  | closeBrace
  | except
deriving BEq, DecidableEq, Repr

/-- The place of a token in the scanner's order. -/
def ScannerToken.place : ScannerToken → Nat
  | .newline => 0
  | .indent => 1
  | .dedent => 2
  | .stringStart => 3
  | .stringContent => 4
  | .escapeInterpolation => 5
  | .stringEnd => 6
  | .comment => 7
  | .closeBracket => 8
  | .closeParen => 9
  | .closeBrace => 10
  | .except => 11

/-- How an open string was begun. -/
structure Delimiter where
  /-- The quote that ends it. -/
  quote : Char
  triple : Bool := false
  /-- Whether backslashes are plain text. -/
  raw : Bool := false
  /-- Whether braces hold expressions. -/
  format : Bool := false
  bytes : Bool := false
deriving BEq, DecidableEq, Inhabited, Repr

/-- What the scanner remembers. -/
structure Layout where
  /-- The indentations of the open blocks, the outermost first. -/
  indents : Array Nat := #[0]
  /-- The open strings, the outermost first. -/
  delimiters : Array Delimiter := #[]
  /-- Whether the string begun last holds expressions. -/
  inFormat : Bool := false
deriving BEq, DecidableEq, Inhabited, Repr

namespace Layout

/-- The memory as it is kept with a token: indentations count modulo 256, at most 255 open strings
are kept, and not more than 1024 entries in all. -/
def save (m : Layout) : Layout :=
  let delimiters := m.delimiters.take 255
  let inner := (m.indents.extract 1 m.indents.size).map (· % 256)
  { m with
    delimiters
    indents := #[0] ++ inner.take (1022 - delimiters.size) }

/-- The memory to go on with.  Before the first token of the scanner only the note on the string begun
last is kept. -/
def restore (last : Layout) : Option Layout → Layout
  | some saved => saved
  | none => { inFormat := last.inFormat }

end Layout

namespace Scan

/-- Where the scanner stands: the start of the token and the next character's place. -/
structure Cursor where
  start : Position
  here : Position

variable (text : Text)

/-- The next character; none at the end of the text. -/
def peek (c : Cursor) : Option Char := text[c.here.index]?

/-- Whether the next character is the given one. -/
def sees (c : Cursor) (ch : Char) : Bool := peek text c == some ch

/-- Whether there is text to go on with: NUL counts as an end here. -/
def hasText (c : Cursor) : Bool :=
  match peek text c with
  | some ch => ch != '\x00'
  | none => false

/-- Takes the next character into the token. -/
def take (c : Cursor) : Cursor := { c with here := text.next c.here }

/-- Passes over the next character; the token starts after it. -/
def skip (c : Cursor) : Cursor :=
  match peek text c with
  | some ch => let p := c.here.after ch; ⟨p, p⟩
  | none => c

/-- Takes the next character if it is one of the given ones. -/
def takeIf (c : Cursor) (chars : List Char) : Cursor :=
  if chars.any (sees text c) then take text c else c

/-- A token from the start of the token to a place. -/
def hit (t : ScannerToken) (c : Cursor) (stop : Position) : Option ScannedText :=
  some ⟨t.place, c.start, stop⟩

/-- What became of looking for the content of a string. -/
inductive ContentResult where
  /-- A token, and whether the string has ended with it. -/
  | found (token : ScannedText) (ended : Bool)
  /-- Nothing can be scanned here. -/
  | nothing
  /-- The text ended; the scanner goes on from there. -/
  | outOfText (c : Cursor)

/-- Content up to a place, if there is any. -/
def contentUpTo (c : Cursor) (stop : Position) (hasContent : Bool) : ContentResult :=
  if hasContent then .found ⟨ScannerToken.stringContent.place, c.start, stop⟩ false else .nothing

/-- Passes over a backslash of a raw string with the quote, backslash or line end after it. -/
def passRawEscape (d : Delimiter) (c : Cursor) : Cursor :=
  let c := takeIf text (take text c) [d.quote, '\\']
  if sees text c '\r' then takeIf text (take text c) ['\n'] else takeIf text c ['\n']

/-- Looks for the content or the end of a string. -/
def content (d : Delimiter) : Nat → Bool → Cursor → ContentResult
  | 0, _, c => .outOfText c
  | fuel + 1, hasContent, c =>
    if !hasText text c then .outOfText c
    else if d.format && (sees text c '\x7b' || sees text c '\x7d') then
      contentUpTo c c.here hasContent
    else if sees text c '\\' then
      if d.raw then content d fuel hasContent (passRawEscape text d c)
      else if d.bytes then
        let next := take text c
        if sees text next 'N' || sees text next 'u' || sees text next 'U' then
          content d fuel true (take text (take text next))
        else contentUpTo c c.here hasContent
      else contentUpTo c c.here hasContent
    else if sees text c d.quote then
      let c1 := take text c
      if d.triple then
        if sees text c1 d.quote then
          let c2 := take text c1
          if sees text c2 d.quote then
            if hasContent then .found ⟨ScannerToken.stringContent.place, c.start, c.here⟩ false
            else .found ⟨ScannerToken.stringEnd.place, c.start, (take text c2).here⟩ true
          else .found ⟨ScannerToken.stringContent.place, c.start, c2.here⟩ false
        else .found ⟨ScannerToken.stringContent.place, c.start, c1.here⟩ false
      else if hasContent then .found ⟨ScannerToken.stringContent.place, c.start, c.here⟩ false
      else .found ⟨ScannerToken.stringEnd.place, c.start, c1.here⟩ true
    else if sees text c '\n' && hasContent && !d.triple then .nothing
    else content d fuel true (take text c)

/-- What lies before the next token: whether a line ended, the indentation of the last line, and the
indentation of the first comment on a line of its own. -/
structure Margin where
  lineEnded : Bool := false
  indent : Nat := 0
  firstComment : Option Nat := none

/-- Passes over the rest of a line. -/
def skipLine : Nat → Cursor → Cursor
  | 0, c => c
  | fuel + 1, c => if hasText text c && !sees text c '\n' then skipLine fuel (skip text c) else c

/-- Passes over blanks, line ends, line continuations and, where lines matter, comments on lines of
their own.  A comment behind other text, or a backslash before anything but a line end, leaves
nothing to scan. -/
def margin (linesMatter : Bool) : Nat → Margin → Cursor → Option (Margin × Cursor)
  | 0, m, c => some (m, c)
  | fuel + 1, m, c =>
    match peek text c with
    | none => some ({ m with lineEnded := true, indent := 0 }, c)
    | some ch =>
      if ch = '\n' then
        margin linesMatter fuel { m with lineEnded := true, indent := 0 } (skip text c)
      else if ch = ' ' then margin linesMatter fuel { m with indent := m.indent + 1 } (skip text c)
      else if ch = '\r' || ch = '\x0c' then
        margin linesMatter fuel { m with indent := 0 } (skip text c)
      else if ch = '\t' then margin linesMatter fuel { m with indent := m.indent + 8 } (skip text c)
      else if ch = '#' && linesMatter then
        if m.lineEnded then
          let c := skip text (skipLine text text.size c)
          margin linesMatter fuel
            { m with indent := 0, firstComment := m.firstComment <|> some m.indent } c
        else none
      else if ch = '\\' then
        let c := skip text c
        let c := if sees text c '\r' then skip text c else c
        if sees text c '\n' || (peek text c).isNone then margin linesMatter fuel m (skip text c)
        else none
      else some (m, c)

/-- The letters before the quote of a string. -/
def stringFlags : Nat → Delimiter → Cursor → Delimiter × Cursor
  | 0, d, c => (d, c)
  | fuel + 1, d, c =>
    match peek text c with
    | some 'f' | some 'F' => stringFlags fuel { d with format := true } (take text c)
    | some 'r' | some 'R' => stringFlags fuel { d with raw := true } (take text c)
    | some 'b' | some 'B' => stringFlags fuel { d with bytes := true } (take text c)
    | some 'u' | some 'U' => stringFlags fuel d (take text c)
    | _ => (d, c)

/-- The start of a string, if there is one. -/
def stringStart (c : Cursor) : Option (Delimiter × Cursor) :=
  let (d, c) := stringFlags text text.size { quote := '\x00' } c
  match peek text c with
  | some '\x60' => some ({ d with quote := '\x60' }, take text c)
  | some ch =>
    if ch = '\'' || ch = '"' then
      let c1 := take text c
      let c2 := take text c1
      if sees text c1 ch && sees text c2 ch then
        some ({ d with quote := ch, triple := true }, take text c2)
      else some ({ d with quote := ch }, c1)
    else none
  | none => none

/-- Looks for the token behind the margin: a change of indentation, the end of a line, or the start of
a string. -/
def afterMargin (valid : ScannerToken → Bool) (errorMode : Bool) (mem : Layout) (mark : Position)
    (m : Margin) (c : Cursor) : Option ScannedText × Layout :=
  let current := mem.indents.back?.getD 0
  let inBrackets := valid .closeBrace || valid .closeParen || valid .closeBracket
  let stringNext := sees text c '"' || sees text c '\'' || sees text c '\x60'
  let commentOutside := match m.firstComment with
    | none => true
    | some i => i < current
  if m.lineEnded && valid .indent && current < m.indent then
    (hit .indent c mark, { mem with indents := mem.indents.push (m.indent % 65536) })
  else if m.lineEnded &&
      (valid .dedent ||
        (!valid .newline && !(valid .stringStart && stringNext) && !inBrackets)) &&
      m.indent < current && !mem.inFormat && commentOutside then
    (hit .dedent c mark, { mem with indents := mem.indents.pop })
  else if m.lineEnded && valid .newline && !errorMode then (hit .newline c mark, mem)
  else if m.firstComment.isNone && valid .stringStart then
    match stringStart text c with
    | some (d, stop) =>
      (hit .stringStart c stop.here,
        { mem with delimiters := mem.delimiters.push d, inFormat := d.format })
    | none => (none, mem)
  else (none, mem)

/-- Looks for any of the valid tokens outside of string content. -/
def outside (valid : ScannerToken → Bool) (errorMode : Bool) (mem : Layout) (c : Cursor) :
    Option ScannedText × Layout :=
  let linesMatter := valid .indent || valid .dedent || valid .newline || valid .except
  match margin text linesMatter (text.size + 2) {} c with
  | none => (none, mem)
  | some (m, c') => afterMargin text valid errorMode mem c.here m c'

/-- Looks for any of the valid tokens.  When all tokens are valid, during error recovery, the inside
of strings is not looked at. -/
def scan (validSet : TokenSet) (at_ : Position) (mem : Layout) : Option ScannedText × Layout :=
  let valid := fun (t : ScannerToken) => validSet.contains t.place
  let errorMode := valid .stringContent && valid .indent
  let c : Cursor := ⟨at_, at_⟩
  match mem.delimiters.back? with
  | none => outside text valid errorMode mem c
  | some d =>
    let brace := if sees text c '\x7b' then some '\x7b'
      else if sees text c '\x7d' then some '\x7d' else none
    match brace, valid .escapeInterpolation && !errorMode && d.format with
    | some b, true =>
      let c1 := take text c
      if sees text c1 b then (hit .escapeInterpolation c (take text c1).here, mem) else (none, mem)
    | _, _ =>
      if valid .stringContent && !errorMode then
        match content text d (text.size + 1) false c with
        | .found t ended =>
          (some t,
            if ended then { mem with delimiters := mem.delimiters.pop, inFormat := false } else mem)
        | .nothing => (none, mem)
        | .outOfText c => outside text valid errorMode mem c
      else outside text valid errorMode mem c

end Scan

/-- The scanner of Python. -/
def scanner : Scanner Layout where
  initial := {}
  restore := Layout.restore
  scan := Scan.scan
  save := Layout.save

end DocSignature.Python
