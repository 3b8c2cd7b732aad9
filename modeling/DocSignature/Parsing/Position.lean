/-!
# Positions in a text

A position counts characters, bytes of the UTF-8 form, rows and columns.  Rows end with a line feed
and nothing else; columns count bytes.
-/

set_option autoImplicit false

namespace DocSignature.Parsing

/-- A place in a text. -/
structure Position where
  /-- The number of characters before it. -/
  index : Nat := 0
  /-- The number of bytes before it. -/
  byte : Nat := 0
  /-- The number of line feeds before it. -/
  row : Nat := 0
  /-- The number of bytes between it and the last line feed. -/
  column : Nat := 0
deriving BEq, DecidableEq, Inhabited, Repr

namespace Position

/-- The place after a character. -/
def after (p : Position) (c : Char) : Position :=
  if c = '\n' then ⟨p.index + 1, p.byte + 1, p.row + 1, 0⟩
  else ⟨p.index + 1, p.byte + c.utf8Size, p.row, p.column + c.utf8Size⟩

end Position

/-- A text as an array of characters. -/
abbrev Text := Array Char

/-- The place one character on; the end of the text stays where it is. -/
def Text.next (text : Text) (p : Position) : Position :=
  match text[p.index]? with
  | some c => p.after c
  | none => p

end DocSignature.Parsing
