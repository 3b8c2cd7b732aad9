import DocSignature.Text.Digits
import DocSignature.Text.Utf8

/-!
# Percent-encoding

A byte that may not stand for itself is written as `%` and two hexadecimal digits.  Which bytes
those are depends on the part of the URL; bytes outside ASCII are always among them.
-/

set_option autoImplicit false

namespace DocSignature.Url

/-- The bytes that a part of a URL cannot hold as they are. -/
abbrev EncodeSet := UInt8 → Bool

/-- The byte of an ASCII character. -/
def byteOf (c : Char) : UInt8 := UInt8.ofNat c.toNat

/-- Whether a byte is one of some ASCII characters. -/
def isOneOf (cs : List Char) (b : UInt8) : Bool := cs.any fun c => byteOf c == b

/-- Control characters and everything outside ASCII. -/
def controlSet : EncodeSet := fun b => b < 0x20 || 0x7F ≤ b

/-- What a fragment encodes. -/
def fragmentSet : EncodeSet := fun b => controlSet b || isOneOf [' ', '"', '<', '>', '\x60'] b

/-- What a path encodes. -/
def pathSet : EncodeSet := fun b => fragmentSet b || isOneOf ['#', '?', '\x7b', '\x7d'] b

/-- What a segment of a path taken from the file system encodes. -/
def segmentSet : EncodeSet := fun b => pathSet b || isOneOf ['/', '%', '\\'] b

/-- What a user name or password encodes. -/
def userinfoSet : EncodeSet := fun b =>
  pathSet b || isOneOf ['/', ':', ';', '=', '@', '[', '\\', ']', '^', '|'] b

/-- What a query encodes. -/
def querySet : EncodeSet := fun b => controlSet b || isOneOf [' ', '"', '#', '<', '>'] b

/-- What a query of a special scheme encodes. -/
def specialQuerySet : EncodeSet := fun b => querySet b || b == 39

/-- A byte as it stands in a part of a URL. -/
def encodeByte (set : EncodeSet) (b : UInt8) : List Char :=
  if set b then ['%', Text.upperHexDigit (b.toNat / 16), Text.upperHexDigit (b.toNat % 16)]
  else [Char.ofNat b.toNat]

/-- Bytes as they stand in a part of a URL. -/
def encodeBytes (set : EncodeSet) (bytes : List UInt8) : List Char :=
  bytes.flatMap (encodeByte set)

/-- Characters as they stand in a part of a URL. -/
def encodeChars (set : EncodeSet) (cs : List Char) : List Char :=
  encodeBytes set (Text.utf8Bytes (String.ofList cs))

/-- The byte that two hexadecimal digits spell. -/
def hexByte? (a b : Char) : Option UInt8 := do
  let a ← Text.hexValue? a
  let b ← Text.hexValue? b
  return UInt8.ofNat (a * 16 + b)

/-- The bytes that characters of a URL stand for.  A `%` without two hexadecimal digits after it
stands for itself. -/
def decodeBytes : List Char → List UInt8
  | [] => []
  | '%' :: a :: b :: rest =>
    match hexByte? a b with
    | some byte => byte :: decodeBytes rest
    | none => byteOf '%' :: decodeBytes (a :: b :: rest)
  | c :: rest => Text.utf8Bytes (String.singleton c) ++ decodeBytes rest

end DocSignature.Url
