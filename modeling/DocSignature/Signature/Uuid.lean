import DocSignature.Signature.Record
import DocSignature.Text.Digits

/-!
# UUIDs as text

A UUID is written in hyphenated form: thirty-two lower-case hexadecimal digits in groups of eight,
four, four, four and twelve.  It is read in hyphenated, simple, braced and URN form, with digits of
either case.
-/

set_option autoImplicit false

namespace DocSignature.Uuid

/-- The hexadecimal digits of a number, a given count of them, the most significant first. -/
def hexDigits : Nat → Nat → List Char
  | 0, _ => []
  | count + 1, n => hexDigits count (n / 16) ++ [Text.hexDigit (n % 16)]

/-- Puts hyphens between the groups of thirty-two digits. -/
def hyphenate (ds : List Char) : List Char :=
  ds.take 8 ++ '-' :: (ds.drop 8).take 4 ++ '-' :: (ds.drop 12).take 4 ++
    '-' :: (ds.drop 16).take 4 ++ '-' :: ds.drop 20

/-- A UUID in hyphenated form. -/
def toText (id : Uuid) : String :=
  String.ofList (hyphenate (hexDigits 32 id.toNat))

/-- Reads the simple form: thirty-two digits without hyphens. -/
def ofDigits? (cs : List Char) : Option Uuid :=
  if cs.length = 32 then (Text.readBase? 16 0 cs).map (BitVec.ofNat 128) else none

/-- Reads the hyphenated form: thirty-two digits in groups. -/
def ofHyphenated? (cs : List Char) : Option Uuid :=
  if cs.length = 36 ∧ cs[8]? = some '-' ∧ cs[13]? = some '-' ∧ cs[18]? = some '-' ∧
      cs[23]? = some '-' then
    ofDigits? (cs.take 8 ++ (cs.drop 9).take 4 ++ (cs.drop 14).take 4 ++ (cs.drop 19).take 4 ++
      cs.drop 24)
  else none

/-- The start of the URN form, in lower case. -/
def nameMark : List Char := ['u', 'r', 'n', ':', 'u', 'u', 'i', 'd', ':']

/-- Reads a UUID in any of its forms: simple, hyphenated, braced or URN, told by their lengths. -/
def ofChars? (cs : List Char) : Option Uuid :=
  if cs.length = 32 then ofDigits? cs
  else if cs.length = 36 then ofHyphenated? cs
  else if cs.length = 38 ∧ cs.head? = some '\x7b' ∧ cs.getLast? = some '\x7d' then
    ofHyphenated? ((cs.drop 1).take 36)
  else if cs.length = 45 ∧ (cs.take 9).map Char.toLower = nameMark then ofHyphenated? (cs.drop 9)
  else none

/-- Reads a UUID in any of its forms (`parse_str`). -/
def ofText? (s : String) : Option Uuid :=
  ofChars? s.toList

/-- The UUID of version 4 made of 128 random bits (`new_v4`): four bits are set to the version and
two to the variant. -/
def ofRandom (bits : Uuid) : Uuid :=
  (bits &&& ~~~(0xF#128 <<< 76) &&& ~~~(0x3#128 <<< 62)) ||| (0x4#128 <<< 76) ||| (0x2#128 <<< 62)

end DocSignature.Uuid
