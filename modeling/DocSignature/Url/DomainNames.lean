import DocSignature.Url.Host
import DocSignature.Url.Punycode

/-!
# Domain names outside ASCII

The mapping of domain names that a program without the tables of Unicode uses.  It knows the case
of the common Latin, Greek and Cyrillic letters, the full-width forms and the dots of other scripts,
and takes every other character as it is.  Where a character is written in several ways, such as a
letter and a combining accent, the spellings are not brought together.
-/

set_option autoImplicit false

namespace DocSignature.Url

/-- The lower case of a character as a domain name holds it. -/
def foldChar (c : Char) : List Char :=
  let n := c.toNat
  let shift (k : Nat) := [Char.ofNat (n + k)]
  if n < 128 then [c.toLower]
  else if n = 0xAD ∨ n = 0x200B ∨ n = 0x2060 ∨ n = 0xFEFF then []
  else if 0xC0 ≤ n ∧ n ≤ 0xDE ∧ n ≠ 0xD7 then shift 32
  else if n = 0x130 then ['i', Char.ofNat 0x307]
  else if n = 0x132 ∨ n = 0x133 then ['i', 'j']
  else if n = 0x13F ∨ n = 0x140 then ['l', Char.ofNat 0xB7]
  else if n = 0x149 then [Char.ofNat 0x2BC, 'n']
  else if n = 0x178 then [Char.ofNat 0xFF]
  else if n = 0x17F then ['s']
  else if 0x100 ≤ n ∧ n ≤ 0x137 ∧ n % 2 = 0 then shift 1
  else if 0x139 ≤ n ∧ n ≤ 0x148 ∧ n % 2 = 1 then shift 1
  else if 0x14A ≤ n ∧ n ≤ 0x177 ∧ n % 2 = 0 then shift 1
  else if 0x179 ≤ n ∧ n ≤ 0x17E ∧ n % 2 = 1 then shift 1
  else if n = 0x386 then [Char.ofNat 0x3AC]
  else if 0x388 ≤ n ∧ n ≤ 0x38A then shift 37
  else if n = 0x38C then [Char.ofNat 0x3CC]
  else if n = 0x38E ∨ n = 0x38F then shift 63
  else if 0x391 ≤ n ∧ n ≤ 0x3AB then shift 32
  else if 0x400 ≤ n ∧ n ≤ 0x40F then shift 80
  else if 0x410 ≤ n ∧ n ≤ 0x42F then shift 32
  else if 0xFF01 ≤ n ∧ n ≤ 0xFF5E then [(Char.ofNat (n - 0xFEE0)).toLower]
  else if n = 0x3002 ∨ n = 0xFF0E ∨ n = 0xFF61 then ['.']
  else [c]

/-- Whether a character is a control character outside ASCII. -/
def isLateControl (c : Char) : Bool := 128 ≤ c.toNat && c.toNat < 160

/-- A label in ASCII.  After `xn--` the rest has to be what a label outside ASCII is written as, and
that label has to be in lower case. -/
def asciiLabel? (label : List Char) : Option (List Char) :=
  if label.any isLateControl then none
  else if label.all (·.toNat < 128) then
    if label.take 4 = "xn--".toList then do
      let decoded ← Punycode.decode? (label.drop 4)
      if decoded.all (·.toNat < 128) || decoded.any isLateControl ||
          decoded.flatMap foldChar != decoded || Punycode.encode decoded != label.drop 4 then none
      return label
    else some label
  else some ("xn--".toList ++ Punycode.encode label)

/-- Domain names label by label. -/
instance labelwise : DomainNames where
  toAscii? cs := do
    let labels ← (splitAll (· == '.') (cs.flatMap foldChar)).mapM asciiLabel?
    return ['.'].intercalate labels

end DocSignature.Url
