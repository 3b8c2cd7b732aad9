/-!
# UTF-8

Texts as rows of bytes.  Reading bytes back is strict, or puts the replacement character in place
of every stretch that is not UTF-8.
-/

set_option autoImplicit false

namespace DocSignature.Text

/-- The bytes of a text. -/
def utf8Bytes (s : String) : List UInt8 :=
  s.toUTF8.data.toList

/-- The text of some bytes, if they are UTF-8. -/
def ofUtf8? (bytes : List UInt8) : Option String :=
  String.fromUTF8? ⟨bytes.toArray⟩

/-- The number of bytes that must follow a first byte, with the least and greatest second byte. -/
def followers (b : UInt8) : Option (Nat × UInt8 × UInt8) :=
  if 0xC2 ≤ b ∧ b ≤ 0xDF then some (1, 0x80, 0xBF)
  else if b = 0xE0 then some (2, 0xA0, 0xBF)
  else if b = 0xED then some (2, 0x80, 0x9F)
  else if 0xE1 ≤ b ∧ b ≤ 0xEF then some (2, 0x80, 0xBF)
  else if b = 0xF0 then some (3, 0x90, 0xBF)
  else if 0xF1 ≤ b ∧ b ≤ 0xF3 then some (3, 0x80, 0xBF)
  else if b = 0xF4 then some (3, 0x80, 0x8F)
  else none

/-- How many of the next bytes go on with a character, at most a given number; the first of them
lies between two bounds. -/
def continuation : Nat → UInt8 → UInt8 → List UInt8 → Nat
  | count + 1, lo, hi, b :: rest =>
    if lo ≤ b ∧ b ≤ hi then 1 + continuation count 0x80 0xBF rest else 0
  | _, _, _, _ => 0

/-- The character that a first byte and its followers make. -/
def combine (first : UInt8) (rest : List UInt8) : Char :=
  let lead := match rest.length with
    | 1 => first.toNat % 32
    | 2 => first.toNat % 16
    | _ => first.toNat % 8
  Char.ofNat (rest.foldl (fun n b => n * 64 + b.toNat % 64) lead)

/-- The replacement character. -/
def replacement : Char := Char.ofNat 0xFFFD

/-- The characters of some bytes.  Each longest stretch that begins a character but does not finish
it, and each byte that cannot begin one, gives one replacement character. -/
def charsLossy : List UInt8 → List Char
  | [] => []
  | b :: rest =>
    if b < 0x80 then Char.ofNat b.toNat :: charsLossy rest
    else
      match followers b with
      | none => replacement :: charsLossy rest
      | some (count, lo, hi) =>
        let got := continuation count lo hi rest
        if got = count then combine b (rest.take count) :: charsLossy (rest.drop got)
        else replacement :: charsLossy (rest.drop got)
termination_by bytes => bytes.length
decreasing_by all_goals simp only [List.length_cons, List.length_drop]; omega

/-- The text of some bytes, with replacement characters where they are not UTF-8. -/
def ofUtf8Lossy (bytes : List UInt8) : String :=
  String.ofList (charsLossy bytes)

end DocSignature.Text
