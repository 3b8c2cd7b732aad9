import DocSignature.Disk.Path
import DocSignature.Url.Parser

/-!
# File URLs and paths

An absolute path becomes a file URL component by component, without resolving `..`.  The way back
takes the segments of the URL's path apart; it works for any URL without a host of its own.
-/

set_option autoImplicit false

namespace DocSignature.Url

/-- The file URL of an absolute path (`from_file_path`). -/
def ofFilePath? (p : Path) : Option Url :=
  if p.isAbsolute then
    let segments := (p.components.drop 1).map fun c => encodeBytes segmentSet c.bytes
    some { scheme := "file"
           authority := some {}
           path := String.ofList ('/' :: ['/'].intercalate segments) }
  else none

/-- Whether two bytes are a drive letter and its mark. -/
def isDrive (letter mark : UInt8) : Bool :=
  isDriveLetter [Char.ofNat letter.toNat, Char.ofNat mark.toNat]

/-- Whether a drive letter and its mark end some bytes that are more than that. -/
def endsInDrive (bytes : List UInt8) : Bool :=
  match bytes.reverse with
  | mark :: letter :: _ :: _ => isDrive letter mark
  | _ => false

/-- The path that a URL names (`to_file_path`).  It has none if its path has no structure or it has
a host other than `localhost`.  A letter and a colon or a bar at the end get a slash, as a drive
does. -/
def toFilePath? (u : Url) : Option Path :=
  let host := (u.authority.map (·.host)).getD ""
  match u.path.toList with
  | '/' :: rest =>
    if host = "" ∨ host = "localhost" then
      let bytes := (splitAll (· == '/') rest).flatMap fun s => slash :: decodeBytes s
      some ⟨if endsInDrive bytes then bytes ++ [slash] else bytes⟩
    else none
  | _ => none

end DocSignature.Url
