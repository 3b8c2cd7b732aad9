import DocSignature.Disk.Basic

/-!
# Snapshots

What was seen of some paths at one moment, as a disk.  Paths that were not looked at count as
missing.
-/

set_option autoImplicit false

namespace DocSignature

/-- What was seen of a path. -/
structure Sighting where
  path : Path
  isFile : Bool
  content : Except ReadError (List UInt8)

/-- Sightings as a disk. -/
def Disk.ofSightings (seen : List Sighting) : Disk where
  read p :=
    match seen.find? (·.path == p) with
    | some s => s.content
    | none => .error .notFound
  isFile p := (seen.find? (·.path == p)).any (·.isFile)

/-- The reason behind a number of the operating system. -/
def ReadError.ofCode (code : Nat) (text : String) : ReadError :=
  match code with
  | 2 => .notFound
  | 13 => .permissionDenied
  | 20 => .notADirectory
  | 21 => .isADirectory
  | 36 => .nameTooLong
  | _ => .other (text ++ " (os error " ++ toString code ++ ")")

end DocSignature
