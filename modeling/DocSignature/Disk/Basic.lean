import DocSignature.Disk.Path

/-!
# Disks

A disk answers two questions about a path: what the file there holds, and whether there is a file at
all.  Nothing else of a file system matters to lookups and settings.
-/

set_option autoImplicit false

namespace DocSignature

/-- Why a file cannot be read. -/
inductive ReadError where
  | notFound
  | notADirectory
  | isADirectory
  | nameTooLong
  | permissionDenied
  /-- The path holds a zero byte. -/
  | zeroByte
  /-- The file is not UTF-8. -/
  | notUtf8
  /-- Any other reason, in the words of the operating system. -/
  | other (text : String)
deriving DecidableEq, Inhabited, Repr

/-- The text of an error. -/
def ReadError.message : ReadError → String
  | notFound => "No such file or directory (os error 2)"
  | notADirectory => "Not a directory (os error 20)"
  | isADirectory => "Is a directory (os error 21)"
  | nameTooLong => "File name too long (os error 36)"
  | permissionDenied => "Permission denied (os error 13)"
  | zeroByte => "file name contained an unexpected NUL byte"
  | notUtf8 => "stream did not contain valid UTF-8"
  | other text => text

/-- What can be asked of a file system. -/
structure Disk where
  /-- The bytes of the file at a path. -/
  read : Path → Except ReadError (List UInt8)
  /-- Whether there is a file at a path. -/
  isFile : Path → Bool

/-- The text of the file at a path. -/
def Disk.readText (disk : Disk) (p : Path) : Except ReadError String :=
  match disk.read p with
  | .error e => .error e
  | .ok bytes =>
    match Text.ofUtf8? bytes with
    | some s => .ok s
    | none => .error .notUtf8

end DocSignature
