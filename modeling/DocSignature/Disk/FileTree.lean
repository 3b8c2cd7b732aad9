import DocSignature.Disk.Basic

/-!
# File trees

A file tree is a file system held in memory: every directory and file under its names from the root
on.  It is a disk once the directory is known from which relative paths start.
-/

set_option autoImplicit false

namespace DocSignature

/-- What stands at a place of a file tree. -/
inductive Entry where
  | directory
  | file (content : List UInt8)
deriving DecidableEq, Inhabited, Repr

/-- The name of an entry in its directory. -/
abbrev Name := List UInt8

/-- A file system in memory. -/
structure FileTree where
  entries : List (List Name × Entry) := []

namespace FileTree

/-- What stands under some names from the root on; the root is a directory. -/
def entry? (t : FileTree) (names : List Name) : Option Entry :=
  if names = [] then some .directory
  else (t.entries.find? (·.1 == names)).map (·.2)

/-- Puts an entry under some names. -/
def set (t : FileTree) (names : List Name) (e : Entry) : FileTree :=
  ⟨(names, e) :: t.entries.filter (·.1 != names)⟩

/-- The longest name an entry may have. -/
def nameLimit : Nat := 255

/-- The length at which a path is too long. -/
def pathLimit : Nat := 4096

/-- Follows the segments of a path from a place on. -/
def follow (t : FileTree) (here : List Name) : List (List UInt8) → Except ReadError (List Name)
  | [] => .ok here
  | s :: rest =>
    match t.entry? here with
    | none => .error .notFound
    | some (.file _) => .error .notADirectory
    | some .directory =>
      if s = [] ∨ s = [dot] then t.follow here rest
      else if s = [dot, dot] then t.follow here.dropLast rest
      else if nameLimit < s.length then .error .nameTooLong
      else if (t.entry? (here ++ [s])).isSome then t.follow (here ++ [s]) rest
      else .error .notFound

/-- The place that a path leads to; relative paths start from `cwd`. -/
def locate (t : FileTree) (cwd : List Name) (p : Path) : Except ReadError (List Name) :=
  if p.bytes.contains 0 then .error .zeroByte
  else if p.bytes = [] then .error .notFound
  else if pathLimit ≤ p.bytes.length then .error .nameTooLong
  else t.follow (if p.isAbsolute then [] else cwd) p.segments

/-- A file tree as a disk. -/
def disk (t : FileTree) (cwd : List Name) : Disk where
  read p :=
    match t.locate cwd p with
    | .error e => .error e
    | .ok names =>
      match t.entry? names with
      | some (.file content) => .ok content
      | some .directory => .error .isADirectory
      | none => .error .notFound
  isFile p :=
    match t.locate cwd p with
    | .error _ => false
    | .ok names =>
      match t.entry? names with
      | some (.file _) => true
      | _ => false

/-- Makes a directory and those above it; what stands there already stays. -/
def makeDirectories (t : FileTree) (names : List Name) : FileTree :=
  ((List.range (names.length + 1)).map names.take).foldl
    (fun t ns => if (t.entry? ns).isSome then t else t.set ns .directory) t

/-- Writes a file, making the directories above it. -/
def write (t : FileTree) (names : List Name) (content : List UInt8) : FileTree :=
  (t.makeDirectories names.dropLast).set names (.file content)

/-- Removes what stands under some names. -/
def remove (t : FileTree) (names : List Name) : FileTree :=
  ⟨t.entries.filter (·.1 != names)⟩

end FileTree

end DocSignature
