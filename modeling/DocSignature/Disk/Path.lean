import DocSignature.Text.Utf8

/-!
# Paths

A path is a row of bytes with slashes between its segments.  Its components leave out empty
segments and dots: `/a//b/./c/` and `/a/b/c` have the same components.  Two dots are a component of
their own and are never resolved.
-/

set_option autoImplicit false

namespace DocSignature

/-- The byte between the segments of a path. -/
def slash : UInt8 := 47

/-- The byte of a dot. -/
def dot : UInt8 := 46

/-- Splits bytes at every slash. -/
def splitSlashes : List UInt8 → List (List UInt8)
  | [] => [[]]
  | b :: rest =>
    if b = slash then [] :: splitSlashes rest
    else
      match splitSlashes rest with
      | [] => [[b]]
      | s :: ss => (b :: s) :: ss

/-- Puts a slash between segments. -/
def joinSlashes : List (List UInt8) → List UInt8
  | [] => []
  | [s] => s
  | s :: ss => s ++ slash :: joinSlashes ss

/-- A path. -/
structure Path where
  bytes : List UInt8
deriving DecidableEq, Inhabited, Repr

/-- A component of a path. -/
inductive Component where
  /-- The root of the file system. -/
  | root
  /-- The directory a relative path starts from, when it is written out. -/
  | current
  /-- The directory above. -/
  | parent
  | name (bytes : List UInt8)
deriving DecidableEq, Inhabited, Repr

/-- The bytes of a component inside a path. -/
def Component.bytes : Component → List UInt8
  | root => [slash]
  | current => [dot]
  | parent => [dot, dot]
  | name bs => bs

/-- The component that a segment stands for; empty segments and dots stand for none. -/
def Component.ofSegment? (s : List UInt8) : Option Component :=
  if s = [] ∨ s = [dot] then none
  else if s = [dot, dot] then some .parent
  else some (.name s)

namespace Path

/-- The path that a text spells. -/
def ofString (s : String) : Path := ⟨Text.utf8Bytes s⟩

/-- A path as it is shown. -/
def display (p : Path) : String := Text.ofUtf8Lossy p.bytes

/-- Whether a path starts at the root. -/
def isAbsolute (p : Path) : Bool := p.bytes.head? == some slash

/-- The segments of a path, empty ones included. -/
def segments (p : Path) : List (List UInt8) := splitSlashes p.bytes

/-- The components of a path. -/
def components (p : Path) : List Component :=
  let rest (ss : List (List UInt8)) := ss.filterMap Component.ofSegment?
  if p.isAbsolute then .root :: rest p.segments
  else
    match p.segments with
    | s :: ss => if s = [dot] then .current :: rest ss else rest (s :: ss)
    | [] => []

/-- A path taken from another one: an absolute path is taken as it is, any other is appended. -/
def join (base p : Path) : Path :=
  if p.isAbsolute then p
  else if base.bytes.getLast?.any (· != slash) then ⟨base.bytes ++ slash :: p.bytes⟩
  else ⟨base.bytes ++ p.bytes⟩

/-- Whether a segment stands for no component. -/
def isTrivial (s : List UInt8) : Bool := s == [] || s == [dot]

/-- Drops the segments at the end that stand for no component. -/
def dropTrivialRight (ss : List (List UInt8)) : List (List UInt8) :=
  (ss.reverse.dropWhile isTrivial).reverse

/-- The path without its last component; the root and the empty path have none. -/
def parent? (p : Path) : Option Path :=
  if p.isAbsolute then
    match dropTrivialRight (p.segments.drop 1) with
    | [] => none
    | ss => some ⟨slash :: joinSlashes (dropTrivialRight ss.dropLast)⟩
  else
    match p.segments with
    | [] => none
    | first :: rest =>
      match dropTrivialRight rest with
      | [] =>
        if first = [] then none else some ⟨[]⟩
      | ss => some ⟨joinSlashes (first :: dropTrivialRight ss.dropLast)⟩

end Path

end DocSignature
