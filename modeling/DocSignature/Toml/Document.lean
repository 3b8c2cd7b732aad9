import DocSignature.Toml.Scalar

/-!
# TOML documents

A document is read in two steps: into sections, each a header and the pairs below it, and then the
sections are put into one table.
-/

set_option autoImplicit false

namespace DocSignature.Toml

/-! ## Values -/

/-- A key has fewer names than this, and arrays and tables stand in each other less deep. -/
def depthLimit : Nat := 80

/-- Reads a key. -/
def readKey? (cs : List Char) : Option (Key × List Char) :=
  match readNames? (depthLimit - 1) cs with
  | none => none
  | some (names, rest) => names.getLast?.map fun last => (⟨names.dropLast, last⟩, rest)

/-- Reads a given word. -/
def readWord? (word : List Char) (value : Value) (cs : List Char) : Option (Value × List Char) :=
  if word.isPrefixOf cs then some (value, cs.drop word.length) else none

mutual

/-- Reads a value.  The first argument bounds the steps, the second how deep arrays and tables may
stand in each other. -/
def readValue? : Nat → Nat → List Char → Option (Value × List Char)
  | 0, _, _ => none
  | fuel + 1, depth, cs =>
    match cs with
    | '"' :: _ | '\'' :: _ => (readText? cs).map fun (s, rest) => (.string s, rest)
    | '[' :: rest => if depth = 0 then none else readItems? fuel (depth - 1) [] rest
    | '\x7b' :: rest =>
      if depth = 0 then none
      else
        match skipBlanks rest with
        | '\x7d' :: rest => some (.table .braces [], rest)
        | rest => readPairs? fuel (depth - 1) [] rest
    | 't' :: _ => readWord? ['t', 'r', 'u', 'e'] (.boolean true) cs
    | 'f' :: _ => readWord? ['f', 'a', 'l', 's', 'e'] (.boolean false) cs
    | _ => readScalarValue? cs

/-- Reads the items of an array from one on; `acc` holds those read, the last one first. -/
def readItems? : Nat → Nat → List Value → List Char → Option (Value × List Char)
  | 0, _, _, _ => none
  | fuel + 1, depth, acc, cs =>
    match skipFiller (cs.length + 1) cs with
    | ']' :: rest => some (.array acc.reverse, rest)
    | cs =>
      match readValue? fuel depth cs with
      | none => none
      | some (v, rest) =>
        match skipFiller (rest.length + 1) rest with
        | ',' :: rest => readItems? fuel depth (v :: acc) rest
        | ']' :: rest => some (.array (v :: acc).reverse, rest)
        | _ => none

/-- Reads the pairs of a table between braces from one on; `members` holds those read. -/
def readPairs? : Nat → Nat → Members → List Char → Option (Value × List Char)
  | 0, _, _, _ => none
  | fuel + 1, depth, members, cs =>
    match readKey? cs with
    | some (key, '=' :: rest) =>
      match readValue? fuel depth (skipBlanks rest) with
      | none => none
      | some (v, rest) =>
        match members.add key v with
        | none => none
        | some members =>
          match skipBlanks rest with
          | ',' :: rest => readPairs? fuel depth members rest
          | '\x7d' :: rest => some (.table .braces members, rest)
          | _ => none
    | _ => none

end

/-- Reads a key and its value. -/
def readPair (cs : List Char) : Option ((Key × Value) × List Char) :=
  match readKey? cs with
  | some (key, '=' :: rest) =>
    (readValue? (2 * rest.length + 2) (depthLimit - 1) (skipBlanks rest)).map
      fun (v, rest) => ((key, v), rest)
  | _ => none

/-! ## Sections -/

/-- What stands at the head of a section. -/
inductive Header where
  /-- Nothing: the section is the start of the document. -/
  | start
  /-- The one header of a table. -/
  | table (key : Key)
  /-- One of the headers of several tables. -/
  | row (key : Key)
deriving DecidableEq, Inhabited, Repr

/-- A part of a document: a header and the pairs below it. -/
structure Section where
  header : Header := .start
  pairs : List (Key × Value) := []

/-- Reads a header. -/
def readHeader? : List Char → Option (Header × List Char)
  | '[' :: '[' :: rest =>
    match readKey? rest with
    | some (key, ']' :: ']' :: rest) => some (.row key, rest)
    | _ => none
  | '[' :: rest =>
    match readKey? rest with
    | some (key, ']' :: rest) => some (.table key, rest)
    | _ => none
  | _ => none

/-- Reads lines of a document; `done` holds the sections before the present one and `here` the
present one, both with what was read last at the front. -/
def readSections? : Nat → List Section → Section → List Char → Option (List Section)
  | 0, _, _, _ => none
  | fuel + 1, done, here, cs =>
    match skipBlanks cs with
    | [] => some ({ here with pairs := here.pairs.reverse } :: done).reverse
    | c :: rest =>
      if c = '[' then
        match readHeader? (c :: rest) with
        | none => none
        | some (header, rest) =>
          match readLineEnd? rest with
          | none => none
          | some rest =>
            readSections? fuel ({ here with pairs := here.pairs.reverse } :: done) { header } rest
      else if c = '#' ∨ c = '\n' ∨ c = '\r' then
        match readLineEnd? (c :: rest) with
        | none => none
        | some rest => readSections? fuel done here rest
      else
        match readPair (c :: rest) with
        | none => none
        | some (pair, rest) =>
          match readLineEnd? rest with
          | none => none
          | some rest =>
            readSections? fuel done { here with pairs := pair :: here.pairs } rest

/-- Adds a section to the table of the document. -/
def Section.addTo (s : Section) (ms : Members) : Option Members :=
  match s.header with
  | .start => ms.addAll s.pairs
  | .table key => ms.addTable key s.pairs
  | .row key => ms.addRow key s.pairs

/-- The table that a text spells.  A byte order mark at the start is left out. -/
def parse? (text : String) : Option Members :=
  let cs := match text.toList with
    | '\uFEFF' :: rest => rest
    | cs => cs
  match readSections? (cs.length + 1) [] {} cs with
  | none => none
  | some sections => sections.foldlM (fun ms s => s.addTo ms) []

end DocSignature.Toml
