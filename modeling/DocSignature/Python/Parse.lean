import DocSignature.Parsing.Engine
import DocSignature.Parsing.Reveal
import DocSignature.Python.Scanner
import DocSignature.Python.Tables

/-!
# Parsing Python

`parse` gives the concrete tree of a Python source.  Sources with syntax errors have a tree too: the
parser skips what it cannot read and invents what it lacks, and says so in the tree.
-/

set_option autoImplicit false

namespace DocSignature.Python

open DocSignature.Parsing DocSignature.Syntax

/-- A parsed source. -/
structure Parsed where
  tree : ConcreteTree
  /-- Whether any node of the tree is an error or missing. -/
  hasErrors : Bool

/-- Parses a source (`parse`). -/
def parse (source : String) : Option Parsed := do
  let t ← parseTree tables scanner source.toList.toArray
  let tree ← t.toConcrete tables
  return ⟨tree, decide (0 < t.cost)⟩

end DocSignature.Python
