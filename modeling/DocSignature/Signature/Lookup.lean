import DocSignature.Python.Parse
import DocSignature.Signature.Extraction
import DocSignature.Signature.Resolution
import DocSignature.Syntax.Lowering

/-!
# Signature lookup

A lookup (`lookup_signature`) goes from a line of a source to the signature of the innermost
function around it.  A line in no definition, or whose innermost definition is a class, has no
signature.
-/

set_option autoImplicit false

namespace DocSignature

open Syntax

/-- The answer of a lookup together with its events. -/
structure Lookup where
  result : Except LookupError (Option Signature)
  events : List Event

/-- The signature at a line of a tree (`lookup_in_tree`). -/
def lookupInTree (tree : SyntaxTree) (line : Nat) : Lookup :=
  match resolveEnclosing line (topLevelDefinitions tree) with
  | (none, events) => ⟨.ok none, events ++ [.noDefinition line]⟩
  | (some d, events) =>
    match d.kind with
    | .function => ⟨d.signature.map some, events ++ d.signatureEvents⟩
    | .class => ⟨.ok none, events ++ [.resolvedToClass line d.name]⟩

/-- The syntax tree of a source, with the event of parsing it (`parse`). -/
def parseSource (source : String) : Except LookupError (SyntaxTree × Event) :=
  match Python.parse source with
  | none => .error .noTree
  | some p =>
    .ok (.lower source p.tree, .parsed source.utf8ByteSize p.hasErrors)

/-- The signature at a line of a source (`lookup_signature`). -/
def lookupSignature (source : String) (line : Nat) : Lookup :=
  match parseSource source with
  | .error e => ⟨.error e, []⟩
  | .ok (tree, event) =>
    let l := lookupInTree tree line
    { l with events := event :: l.events }

end DocSignature
