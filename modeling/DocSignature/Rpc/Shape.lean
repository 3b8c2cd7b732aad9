import DocSignature.Rpc.Params

/-!
# Methods that are known but not provided

Clients may ask for many things besides signatures.  The server knows those methods, checks that
their parameters have the right shape, and answers that it does not provide them.
-/

set_option autoImplicit false

namespace DocSignature.Rpc

/-- The shape of a parameter. -/
inductive Shape where
  | any
  | bool
  | string
  | url
  /-- A number without sign of 32 bits. -/
  | count
  /-- A number with a sign of 32 bits. -/
  | integer
  | number
  | list (item : Shape)
  | record (required optional : List (String × Shape))

namespace Shape

variable [Url.DomainNames]

mutual

/-- Whether a value has a shape. -/
def accepts : Shape → Json → Bool
  | any, _ => true
  | bool, .bool _ => true
  | string, .string _ => true
  | url, v => (urlOfJson? v).isSome
  | count, v => (v.asNatBelow? (Nat.pow 2 32)).isSome
  | integer, v => (versionOfJson? v).isSome
  | number, .integer _ => true
  | number, .real _ => true
  | list item, .array vs => vs.all (accepts item)
  | record required optional, .object ms =>
    acceptsAll true ms required && acceptsAll false ms optional
  | _, _ => false

/-- Whether the members of an object have their shapes; others than the required ones may be left
out or null. -/
def acceptsAll (required : Bool) (ms : List (String × Json)) : List (String × Shape) → Bool
  | [] => true
  | (name, shape) :: rest =>
    (match Json.member? name ms with
      | none => !required
      | some .null => !required || accepts shape .null
      | some v => accepts shape v) && acceptsAll required ms rest

end

/-- A place in a document. -/
def position : Shape := .record [("line", .count), ("character", .count)] []

/-- A stretch of a document. -/
def range : Shape := .record [("start", position), ("end", position)] []

/-- A document. -/
def document : Shape := .record [("uri", .url)] []

/-- A document with more besides. -/
def inDocument (more : List (String × Shape)) : Shape :=
  .record (("textDocument", document) :: more) []

/-- A place in a document with more besides. -/
def atPosition (more : List (String × Shape)) : Shape :=
  inDocument (("position", position) :: more)

/-- What a hierarchy is made of. -/
def hierarchyItem : Shape :=
  .record [("item", .record
    [("name", .string), ("kind", .integer), ("uri", .url), ("range", range),
     ("selectionRange", range)] [("detail", .string)])] []

/-- How to format a document. -/
def formatting : Shape := .record [("tabSize", .count), ("insertSpaces", .bool)] []

/-- Files that are named by URL. -/
def files (names : List String) : Shape :=
  .record [("files", .list (.record (names.map ((·, .string))) []))] []

end Shape

open Shape in
/-- The requests that are known but not provided. -/
def otherRequests : List (String × Shape) :=
  [("textDocument/willSaveWaitUntil", inDocument [("reason", .integer)]),
   ("textDocument/declaration", atPosition []),
   ("textDocument/definition", atPosition []),
   ("textDocument/typeDefinition", atPosition []),
   ("textDocument/implementation", atPosition []),
   ("textDocument/references",
     atPosition [("context", .record [("includeDeclaration", .bool)] [])]),
   ("textDocument/prepareCallHierarchy", atPosition []),
   ("callHierarchy/incomingCalls", hierarchyItem),
   ("callHierarchy/outgoingCalls", hierarchyItem),
   ("textDocument/prepareTypeHierarchy", atPosition []),
   ("typeHierarchy/supertypes", hierarchyItem),
   ("typeHierarchy/subtypes", hierarchyItem),
   ("textDocument/documentHighlight", atPosition []),
   ("textDocument/documentLink", inDocument []),
   ("documentLink/resolve", .record [("range", range)] [("target", .url), ("tooltip", .string)]),
   ("textDocument/hover", atPosition []),
   ("textDocument/codeLens", inDocument []),
   ("codeLens/resolve", .record [("range", range)] []),
   ("textDocument/foldingRange", inDocument []),
   ("textDocument/selectionRange", inDocument [("positions", .list position)]),
   ("textDocument/documentSymbol", inDocument []),
   ("textDocument/semanticTokens/full", inDocument []),
   ("textDocument/semanticTokens/full/delta", inDocument [("previousResultId", .string)]),
   ("textDocument/semanticTokens/range", inDocument [("range", range)]),
   ("textDocument/inlineValue", inDocument [("range", range),
     ("context", .record [("frameId", .integer), ("stoppedLocation", range)] [])]),
   ("textDocument/inlayHint", inDocument [("range", range)]),
   ("inlayHint/resolve", .record [("position", position), ("label", .any)] []),
   ("textDocument/moniker", atPosition []),
   ("textDocument/completion", atPosition []),
   ("completionItem/resolve", .record [("label", .string)] []),
   ("textDocument/diagnostic", inDocument []),
   ("workspace/diagnostic", .record [("previousResultIds",
     .list (.record [("uri", .url), ("value", .string)] []))] [("identifier", .string)]),
   ("textDocument/signatureHelp", atPosition []),
   ("textDocument/codeAction", inDocument [("range", range),
     ("context", .record [("diagnostics", .list .any)] [])]),
   ("codeAction/resolve", .record [("title", .string)] []),
   ("textDocument/documentColor", inDocument []),
   ("textDocument/colorPresentation", inDocument [("range", range),
     ("color", .record [("red", .number), ("green", .number), ("blue", .number),
       ("alpha", .number)] [])]),
   ("textDocument/formatting", inDocument [("options", formatting)]),
   ("textDocument/rangeFormatting", inDocument [("range", range), ("options", formatting)]),
   ("textDocument/onTypeFormatting", atPosition [("ch", .string), ("options", formatting)]),
   ("textDocument/rename", atPosition [("newName", .string)]),
   ("textDocument/prepareRename", atPosition []),
   ("textDocument/linkedEditingRange", atPosition []),
   ("workspace/symbol", .record [("query", .string)] []),
   ("workspaceSymbol/resolve", .record [("name", .string), ("kind", .integer),
     ("location", .any)] []),
   ("workspace/willCreateFiles", files ["uri"]),
   ("workspace/willRenameFiles", files ["oldUri", "newUri"]),
   ("workspace/willDeleteFiles", files ["uri"]),
   ("workspace/executeCommand", .record [("command", .string)] [("arguments", .list .any)])]

/-- The notifications that are known but change nothing. -/
def otherNotifications : List String :=
  ["textDocument/willSave", "textDocument/didSave", "workspace/didChangeWorkspaceFolders",
   "workspace/didChangeConfiguration", "workspace/didChangeWatchedFiles",
   "workspace/didCreateFiles", "workspace/didRenameFiles", "workspace/didDeleteFiles"]

end DocSignature.Rpc
