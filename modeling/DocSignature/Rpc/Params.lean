import DocSignature.Rpc.Message

/-!
# Parameters

The parameters of the methods that the server provides: `initialize`, the notifications `didOpen`,
`didChange` and `didClose`, and `docstring_info`.
-/

set_option autoImplicit false

namespace DocSignature

/-- Line numbers are below this. -/
def SignatureRequest.lineBound : Nat := Nat.pow 2 64

/-- Reads a request for a signature. -/
def SignatureRequest.ofJson? (v : Json) : Option SignatureRequest := do
  match ← Rpc.fields? ["uri", "line"] v with
  | [uri, line] =>
    let uri ← (← uri).asString?
    let line ← (← line).asNatBelow? lineBound
    return { uri, line }
  | _ => none

namespace Rpc

variable [Url.DomainNames]

/-- Reads a URL. -/
def urlOfJson? (v : Json) : Option Url :=
  v.asString?.bind Url.parse?

/-- Reads an integer of 32 bits with a sign. -/
def versionOfJson? : Json → Option Int
  | .integer n => if -(Int.pow 2 31) ≤ n ∧ n < Int.pow 2 31 then some n else none
  | _ => none

/-- Whether a value is an object. -/
def isObject : Json → Bool
  | .object _ => true
  | _ => false

/-- Reads an object that may be left out. -/
def optionalObject? (v : Option Json) : Option (Option Unit) :=
  Json.asOptional? (fun v => if isObject v then some () else none) v

/-- Reads a folder of a workspace. -/
def folder? (v : Json) : Option Url := do
  match ← fields? ["uri", "name"] v with
  | [uri, name] =>
    let _ ← (← name).asString?
    urlOfJson? (← uri)
  | _ => none

/-- Whether a value is what a client says about its abilities. -/
def isCapabilities (v : Json) : Bool :=
  isObject v && ["workspace", "textDocument", "window", "general"].all fun key =>
    (optionalObject? (v.get? key)).isSome

/-- Whether a value says what a client is called. -/
def isClientInfo (v : Json) : Bool :=
  match fields? ["name", "version"] v with
  | some [some (.string _), version] => (Json.asOptional? Json.asString? version).isSome
  | _ => false

/-- Reads how much of its work the server is to report. -/
def trace? (v : Json) : Option Unit :=
  match v with
  | .string s => if ["off", "messages", "verbose"].contains s then some () else none
  | _ => none

/-- Reads the folders and the root with which a session begins. -/
def beginParams? (v : Json) : Option Step := do
  match ← fields? ["processId", "rootPath", "rootUri", "initializationOptions", "capabilities",
      "trace", "workspaceFolders", "clientInfo", "locale"] v with
  | [process, rootPath, rootUri, _, capabilities, trace, folders, client, locale] =>
    let _ ← Json.asOptional? (Json.asNatBelow? (Nat.pow 2 32)) process
    let _ ← Json.asOptional? Json.asString? rootPath
    let rootUri ← Json.asOptional? urlOfJson? rootUri
    if !isCapabilities (← capabilities) then none
    let _ ← Json.asOptional? trace? trace
    let folders ← Json.asOptional? (fun v => do (← v.asArray?).mapM folder?) folders
    let _ ← Json.asOptional? (fun v => if isClientInfo v then some () else none) client
    let _ ← Json.asOptional? Json.asString? locale
    return .begin folders rootUri
  | _ => none

/-- Reads the parameters of a notification that wraps one document. -/
def document? {α : Type} (decode : Json → Option α) (v : Json) : Option α := do
  match ← fields? ["textDocument"] v with
  | [document] => decode (← document)
  | _ => none

/-- Reads an opened document. -/
def didOpenParams? : Json → Option Step :=
  document? fun v => do
    match ← fields? ["uri", "languageId", "version", "text"] v with
    | [uri, language, version, text] =>
      let _ ← (← language).asString?
      return .didOpen (← urlOfJson? (← uri)) (← (← text).asString?) (← versionOfJson? (← version))
    | _ => none

/-- Reads a place in a document. -/
def position? (v : Json) : Option Unit := do
  match ← fields? ["line", "character"] v with
  | [line, character] =>
    let _ ← (← line).asNatBelow? (Nat.pow 2 32)
    let _ ← (← character).asNatBelow? (Nat.pow 2 32)
    return ()
  | _ => none

/-- Reads a stretch of a document. -/
def range? (v : Json) : Option Unit := do
  match ← fields? ["start", "end"] v with
  | [start, stop] =>
    position? (← start)
    position? (← stop)
  | _ => none

/-- Reads a change of a document; only its text counts. -/
def change? (v : Json) : Option String := do
  match ← fields? ["range", "rangeLength", "text"] v with
  | [range, length, text] =>
    let _ ← Json.asOptional? range? range
    let _ ← Json.asOptional? (Json.asNatBelow? (Nat.pow 2 32)) length
    (← text).asString?
  | _ => none

/-- Reads the changes of a document. -/
def didChangeParams? (v : Json) : Option Step := do
  match ← fields? ["textDocument", "contentChanges"] v with
  | [document, changes] =>
    match ← fields? ["uri", "version"] (← document) with
    | [uri, version] =>
      let texts ← (← (← changes).asArray?).mapM change?
      return .didChange (← urlOfJson? (← uri)) (← versionOfJson? (← version)) texts
    | _ => none
  | _ => none

/-- Reads a closed document. -/
def didCloseParams? : Json → Option Step :=
  document? fun v => do
    match ← fields? ["uri"] v with
    | [uri] => return .didClose (← urlOfJson? (← uri))
    | _ => none

end Rpc

end DocSignature
