import DocSignature.Disk.Basic
import DocSignature.Workspace.Document
import DocSignature.Workspace.Location

/-!
# Sessions

A session is what the server remembers of one client (`Backend`): its open documents and the root of
its workspace.  The steps are the handlers `initialize`, `did_open`, `did_change` and `did_close`,
and the requests `docstring_info`, which are answered from open documents first, and from the disk
otherwise.
-/

set_option autoImplicit false

namespace DocSignature

variable [Url.DomainNames]

/-- A request for the signature at a line of a document (`DocstringInfoParams`). -/
structure SignatureRequest where
  /-- A URL, an absolute path, or a path relative to the workspace. -/
  uri : String
  /-- The line, counted from one. -/
  line : Nat
deriving DecidableEq, Inhabited, Repr

/-- Why a request has no answer. -/
inductive RequestError where
  /-- The document has no URL. -/
  | invalidPath (uri : String)
  /-- The document is not open and its URL names no file. -/
  | notAFile (url : Url)
  /-- The file cannot be read. -/
  | unreadable (path : Path) (reason : ReadError)
  /-- The text was found, but the lookup failed. -/
  | lookup (reason : LookupError)
deriving DecidableEq, Repr

/-- The text of an error. -/
def RequestError.message : RequestError → String
  | invalidPath uri => "not a valid document path: " ++ uri
  | notAFile url => "not a file URL: " ++ url.text
  | unreadable path reason => "cannot read " ++ path.display ++ ": " ++ reason.message
  | lookup reason => reason.message

/-- The text of the file that a URL names. -/
def fileText (disk : Disk) (url : Url) : Except RequestError String :=
  match url.toFilePath? with
  | none => .error (.notAFile url)
  | some path =>
    match disk.readText path with
    | .error reason => .error (.unreadable path reason)
    | .ok source => .ok source

/-- The text of a document: the open one's, or the file's. -/
def documentText (documents : DocumentStore) (disk : Disk) (url : Url) :
    Except RequestError String :=
  match documents.get? url with
  | some d => .ok d.source
  | none => fileText disk url

/-- The answer to a request, given the open documents, the root and the disk (`docstring_info`). -/
def answerRequest (documents : DocumentStore) (root : Path) (disk : Disk) (r : SignatureRequest) :
    Except RequestError (Option Signature) :=
  match documentUrl? r.uri root with
  | none => .error (.invalidPath r.uri)
  | some url =>
    match documentText documents disk url with
    | .error e => .error e
    | .ok source =>
      match (lookupSignature source r.line).result with
      | .error e => .error (.lookup e)
      | .ok s => .ok s

/-- What the server remembers of a client (`Backend`). -/
structure Session where
  documents : DocumentStore := {}
  /-- The root of the workspace, once a client has named one. -/
  root : Option Path := none

/-- What a client may do in a session. -/
inductive Step where
  /-- Says hello, naming the folders of the workspace or its root. -/
  | begin (folders : Option (List Url)) (rootUri : Option Url)
  | didOpen (url : Url) (text : String) (version : Int)
  /-- Sends new texts of a document; one is expected, and the first counts. -/
  | didChange (url : Url) (version : Int) (texts : List String)
  | didClose (url : Url)
  | askSignature (request : SignatureRequest)
  | ping
  | shutdown

/-- The root that a client names (`initialize`): the path of its first folder, else that of its
root. -/
def namedRoot (folders : Option (List Url)) (rootUri : Option Url) : Option Path :=
  ((folders.bind (·.head?)).bind Url.toFilePath?) <|> (rootUri.bind Url.toFilePath?)

namespace Session

/-- The session after a step.  The root is set once and kept. -/
def step (s : Session) : Step → Session
  | .begin folders rootUri => { s with root := s.root <|> namedRoot folders rootUri }
  | .didOpen url text version => { s with documents := s.documents.insert url ⟨text, version⟩ }
  | .didChange url version texts =>
    match texts with
    | [] => s
    | text :: _ => { s with documents := s.documents.insert url ⟨text, version⟩ }
  | .didClose url => { s with documents := s.documents.erase url }
  | .askSignature _ | .ping | .shutdown => s

/-- The session after some steps. -/
def run (s : Session) (steps : List Step) : Session :=
  steps.foldl step s

/-- The directory that relative paths start from (`root`): the root of the workspace, else the
working directory. -/
def base (s : Session) (cwd : Path) : Path :=
  s.root.getD cwd

/-- The answer to a request in a session. -/
def answer (s : Session) (cwd : Path) (disk : Disk) (r : SignatureRequest) :
    Except RequestError (Option Signature) :=
  answerRequest s.documents (s.base cwd) disk r

/-- The file that a request may read. -/
def file? (s : Session) (cwd : Path) (r : SignatureRequest) : Option Path :=
  (documentUrl? r.uri (s.base cwd)).bind Url.toFilePath?

end Session

end DocSignature
