import DocSignature.Rpc.Shape
import DocSignature.Signature.RecordJson

/-!
# The language server

The server of the language server protocol (`create_service`).  It takes messages one by one and
answers nothing before `initialize` and nothing after `shutdown`; after `exit` it is gone.
-/

set_option autoImplicit false

namespace DocSignature.Rpc

variable [Url.DomainNames]

/-- How far a session has come. -/
inductive Phase where
  | uninitialized
  | initialized
  | shutDown
  | exited
deriving DecidableEq, Inhabited, Repr

/-- The state of the server. -/
structure Server where
  phase : Phase := .uninitialized
  session : Session := {}

/-- What a server needs from the world to handle a message. -/
structure World where
  /-- The working directory. -/
  cwd : Path
  disk : Disk
  /-- The identifier for a record, should one be sent. -/
  freshId : Uuid

/-- What comes of a message. -/
structure Outcome where
  server : Server
  response : Option Response := none
  /-- What the server tells the client on its own account. -/
  notifications : List Json := []

/-- The name of the server. -/
def serverName : String := "autodocstring"

/-- The version of the server. -/
def serverVersion : String := "0.1.0"

/-- What a client learns when a session begins: documents are sent whole. -/
def beginResult : Json :=
  .object
    [("capabilities", .object [("textDocumentSync", .integer 1)]),
     ("serverInfo", .object [("name", .string serverName), ("version", .string serverVersion)])]

/-- The message to the client once it is ready. -/
def readyNotification : Json :=
  notificationJson "window/logMessage"
    (.object [("type", .integer 3), ("message", .string "autodocstring server initialized")])

/-- An answer as a value: a record with an identifier, or null. -/
def answerJson (id : Uuid) : Option Signature → Json
  | none => .null
  | some s => SignatureRecord.toJson { s with id }

namespace Server

/-- Responds to a request; a message without identifier gets no response. -/
def respond (s : Server) (r : Request) (result : Except Error Json) : Outcome where
  server := s
  response := r.id.map fun id => ⟨id, result⟩

/-- The error of a request outside a session. -/
def phaseError (s : Server) : Error :=
  match s.phase with
  | .uninitialized => .notInitialized
  | _ => .invalidRequest

/-- Goes on with the parameters of a message, which must be there and have the right form. -/
def withParams {α : Type} (s : Server) (r : Request) (decode : Json → Option α)
    (next : α → Outcome) : Outcome :=
  match r.params.bind decode with
  | some a => next a
  | none => s.respond r (.error .malformedParams)

/-- Handles a notification, which must have no identifier. -/
def notify (s : Server) (r : Request) (decode : Json → Option Step) : Outcome :=
  if r.id.isSome then s.respond r (.error .invalidRequest)
  else
    match r.params.bind decode with
    | some step => { server := { s with session := s.session.step step } }
    | none => { server := s }

/-- Begins a session (`initialize`).  Only a response makes it begin. -/
def begin (s : Server) (r : Request) : Outcome :=
  if s.phase = .uninitialized then
    s.withParams r beginParams? fun step =>
      let session := s.session.step step
      let phase := if r.id.isSome then .initialized else .uninitialized
      respond { phase, session } r (.ok beginResult)
  else s.respond r (.error .invalidRequest)

/-- Shuts the server down (`shutdown`). -/
def shutdown (s : Server) (r : Request) : Outcome :=
  if s.phase = .initialized then
    let s := { s with phase := .shutDown, session := s.session.step .shutdown }
    s.respond r (if r.params.isSome then .error .malformedParams else .ok .null)
  else s.respond r (.error s.phaseError)

/-- Handles a message inside a session. -/
def serve (w : World) (s : Server) (r : Request) : Outcome :=
  match r.method with
  | "docstring_info" =>
    s.withParams r SignatureRequest.ofJson? fun request =>
      s.respond r <|
        match s.session.answer w.cwd w.disk request with
        | .ok found => .ok (answerJson w.freshId found)
        | .error e => .error (.ofRequest e)
  | "ping" =>
    s.respond r (if r.params.isSome then .error .malformedParams else .ok (.string "pong"))
  | "initialized" =>
    if r.id.isSome then s.respond r (.error .invalidRequest)
    else if (r.params.bind (fields? [])).isSome then
      { server := s, notifications := [readyNotification] }
    else { server := s }
  | "textDocument/didOpen" => s.notify r didOpenParams?
  | "textDocument/didChange" => s.notify r didChangeParams?
  | "textDocument/didClose" => s.notify r didCloseParams?
  | method =>
    match otherRequests.lookup method with
    | some shape =>
      s.withParams r (fun v => if shape.accepts v then some () else none) fun _ =>
        s.respond r (.error .notProvided)
    | none => s.notify r fun _ => none

/-- The methods that are answered inside a session only. -/
def isSessionMethod (method : String) : Bool :=
  ["docstring_info", "ping", "initialized", "textDocument/didOpen", "textDocument/didChange",
    "textDocument/didClose"].contains method ||
    (otherRequests.lookup method).isSome || otherNotifications.contains method

/-- Handles a message of a client that has not left. -/
def handle (w : World) (s : Server) (r : Request) : Outcome :=
  match r.method with
  | "initialize" => s.begin r
  | "shutdown" => s.shutdown r
  | "exit" => { server := { s with phase := .exited } }
  | "$/cancelRequest" => s.notify r fun _ => none
  | method =>
    if isSessionMethod method then
      if s.phase = .initialized then s.serve w r else s.respond r (.error s.phaseError)
    else if ['$', '/'].isPrefixOf method.toList then { server := s }
    else s.respond r (.error (.unknownMethod method))

end Server

end DocSignature.Rpc
