import DocSignature.Json.Text
import DocSignature.Rpc.Server

/-!
# Messages in a stream

The framing of the language server protocol: in a stream each JSON-RPC message comes after a header
that tells how long it is.  A header is some lines, of which the line `Content-Length` counts, and
ends with an empty line.
-/

set_option autoImplicit false

namespace DocSignature.Rpc

/-- The bytes of a message in a stream. -/
def frame (v : Json) : List UInt8 :=
  let body := Text.utf8Bytes v.compact
  Text.utf8Bytes ("Content-Length: " ++ toString body.length ++ "\r\n\r\n") ++ body

/-- What stands at the front of a stream. -/
inductive Frame where
  /-- Not a whole message; how many bytes are missing, once the header is there. -/
  | incomplete (missing : Option Nat)
  /-- A message, and what comes after it. -/
  | message (body : List UInt8) (rest : List UInt8)
  /-- A header that does not tell how long the message is, and what comes after it. -/
  | malformed (rest : List UInt8)
deriving DecidableEq, Inhabited, Repr

/-- Splits bytes after the first empty line. -/
def splitHeader : List UInt8 → Option (List UInt8 × List UInt8)
  | 13 :: 10 :: 13 :: 10 :: rest => some ([], rest)
  | b :: rest => (splitHeader rest).map fun (head, rest) => (b :: head, rest)
  | [] => none

/-- The length that a line of a header tells. -/
def lengthOfLine? (line : List Char) : Option Nat :=
  let (name, value) := line.span (· != ':')
  let digits := Text.trimChars (value.drop 1)
  if name.map Char.toLower = "content-length".toList ∧ !digits.isEmpty ∧
      digits.all Char.isDigit then
    some (Text.digitsValue digits)
  else none

/-- The length that a header tells. -/
def lengthOfHeader? (head : List UInt8) : Option Nat :=
  (Url.splitAll (· == '\n') (Text.ofUtf8Lossy head).toList).findSome? fun line =>
    lengthOfLine? (line.filter (· != '\r'))

/-- Reads the message at the front of a stream. -/
def readFrame (bytes : List UInt8) : Frame :=
  match splitHeader bytes with
  | none => .incomplete none
  | some (head, rest) =>
    match lengthOfHeader? head with
    | none => .malformed rest
    | some n =>
      if rest.length < n then .incomplete (some (n - rest.length))
      else .message (rest.take n) (rest.drop n)

/-- The response to bytes that are no message. -/
def unreadable (code : ErrorCode) (message : String) : Response :=
  ⟨.null, .error ⟨code, message, none⟩⟩

/-- The response to what is not JSON. -/
def notJson : Response := unreadable .parseError "Parse error"

/-- The response to what is JSON and not a request. -/
def notARequest : Response := unreadable .invalidRequest "Invalid request"

/-- Whether a value is the client's response to a request of the server. -/
def isClientResponse (v : Json) : Bool :=
  (v.get? "method").isNone && (v.get? "id").isSome &&
    ((v.get? "result").isSome || (v.get? "error").isSome)

/-- The value that a message spells. -/
def bodyJson? (body : List UInt8) : Option Json :=
  (Text.ofUtf8? body).bind Json.parse?

namespace Server

variable [Url.DomainNames]

/-- Handles a message of a stream. -/
def receive (w : World) (s : Server) (body : List UInt8) : Outcome :=
  match bodyJson? body with
  | none => { server := s, response := some notJson }
  | some v =>
    match Request.ofJson? v with
    | some r => if s.phase = .exited then { server := s } else s.handle w r
    | none => { server := s, response := if isClientResponse v then none else some notARequest }

/-- The files that handling a message of a stream may read. -/
def filesFor (cwd : Path) (s : Server) (body : List UInt8) : List Path :=
  match (bodyJson? body).bind Request.ofJson? with
  | some { params := some params, .. } =>
    match SignatureRequest.ofJson? params with
    | some q => (s.session.file? cwd q).toList
    | none => []
  | _ => []

end Server

/-- What goes back to the client, the response first. -/
def Outcome.messages (o : Outcome) : List Json :=
  (o.response.map Response.toJson).toList ++ o.notifications

end DocSignature.Rpc
