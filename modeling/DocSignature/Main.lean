import DocSignature.CommandLine.Run
import DocSignature.Disk.Snapshot
import DocSignature.Rpc.Framing
import Std.Async.DNS
import Std.Async.TCP

/-!
# The program

Looks at the files that a step may read, takes the step, and does what it comes to.
-/

set_option autoImplicit false

namespace DocSignature.Program

open CommandLine Listening Rpc

/-! ## Files -/

/-- The number and the text of an error of the operating system. -/
def errorCode : IO.Error → Nat × String
  | .alreadyExists _ code text | .otherError code text | .resourceBusy code text
  | .resourceVanished code text | .unsupportedOperation code text | .hardwareFault code text
  | .unsatisfiedConstraints code text | .illegalOperation code text | .protocolError code text
  | .timeExpired code text | .interrupted _ code text | .noFileOrDirectory _ code text
  | .invalidArgument _ code text | .permissionDenied _ code text | .resourceExhausted _ code text
  | .inappropriateType _ code text | .noSuchThing _ code text => (code.toNat, text)
  | .unexpectedEof => (0, "unexpected end of file")
  | .userError text => (0, text)

/-- Looks at a path. -/
def look (p : Path) : IO Sighting := do
  let name := p.display
  let isFile ←
    try
      let real ← IO.FS.realPath name
      pure ((← real.metadata).type == .file)
    catch _ => pure false
  let content : Except ReadError (List UInt8) ←
    if p.bytes.contains 0 then pure (.error .zeroByte)
    else
      try
        pure (.ok (← IO.FS.readBinFile name).toList)
      catch e =>
        let (code, text) := errorCode e
        pure (.error (.ofCode code text))
  return ⟨p, isFile, content⟩

/-- The world as some paths show it. -/
def glimpse (cwd : Path) (files : List Path) : IO World := do
  let seen ← files.mapM look
  let random ← IO.getRandomBytes 16
  let bits := random.toList.foldl (fun n b => 256 * n + b.toNat) 0
  return ⟨cwd, .ofSightings seen, Uuid.ofRandom (.ofNat 128 bits)⟩

/-! ## Clients -/

/-- Serves a client.  `receive` waits for the bytes that are missing, of which the number is given
once it is known, and gives nothing at the end of the stream. -/
def serveClient (cwd : Path) (receive : Option Nat → IO (Option (List UInt8)))
    (send : List UInt8 → IO Unit) : IO Unit := do
  let mut server : Rpc.Server := {}
  let mut bytes : List UInt8 := []
  repeat
    match readFrame bytes with
    | .incomplete missing =>
      match ← receive missing with
      | none => break
      | some more => bytes := bytes ++ more
    | .malformed rest =>
      bytes := rest
      send (frame notJson.toJson)
    | .message body rest =>
      bytes := rest
      let world ← glimpse cwd (server.filesFor cwd body)
      let outcome := server.receive world body
      server := outcome.server
      for m in outcome.messages do
        send (frame m)
      if server.phase = .exited then break

/-- Serves one client over standard input and output (`serve_stdio`). -/
def serveStreams (cwd : Path) : IO Unit := do
  let input ← IO.getStdin
  let output ← IO.getStdout
  let receive (missing : Option Nat) : IO (Option (List UInt8)) := do
    let more ← match missing with
      | none => pure (Text.utf8Bytes (← input.getLine))
      | some n => pure (← input.read n.toUSize).toList
    return if more.isEmpty then none else some more
  let send (bytes : List UInt8) : IO Unit := do
    output.write ⟨bytes.toArray⟩
    output.flush
  serveClient cwd receive send

/-! ## Connections -/

/-- The addresses of a host. -/
def addressesOf (host : String) (port : UInt16) : IO (List Std.Net.SocketAddress) := do
  let withPort : Std.Net.IPAddr → Std.Net.SocketAddress
    | .v4 addr => .v4 ⟨addr, port⟩
    | .v6 addr => .v6 ⟨addr, port⟩
  match Std.Net.IPv4Addr.ofString host, Std.Net.IPv6Addr.ofString host with
  | some addr, _ => return [withPort (.v4 addr)]
  | none, some addr => return [withPort (.v6 addr)]
  | none, none =>
    let found ← (Std.Async.DNS.getAddrInfo host (toString port.toNat)).block
    return found.toList.map withPort

/-- The words of the operating system for an error of the network. -/
def networkReason (e : IO.Error) : BindFailure :=
  match e with
  | .resourceBusy _ _ => .addressInUse
  | .permissionDenied _ _ _ => .other "Permission denied (os error 13)"
  | .unsupportedOperation _ _ => .other "Cannot assign requested address (os error 99)"
  | _ => .other (errorCode e).2

/-- Does something with the network, which may fail. -/
def attempt {α : Type} (act : IO α) : IO (Except BindFailure α) := do
  try
    return .ok (← act)
  catch e => return .error (networkReason e)

/-- Binds an address. -/
def bindTo (addr : Std.Net.SocketAddress) : IO (Std.Async.TCP.Socket.Server × Endpoint) := do
  let server ← Std.Async.TCP.Socket.Server.mk
  server.bind addr
  server.listen 1024
  let name ← server.getSockName
  return (server, ⟨name.ipAddr.toString, name.port⟩)

/-- Binds the first address of a host that can be bound. -/
def listenOn (a : Address) :
    IO (Except BindFailure (Std.Async.TCP.Socket.Server × Endpoint)) := do
  match ← attempt (addressesOf a.host a.port) with
  | .error reason => return .error reason
  | .ok addrs =>
    let mut last : BindFailure := .other "could not resolve to any address"
    for addr in addrs do
      match ← attempt (bindTo addr) with
      | .ok bound => return .ok bound
      | .error reason => last := reason
    return .error last

/-- Serves the clients that connect, each in a session of its own (`serve`). -/
def serveClients (cwd : Path) (server : Std.Async.TCP.Socket.Server) : IO Unit := do
  repeat
    let client ← server.accept.block
    let receive (_ : Option Nat) : IO (Option (List UInt8)) := do
      return (← (client.recv? 65536).block).map (·.toList)
    let send (bytes : List UInt8) : IO Unit :=
      (client.send ⟨bytes.toArray⟩).block
    discard <| IO.asTask (serveClient cwd receive send)

/-! ## Commands -/

/-- The text that explains the program. -/
def usage : String :=
  "Usage: " ++ serverName ++ " [--config <PATH>] [--log-filter <FILTER>] [COMMAND]\n\n" ++
  "Commands:\n" ++
  "  stdio                              Serve over standard input and output\n" ++
  "  tcp [--host <HOST>] [--port <PORT>]  Serve over TCP, one session per connection\n" ++
  "  lookup <FILE> <LINE>               Print the signature enclosing LINE of FILE as JSON\n"

/-- Writes a report and gives its exit code. -/
def deliver (r : Report) : IO UInt32 := do
  (← IO.getStdout).putStr r.output
  (← IO.getStderr).putStr r.errors
  return r.exitCode.toUInt32

/-- The address that words ask a server to listen on. -/
def addressAsked (w : World) (words : List String) : Option Address :=
  match readArguments words with
  | .ok i =>
    match i.command with
    | .tcp host port => some (addressFor (settingsFor w i) host port)
    | _ => none
  | .error _ => none

/-- Carries out a command line. -/
def run (words : List String) : IO UInt32 := do
  let cwd := Path.ofString (← IO.currentDir).toString
  let files := match readArguments words with
    | .ok i => CommandLine.filesFor cwd i
    | .error _ => []
  let world ← glimpse cwd files
  let bound ← match addressAsked world words with
    | some a => listenOn a
    | none => pure (.error .addressInUse)
  match conclude world ⟨fun _ => bound.map (·.2)⟩ words, bound with
  | .finished r, _ => deliver r
  | .explained .malformed, _ =>
    deliver { exitCode := malformedCode, errors := usage }
  | .explained _, _ => deliver { output := usage }
  | .serveStreams, _ => serveStreams cwd; return 0
  | .serveClients _, .ok (server, _) => serveClients cwd server; return 0
  | .serveClients _, .error _ => return failureCode.toUInt32

end DocSignature.Program

/-- The program. -/
def main (words : List String) : IO UInt32 :=
  DocSignature.Program.run words
