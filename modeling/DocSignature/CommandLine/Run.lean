import DocSignature.CommandLine.Arguments
import DocSignature.Json.Text
import DocSignature.Listening.Network
import DocSignature.Rpc.Server
import DocSignature.Settings.Discovery
import DocSignature.Url.DomainNames

/-!
# Carrying out a command line

A command line is done at once, with some output and an exit code (`lookup`), or it starts a server
(`serve_stdio`, `serve_tcp`).
-/

set_option autoImplicit false

namespace DocSignature.CommandLine

open Listening Rpc

/-- What a program leaves behind. -/
structure Report where
  exitCode : UInt8 := 0
  output : String := ""
  errors : String := ""
deriving DecidableEq, Inhabited, Repr

/-- What a command line comes to. -/
inductive Conclusion where
  /-- The program is done. -/
  | finished (report : Report)
  /-- The program explains itself and is done. -/
  | explained (reason : Stop)
  /-- The program serves one client over standard input and output. -/
  | serveStreams
  /-- The program serves the clients that connect to an endpoint. -/
  | serveClients (endpoint : Endpoint)
deriving DecidableEq, Inhabited, Repr

/-- The exit code after an error. -/
def failureCode : UInt8 := 1

/-- The exit code after words that make no sense. -/
def malformedCode : UInt8 := 2

/-- The report of an error, with what lies behind it. -/
def failureReport (message : String) (cause : Option String) : Report where
  exitCode := failureCode
  errors := "Error: " ++ message ++
    ((cause.map fun c => "\n\nCaused by:\n    " ++ c).getD "") ++ "\n"

/-- The text that names the program and its version. -/
def versionText : String := serverName ++ " " ++ serverVersion ++ "\n"

/-- The settings that hold for an invocation. -/
def settingsFor (w : World) (i : Invocation) : Settings :=
  match i.config with
  | some path => loadSettings w.disk path
  | none => (discoverSettings w.disk w.cwd).1

/-- The files that an invocation may read, the working directory being given. -/
def filesFor (cwd : Path) (i : Invocation) : List Path :=
  (match i.config with
    | some path => [path]
    | none => cwd.ancestors.map fun dir => dir.join settingsFile) ++
  (match i.command with
    | .lookup file _ => [file]
    | _ => [])

/-- Prints the signature at a line of a file (`lookup`). -/
def printSignature (w : World) (file : Path) (line : Nat) : Report :=
  match w.disk.readText file with
  | .error e => failureReport ("cannot read " ++ file.display) (some e.message)
  | .ok source =>
    match (lookupSignature source line).result with
    | .error e => failureReport e.message none
    | .ok s => { output := (answerJson w.freshId s).pretty ++ "\n" }

/-- The address of the server.  What is not said on the command line is taken from the settings. -/
def addressFor (settings : Settings) (host : Option String) (port : Option UInt16) : Address :=
  ⟨host.getD settings.host, port.getD settings.port⟩

/-- Starts a server for clients that connect (`serve_tcp`). -/
def startServer (network : Network) (address : Address) : Conclusion :=
  match (Claims.serve {} network address).2 with
  | .ok (_, endpoint) => .serveClients endpoint
  | .error e => .finished (failureReport e.message e.cause?)

/-- Carries out an invocation. -/
def carryOut (w : World) (network : Network) (i : Invocation) : Conclusion :=
  match i.command with
  | .stdio => .serveStreams
  | .tcp host port => startServer network (addressFor (settingsFor w i) host port)
  | .lookup file line => .finished (printSignature w file line)

/-- Carries out a command line (`main`). -/
def conclude (w : World) (network : Network) (words : List String) : Conclusion :=
  match readArguments words with
  | .error .version => .finished { output := versionText }
  | .error stop => .explained stop
  | .ok i => carryOut w network i

end DocSignature.CommandLine
