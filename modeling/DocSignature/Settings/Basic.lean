import DocSignature.Disk.Basic
import DocSignature.Toml.Document

/-!
# Settings

A settings file names the address of the server and what is logged.  Everything in it may be left
out.  A file that is missing, not UTF-8 or malformed counts as one that says nothing.
-/

set_option autoImplicit false

namespace DocSignature

/-- What a settings file says about the server. -/
structure ServerSettings where
  host : Option String := none
  port : Option UInt16 := none
deriving DecidableEq, Inhabited, Repr

/-- What a settings file says about logging. -/
structure LogSettings where
  filter : Option String := none
deriving DecidableEq, Inhabited, Repr

/-- What a settings file says. -/
structure Settings where
  server : Option ServerSettings := none
  log : Option LogSettings := none
deriving DecidableEq, Inhabited, Repr

/-- The host of the server, unless one is named. -/
def defaultHost : String := "localhost"

/-- The port of the server, unless one is named. -/
def defaultPort : UInt16 := 5000

/-- The name of settings files. -/
def settingsFile : Path := .ofString "autodocstring.toml"

namespace Settings

/-- The host of the server. -/
def host (s : Settings) : String :=
  (s.server.bind (·.host)).getD defaultHost

/-- The port of the server. -/
def port (s : Settings) : UInt16 :=
  (s.server.bind (·.port)).getD defaultPort

/-- What is logged, if that is said (`log_filter`). -/
def logFilter (s : Settings) : Option String :=
  s.log.bind (·.filter)

/-! ## Reading -/

/-- The parts of a value, by name or by place.  A table may leave parts out; an array leaves none
out and may go on after the last; a moment has no parts. -/
def parts? (names : List String) : Toml.Value → Option (List (Option Toml.Value))
  | .table _ members => some (names.map fun name => members.lookup name)
  | .array items =>
    if names.length ≤ items.length then some ((items.take names.length).map some) else none
  | .tables rows =>
    if names.length ≤ rows.length then
      some ((rows.take names.length).map fun row => some (.table .header row))
    else none
  | .moment _ => some (names.map fun _ => none)
  | _ => none

/-- Reads a part that may be left out. -/
def optional? {α : Type} (decode : Toml.Value → Option α) : Option Toml.Value → Option (Option α)
  | none => some none
  | some v => (decode v).map some

/-- Reads a text. -/
def text? : Toml.Value → Option String
  | .string s => some s
  | _ => none

/-- Reads a port. -/
def port? : Toml.Value → Option UInt16
  | .integer n => if 0 ≤ n ∧ n < Int.pow 2 16 then some (.ofNat n.toNat) else none
  | _ => none

/-- Reads what is said about the server. -/
def server? (v : Toml.Value) : Option ServerSettings := do
  match ← parts? ["host", "port"] v with
  | [host, port] => return { host := ← optional? text? host, port := ← optional? port? port }
  | _ => none

/-- Reads what is said about logging. -/
def log? (v : Toml.Value) : Option LogSettings := do
  match ← parts? ["filter"] v with
  | [filter] => return { filter := ← optional? text? filter }
  | _ => none

/-- The settings that a document holds. -/
def ofMembers? (ms : Toml.Members) : Option Settings := do
  let server ← optional? server? (ms.lookup "server")
  let log ← optional? log? (ms.lookup "log")
  return { server, log }

/-- The settings that a text spells. -/
def ofText? (text : String) : Option Settings :=
  (Toml.parse? text).bind ofMembers?

end Settings

/-- What is found where a settings file should be. -/
inductive SettingsFile where
  /-- No text. -/
  | missing
  /-- A text that spells no settings; the user is warned. -/
  | malformed
  | present (settings : Settings)
deriving DecidableEq, Inhabited, Repr

/-- The settings that hold after what is found. -/
def SettingsFile.settings : SettingsFile → Settings
  | present s => s
  | _ => {}

/-- Looks for settings at a path. -/
def readSettings (disk : Disk) (p : Path) : SettingsFile :=
  match disk.readText p with
  | .error _ => .missing
  | .ok text =>
    match Settings.ofText? text with
    | some s => .present s
    | none => .malformed

/-- The settings at a path (`load_settings`). -/
def loadSettings (disk : Disk) (p : Path) : Settings :=
  (readSettings disk p).settings

end DocSignature
