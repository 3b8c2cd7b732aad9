import DocSignature.Disk.Path
import DocSignature.Text.Digits

/-!
# Arguments

The words of a command line.  Options that every command has may stand before or after its name; an
option is given once at most on each side, and after the name it counts more.

A value that stands apart from its option is checked when the next option or value comes, or when
all words have been read; so a request for help inside a command is heard before a bad value ahead
of the command's name is noticed.
-/

set_option autoImplicit false

namespace DocSignature.CommandLine

/-- What is to be done. -/
inductive Command where
  /-- Serve one client over standard input and output. -/
  | stdio
  /-- Serve clients over TCP. -/
  | tcp (host : Option String) (port : Option UInt16)
  /-- Print the signature at a line of a file. -/
  | lookup (file : Path) (line : Nat)
deriving DecidableEq, Inhabited, Repr

/-- A command line that makes sense. -/
structure Invocation where
  /-- The settings file to use instead of the nearest one. -/
  config : Option Path := none
  /-- What is logged. -/
  logFilter : Option String := none
  command : Command := .stdio
deriving DecidableEq, Inhabited, Repr

/-- Why words are not a command line to carry out. -/
inductive Stop where
  | help
  | version
  /-- The words make no sense. -/
  | malformed
deriving DecidableEq, Inhabited, Repr

/-! ## Values -/

/-- What a value is for. -/
inductive Slot where
  | config
  | logFilter
  | host
  | port
  | file
  | line
deriving DecidableEq, Inhabited, Repr

/-- The natural number that a text spells; a plus sign may come first. -/
def natural? (text : String) : Option Nat :=
  let digits := match text.toList with
    | '+' :: rest => rest
    | cs => cs
  if !digits.isEmpty && digits.all Char.isDigit then some (Text.digitsValue digits) else none

/-- The line that a text spells. -/
def line? (text : String) : Option Nat :=
  (natural? text).filter (· < Nat.pow 2 64)

/-- The port that a text spells; zero may have a minus sign. -/
def port? (text : String) : Option UInt16 :=
  let n := match text.toList with
    | '-' :: rest =>
      if !rest.isEmpty && rest.all Char.isDigit && Text.digitsValue rest == 0 then some 0 else none
    | _ => natural? text
  match n with
  | some n => if n < Nat.pow 2 16 then some (.ofNat n) else none
  | none => none

/-- Whether a value is good for a slot.  Paths are not empty. -/
def Slot.accepts (text : String) : Slot → Bool
  | config | file => !text.isEmpty
  | logFilter | host => true
  | port => (port? text).isSome
  | line => (line? text).isSome

/-! ## The words of one command -/

/-- Whose words are being read: those before any name, or those of a named command. -/
inductive Level where
  | root
  | stdio
  | tcp
  | lookup
deriving DecidableEq, Inhabited, Repr

namespace Level

/-- The commands by name. -/
def named? : String → Option Level
  | "stdio" => some .stdio
  | "tcp" => some .tcp
  | "lookup" => some .lookup
  | _ => none

/-- The options by name, without the two dashes. -/
def option? (l : Level) : String → Option Slot
  | "config" => some .config
  | "log-filter" => some .logFilter
  | "host" => if l = .tcp then some .host else none
  | "port" => if l = .tcp then some .port else none
  | _ => none

/-- The values that stand without an option, in their order. -/
def places : Level → List Slot
  | .lookup => [.file, .line]
  | _ => []

end Level

/-- What has been read of the words of a command. -/
structure Collected where
  /-- The values that have been checked. -/
  values : List (Slot × String) := []
  /-- The option or value read last, if its value has yet to be checked, or yet to come. -/
  pending : Option (Slot × Option String) := none
  /-- The places for values without an option that are left. -/
  places : List Slot
  /-- Whether two dashes have been read, after which no word is an option. -/
  onlyValues : Bool := false
deriving DecidableEq, Repr

namespace Collected

/-- Nothing has been read. -/
def empty (l : Level) : Collected := { places := l.places }

/-- The value of a slot. -/
def get? (c : Collected) (s : Slot) : Option String := c.values.lookup s

/-- Whether the next word is the value of an option. -/
def awaitsValue (c : Collected) : Bool :=
  match c.pending with
  | some (_, none) => true
  | _ => false

/-- Checks the value that is pending: it must be there, be good, and be the only one. -/
def settle (c : Collected) : Except Stop Collected :=
  match c.pending with
  | none => .ok c
  | some (_, none) => .error .malformed
  | some (s, some text) =>
    if s.accepts text && (c.get? s).isNone then
      .ok { c with values := (s, text) :: c.values, pending := none }
    else .error .malformed

/-- Takes a word as a value. -/
def takeValue (c : Collected) (word : String) : Except Stop Collected :=
  match c.pending with
  | some (s, none) =>
    if c.onlyValues then .error .malformed else .ok { c with pending := some (s, some word) }
  | _ =>
    match c.places with
    | [] => .error .malformed
    | s :: places => do
      let c ← c.settle
      return { c with pending := some (s, some word), places }

/-- Checks what is pending and then stops. -/
def stop {α : Type} (c : Collected) (s : Stop) : Except Stop α := do
  let _ ← c.settle
  .error s

/-- Takes an option, without its two dashes. -/
def takeOption (l : Level) (c : Collected) (option : String) : Except Stop Collected :=
  let (name, value) := match option.toList.span (· != '=') with
    | (name, '=' :: value) => (String.ofList name, some (String.ofList value))
    | (name, _) => (String.ofList name, none)
  match l.option? name, value with
  | some s, some text => do
    let c ← c.settle
    settle { c with pending := some (s, some text) }
  | some s, none => do
    let c ← c.settle
    return { c with pending := some (s, none) }
  | none, some _ => .error .malformed
  | none, none =>
    if name = "help" then c.stop .help
    else if name = "version" ∧ l = .root then c.stop .version
    else .error .malformed

/-- Takes letters after one dash; the first one decides. -/
def takeLetters (l : Level) (c : Collected) : List Char → Except Stop Collected
  | 'h' :: _ => c.stop .help
  | 'V' :: _ => if l = .root then c.stop .version else .error .malformed
  | _ => .error .malformed

/-- Takes a word. -/
def take (l : Level) (c : Collected) (word : String) : Except Stop Collected :=
  if c.onlyValues then c.takeValue word
  else
    match word.toList with
    | ['-', '-'] => .ok { c with onlyValues := true }
    | '-' :: '-' :: option => c.takeOption l (String.ofList option)
    | '-' :: letter :: letters => c.takeLetters l (letter :: letters)
    | _ => c.takeValue word

end Collected

/-! ## The whole command line -/

/-- Reads the words of a named command. -/
def readCommand (l : Level) (words : List String) : Except Stop Collected := do
  let c ← words.foldlM (Collected.take l) (Collected.empty l)
  let c ← c.settle
  if c.places.isEmpty then return c else .error .malformed

/-- Reads the names of commands to be explained; only the name of one command makes sense. -/
def readHelp : List String → Stop
  | [] => .help
  | [name] => if name = "help" ∨ (Level.named? name).isSome then .help else .malformed
  | _ => .malformed

/-- Reads all words: first those before any name, then those of the command. -/
def readWords (c : Collected) : List String → Except Stop (Collected × Level × Collected)
  | [] => do return (← c.settle, .root, .empty .root)
  | word :: words =>
    if c.onlyValues || c.awaitsValue then do readWords (← c.take .root word) words
    else if word = "help" then .error (readHelp words)
    else
      match Level.named? word with
      | some l => do
        let inner ← readCommand l words
        return (← c.settle, l, inner)
      | none => do readWords (← c.take .root word) words

/-- The command that has been read. -/
def commandOf (l : Level) (c : Collected) : Option Command :=
  match l with
  | .root | .stdio => some .stdio
  | .tcp => some (.tcp (c.get? .host) ((c.get? .port).bind port?))
  | .lookup => do return .lookup (.ofString (← c.get? .file)) (← line? (← c.get? .line))

/-- Reads the words of a command line. -/
def readArguments (words : List String) : Except Stop Invocation := do
  let (outer, l, inner) ← readWords (.empty .root) words
  let value (s : Slot) := inner.get? s <|> outer.get? s
  match commandOf l inner with
  | none => .error .malformed
  | some command =>
    return { config := (value .config).map Path.ofString, logFilter := value .logFilter, command }

end DocSignature.CommandLine
