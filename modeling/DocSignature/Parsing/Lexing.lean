import DocSignature.Parsing.Scanner
import DocSignature.Parsing.Stack

/-!
# Reading tokens

The next token comes from the scanner or, if that finds none, from the lexer in the mode of the
current state.  If neither finds one, everything that error recovery knows is tried, and characters
that begin no token at all are skipped and become an error.
-/

set_option autoImplicit false

namespace DocSignature.Parsing

open DocSignature.Grammar

/-- What a run of the lexer found, and how far it read. -/
structure LexRun where
  /-- The symbol of the token and where it ends. -/
  found : Option (Nat × Position)
  /-- Where the token starts. -/
  start : Position
  /-- How far the lexer has read. -/
  reached : Position

/-- The place from which tokens are read: a byte order mark at the start of a text is passed over. -/
def readingStart (text : Text) (p : Position) : Position :=
  if p.byte = 0 && text[p.index]? == some '\uFEFF' then text.next p else p

/-- Runs the lexer from one of its states; `run` holds what was found so far. -/
def runLexerFrom (table : Table) (text : Text) : Nat → Nat → LexRun → LexRun
  | 0, _, run => run
  | fuel + 1, state, run =>
    let s := table.lexer.states.getD state default
    let run := if s.accept = 0 then run else { run with found := some (s.accept - 1, run.reached) }
    match text[run.reached.index]? with
    | none => if s.endAllowed then { run with found := some (table.eof, run.reached) } else run
    | some c =>
      let code := s.next.getD (table.lexer.alphabet.classOf c.toNat) 0
      if code = 0 then run
      else
        let reached := run.reached.after c
        let start := if code % 2 = 0 then reached else run.start
        runLexerFrom table text fuel ((code - 1) / 2) { run with start, reached }

/-- Runs the lexer from a place in the text. -/
def runLexer (table : Table) (text : Text) (mode : Nat) (from_ : Position) : LexRun :=
  let p := readingStart text from_
  runLexerFrom table text (text.size + 2 - p.index) mode ⟨none, p, p⟩

/-- A token that was read once and may be wanted again. -/
structure CachedToken (σ : Type) where
  byte : Nat
  scanned : Option σ
  token : Tree σ

/-- Everything that changes while a text is parsed. -/
structure Machine (σ : Type) where
  stack : Stack σ := .initial
  /-- The best complete reading so far. -/
  finished : Option (Tree σ) := none
  /-- How many complete readings there have been. -/
  accepted : Nat := 0
  cached : Option (CachedToken σ) := none
  /-- The memory of the scanner as its last run left it. -/
  memory : σ

/-- What stays the same while a text is parsed. -/
structure Setting (σ : Type) where
  table : Table
  scanner : Scanner σ
  text : Text

variable {σ : Type} [BEq σ]

/-- A token of the scanner, with the memory to keep. -/
structure ScanHit (σ : Type) where
  symbol : Nat
  start : Position
  stop : Position
  saved : σ
  changed : Bool

/-- Asks the scanner for a token at a place.  An empty token that changes nothing is not taken during
recovery, nor where it could come again and again. -/
def askScanner (k : Setting σ) (m : Machine σ) (version state : Nat) (errorMode : Bool)
    (at_ : Position) : Option (ScanHit σ) × σ :=
  let valid := k.table.scannedIn.getD (if errorMode then 0 else state) .empty
  let last := (m.stack.head version).scanned
  let memory := k.scanner.restore m.memory last
  let (found, memory) := k.scanner.scan k.text valid (readingStart k.text at_) memory
  match found with
  | none => (none, memory)
  | some f =>
    let saved := k.scanner.save memory
    let changed := !(last == some saved)
    let symbol := k.table.scanned.getD f.token 0
    let start := if f.stop.byte < f.start.byte then f.stop else f.start
    let empty := f.stop.byte ≤ at_.byte && !changed
    if empty && (errorMode || !m.stack.hasAdvanced version ||
        (k.table.nextState state symbol).getD 0 == state) then (none, memory)
    else (some ⟨symbol, start, f.stop, saved, changed⟩, memory)

/-- A token as a tree. -/
def leaf (table : Table) (symbol : Nat) (start stop : Position) (readIn : Nat) : Tree σ :=
  .node { symbol, start, stop, readIn, visible := Tree.showsSymbol table symbol,
          extra := symbol == table.eof } #[]

/-- A word that is a keyword in the given state becomes that keyword. -/
def leafOfLexer (k : Setting σ) (state symbol : Nat) (start stop : Position) : Tree σ :=
  if symbol = k.table.word then
    match (runLexer k.table k.text k.table.lexer.keywordMode start).found with
    | some (keyword, end_) =>
      let symbol := if end_.byte = stop.byte && k.table.knows state keyword then keyword else symbol
      (leaf k.table symbol start stop state).withInfo ({ · with keyword := true })
    | none => leaf k.table symbol start stop state
  else leaf k.table symbol start stop state

/-- Looks for a token from a place on.  `skipped` is the stretch of text that begins no token. -/
def readFrom (k : Setting σ) (version state : Nat) :
    Nat → Machine σ → Bool → Option (Position × Position) → Position → Machine σ × Tree σ
  | 0, m, _, _, at_ => (m, leaf k.table errorSymbol at_ at_ state)
  | fuel + 1, m, errorMode, skipped, at_ =>
    let (hit, memory) := askScanner k m version state errorMode at_
    let m := { m with memory }
    match hit, skipped with
    | some _, some (a, b) => (m, leaf k.table errorSymbol a b state)
    | some h, none =>
      (m, (leaf k.table h.symbol h.start h.stop state).withInfo fun i =>
        { i with scanned := some h.saved, scanChanged := h.changed })
    | none, _ =>
      let mode := k.table.lexer.modes.getD (if errorMode then 0 else state) 0
      let run := runLexer k.table k.text mode at_
      match run.found, skipped with
      | some _, some (a, b) => (m, leaf k.table errorSymbol a b state)
      | some (symbol, stop), none => (m, leafOfLexer k state symbol run.start stop)
      | none, _ =>
        if !errorMode then readFrom k version state fuel m true none (m.stack.positionOf version)
        else
          let (a, b) := skipped.getD (run.start, run.start)
          if run.reached.byte = b.byte then
            if run.reached.index ≥ k.text.size then (m, leaf k.table errorSymbol a b state)
            else
              let next := k.text.next run.reached
              readFrom k version state fuel m true (some (a, next)) next
          else readFrom k version state fuel m true (some (a, run.reached)) run.reached

/-- Reads the next token for a version in a state. -/
def readToken (k : Setting σ) (m : Machine σ) (version state : Nat) : Machine σ × Tree σ :=
  let p := m.stack.positionOf version
  readFrom k version state (2 * k.text.size + 10) m (state == 0) none p

/-- The token read last, if a version in a state can use it: it was read at this place with the same
scanner memory, in a state of the same mode, and is not a word that could be a keyword here. -/
def cachedToken (k : Setting σ) (m : Machine σ) (version state : Nat) : Option (Tree σ) :=
  match m.cached with
  | none => none
  | some c =>
    let i := c.token.info
    let t := k.table
    if c.byte == (m.stack.positionOf version).byte &&
        c.scanned == (m.stack.head version).scanned && t.knows state i.symbol &&
        t.lexer.modes.getD i.readIn 0 == t.lexer.modes.getD state 0 &&
        t.scannedIn.getD i.readIn .empty == t.scannedIn.getD state .empty &&
        (i.symbol != t.word || (!i.keyword && i.readIn == state)) then some c.token
    else none

end DocSignature.Parsing
