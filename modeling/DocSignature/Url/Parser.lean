import DocSignature.Url.Basic
import DocSignature.Url.Host

/-!
# Reading URLs

`Url.parse?` reads an absolute URL and brings it into one spelling: blanks around it and line breaks
in it go, the scheme and the host become lower-case, dots in the path are resolved, and characters
that a part cannot hold are percent-encoded.
-/

set_option autoImplicit false

namespace DocSignature.Url

variable [DomainNames]

/-- The families of schemes, which differ in how they are read. -/
inductive SchemeKind where
  | file
  /-- A scheme of the web, whose URLs always have a host. -/
  | special
  | other
deriving DecidableEq, Inhabited, Repr

/-- The family of a scheme. -/
def schemeKind (scheme : String) : SchemeKind :=
  if scheme = "file" then .file
  else if ["http", "https", "ws", "wss", "ftp"].contains scheme then .special
  else .other

/-- The usual port of a scheme. -/
def defaultPort? : String → Option Nat
  | "http" | "ws" => some 80
  | "https" | "wss" => some 443
  | "ftp" => some 21
  | _ => none

/-- Whether URLs of a family may be written with backslashes for slashes. -/
def SchemeKind.isSpecial (k : SchemeKind) : Bool := k != .other

/-- Whether a character divides the parts of a path. -/
def isSeparator (k : SchemeKind) (c : Char) : Bool :=
  c == '/' || (k.isSpecial && c == '\\')

/-- Whether a character ends the path. -/
def endsPath (c : Char) : Bool := c == '?' || c == '#'

/-! ## Paths -/

/-- The spellings of one dot. -/
def isSingleDot (s : List Char) : Bool :=
  [".", "%2e", "%2E"].any (·.toList == s)

/-- The spellings of two dots. -/
def isDoubleDot (s : List Char) : Bool :=
  ["..", "%2e%2e", "%2e%2E", "%2E%2e", "%2E%2E", "%2e.", "%2E.", ".%2e", ".%2E"].any (·.toList == s)

/-- Whether a character marks the letter before it as a drive. -/
def isDriveMark (c : Char) : Bool := c == ':' || c == '|'

/-- Whether a segment is a drive letter with its mark (`is_windows_drive_letter`). -/
def isDriveLetter : List Char → Bool
  | [c, mark] => c.isAlpha && isDriveMark mark
  | _ => false

/-- A segment as it is kept after those that are done.  The drive letter that starts the path of a
file URL gets a colon for its mark. -/
def keptSegment (k : SchemeKind) (done : List (List Char)) (s : List Char) : List Char :=
  if k == .file && done.isEmpty && isDriveLetter s then s.take 1 ++ [':'] else s

/-- Goes up one segment; a drive letter is not left (`shorten_path`). -/
def popSegment : List (List Char) → List (List Char)
  | [] => []
  | s :: rest => if isDriveLetter s then s :: rest else rest

/-- Resolves dots in the segments of a path.  The segments done come last first, and the result ends
with the segment after the last slash. -/
def resolveDots (k : SchemeKind) (done : List (List Char)) : List (List Char) → List (List Char)
  | [] => ([] :: done).reverse
  | [last] =>
    if isDoubleDot last then ([] :: popSegment done).reverse
    else if isSingleDot last then ([] :: done).reverse
    else (keptSegment k done last :: done).reverse
  | s :: rest =>
    if isDoubleDot s then resolveDots k (popSegment done) rest
    else if isSingleDot s then resolveDots k done rest
    else resolveDots k (keptSegment k done s :: done) rest

/-- The segments of a path as they are kept, after those that are done before it. -/
def pathSegments (k : SchemeKind) (done : List (List Char)) (cs : List Char) : List (List Char) :=
  let body := match cs with
    | c :: rest => if isSeparator k c then rest else cs
    | [] => []
  resolveDots k done ((splitAll (isSeparator k) body).map (encodeChars pathSet))

/-- A path that starts with a slash.  In a file URL no other slash follows the first. -/
def pathText (k : SchemeKind) (segments : List (List Char)) : String :=
  let body := ['/'].intercalate segments
  String.ofList ('/' :: (if k == .file then body.dropWhile (· == '/') else body))

/-! ## Query and fragment -/

/-- Reads what follows the path. -/
def readTail (u : Url) (k : SchemeKind) (cs : List Char) : Url :=
  let fragmentOf (cs : List Char) : Option String :=
    match cs with
    | '#' :: rest => some (String.ofList (encodeChars fragmentSet rest))
    | _ => none
  match cs with
  | '?' :: rest =>
    let set := if k.isSpecial then specialQuerySet else querySet
    { u with
      query := some (String.ofList (encodeChars set (rest.takeWhile (· != '#'))))
      fragment := fragmentOf (rest.dropWhile (· != '#')) }
  | _ => { u with fragment := fragmentOf cs }

/-! ## Authorities -/

/-- The user name and password before the last `@` of an authority. -/
def userinfoText (cs : List Char) : Option String :=
  let name := cs.takeWhile (· != ':')
  let password := (cs.dropWhile (· != ':')).drop 1
  let encoded (cs : List Char) := String.ofList (encodeChars userinfoSet cs)
  if password.isEmpty then
    if name.isEmpty then none else some (encoded name)
  else some (encoded name ++ ":" ++ encoded password)

/-- The length of the host at the start of some characters: it ends at a colon outside brackets. -/
def hostLength (inBrackets : Bool) : List Char → Nat
  | [] => 0
  | c :: rest =>
    if c = ':' ∧ !inBrackets then 0
    else if c = '[' then 1 + hostLength true rest
    else if c = ']' then 1 + hostLength false rest
    else 1 + hostLength inBrackets rest

/-- Reads a port; no digits mean no port. -/
def readPort? (cs : List Char) : Option (Option Nat) :=
  if cs.all Char.isDigit then
    let n := Text.digitsValue cs
    if cs.isEmpty then some none
    else if n < 65536 then some (some n)
    else none
  else none

/-- Reads an authority. -/
def readAuthority? (scheme : String) (k : SchemeKind) (cs : List Char) : Option Authority := do
  let afterLast := (cs.reverse.takeWhile (· != '@')).reverse
  let before := cs.take (cs.length - afterLast.length - 1)
  let hasUserinfo := cs.contains '@'
  let userinfo := if hasUserinfo then userinfoText before else none
  let hostChars := afterLast.take (hostLength false afterLast)
  let rest := afterLast.drop hostChars.length
  if k.isSpecial && hostChars.isEmpty then none
  let host ← if k.isSpecial then host? hostChars else opaqueHost? hostChars
  if host.isEmpty && (userinfo.isSome || rest.head? == some ':') then none
  if hasUserinfo && before.isEmpty && afterLast.isEmpty then none
  let port ← match rest with
    | ':' :: digits => readPort? digits
    | _ => some none
  return { userinfo, host, port := if port == defaultPort? scheme then none else port }

/-! ## Whole URLs -/

/-- Reads what follows two slashes. -/
def readAfterSlashes? (scheme : String) (k : SchemeKind) (cs : List Char) : Option Url := do
  let ends (c : Char) := isSeparator k c || endsPath c
  let authority ← readAuthority? scheme k (cs.takeWhile (!ends ·))
  let rest := cs.dropWhile (!ends ·)
  let body := rest.takeWhile (!endsPath ·)
  let path := if k == .other && body.isEmpty then "" else pathText k (pathSegments k [] body)
  return readTail { scheme, authority := some authority, path } k (rest.dropWhile (!endsPath ·))

/-- A file URL with a host and a path, which comes after the segments that are done.  Before a drive
letter the host goes. -/
def fileUrl (host : String) (done : List (List Char)) (cs : List Char) : Url :=
  let segments := pathSegments .file done (cs.takeWhile (!endsPath ·))
  let host := if segments.head?.any isDriveLetter then "" else host
  readTail { scheme := "file", authority := some { host }, path := pathText .file segments } .file
    (cs.dropWhile (!endsPath ·))

/-- Reads a file URL after its scheme (`parse_file`).  Where two slashes come without a host, or
with `localhost`, the slash before the path is read as one more empty segment.  A drive letter after
it is therefore not the first segment: `file:///c|/x` keeps its bar where `file:/c|/x` gets a
colon. -/
def readFile? (cs : List Char) : Option Url :=
  match cs with
  | a :: b :: rest =>
    if isSeparator .file a && isSeparator .file b then
      let ends (c : Char) := isSeparator .file c || endsPath c
      let hostChars := rest.takeWhile (!ends ·)
      if isDriveLetter hostChars then some (fileUrl "" [] rest)
      else if hostChars.isEmpty then some (fileUrl "" [[]] rest)
      else do
        let host ← host? hostChars
        let rest := rest.dropWhile (!ends ·)
        return if host = "localhost" then fileUrl "" [[]] rest else fileUrl host [] rest
    else some (fileUrl "" [] cs)
  | _ => some (fileUrl "" [] cs)

/-- Reads a URL with a scheme of no known family after the scheme. -/
def readOther? (scheme : String) (cs : List Char) : Option Url :=
  match cs with
  | '/' :: '/' :: rest => readAfterSlashes? scheme .other rest
  | _ =>
    let body := cs.takeWhile (!endsPath ·)
    let path := match body with
      | '/' :: _ => pathText .other (pathSegments .other [] body)
      | _ => String.ofList (encodeChars controlSet body)
    some (readTail { scheme, path } .other (cs.dropWhile (!endsPath ·)))

/-- Reads a scheme and its colon. -/
def readScheme? (cs : List Char) : Option (String × List Char) :=
  let isSchemeChar (c : Char) := c.isAlphanum || c == '+' || c == '-' || c == '.'
  let name := cs.takeWhile isSchemeChar
  match name, cs.dropWhile isSchemeChar with
  | first :: _, ':' :: rest =>
    if first.isAlpha then some (String.ofList (name.map Char.toLower), rest) else none
  | _, _ => none

/-- Whether a character is left out at the ends of a URL. -/
def isEdge (c : Char) : Bool := c.toNat ≤ 32

/-- Whether a character is left out everywhere in a URL. -/
def isBreak (c : Char) : Bool := c == '\t' || c == '\n' || c == '\r'

/-- The characters of a URL that count. -/
def cleaned (s : String) : List Char :=
  (((s.toList.dropWhile isEdge).reverse.dropWhile isEdge).reverse).filter (!isBreak ·)

/-- Reads an absolute URL (`parse`). -/
def parse? (s : String) : Option Url := do
  let (scheme, rest) ← readScheme? (cleaned s)
  match schemeKind scheme with
  | .file => readFile? rest
  | .special => readAfterSlashes? scheme .special (rest.dropWhile (isSeparator .special))
  | .other => readOther? scheme rest

end DocSignature.Url
