import DocSignature.Grammar.CharSet

/-!
# Patterns and tokens

A pattern is a regular expression over characters.  A token is a pattern together with what decides
between two tokens that match at one place: its precedence, and whether it may follow blanks.
-/

set_option autoImplicit false

namespace DocSignature.Grammar

/-- A regular expression. -/
inductive Pattern where
  /-- Matches the empty text. -/
  | empty
  /-- Matches one character of a set. -/
  | chars (set : CharSet)
  /-- Matches the first pattern and then the second. -/
  | seq (first second : Pattern)
  /-- Matches either pattern. -/
  | alt (left right : Pattern)
  /-- Matches one or more times. -/
  | plus (body : Pattern)
deriving BEq, Inhabited

namespace Pattern

/-- Matches exactly this text. -/
def text (s : String) : Pattern :=
  s.toList.foldr (fun c rest => .seq (.chars (.single c)) rest) .empty

/-- Matches all patterns in order. -/
def all (ps : List Pattern) : Pattern := ps.foldr .seq .empty

/-- Matches any one of the patterns; no pattern means nothing is matched. -/
def any : List Pattern → Pattern
  | [] => .chars .empty
  | [p] => p
  | p :: ps => .alt p (any ps)

/-- Matches the pattern or nothing. -/
def optional (p : Pattern) : Pattern := .alt p .empty

/-- Matches any number of times. -/
def star (p : Pattern) : Pattern := .alt (.plus p) .empty

/-- Matches exactly `n` times. -/
def times (n : Nat) (p : Pattern) : Pattern := all (List.replicate n p)

/-- Matches one character of the given ranges. -/
def oneOf (rs : List (Char × Char)) : Pattern :=
  .chars (.ofRanges (rs.map fun r => (r.1.toNat, r.2.toNat)))

/-- Matches one character other than those of the text. -/
def noneOf (s : String) : Pattern := .chars (CharSet.ofString s).complement

end Pattern

/-- What a token matches and how it competes with other tokens. -/
structure TokenSpec where
  /-- The fixed text of the token, if it has one. -/
  literal : Option String
  /-- What the token matches. -/
  pattern : Pattern
  /-- Between tokens that match at one place the higher precedence wins. -/
  precedence : Int := 0
  /-- An immediate token matches only right where the last token ended. -/
  immediate : Bool := false
deriving BEq, Inhabited

namespace TokenSpec

/-- The token that is one fixed text. -/
def ofText (s : String) : TokenSpec := { literal := some s, pattern := .text s }

/-- The token that is a pattern. -/
def ofPattern (p : Pattern) : TokenSpec := { literal := none, pattern := p }

/-- How strongly the form of a token counts when precedences are equal: fixed texts before patterns,
and immediate tokens before others of their form. -/
def formWeight (t : TokenSpec) : Nat :=
  (if t.literal.isSome then 2 else 0) + (if t.immediate then 1 else 0)

end TokenSpec

end DocSignature.Grammar
