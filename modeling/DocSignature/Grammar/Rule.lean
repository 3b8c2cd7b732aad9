import DocSignature.Grammar.Pattern

/-!
# Grammars

A grammar is a list of named rules over tokens, with the remarks that a parser generator needs
beside them: which tokens may stand anywhere, which tokens come from a hand-written scanner, which
rules make no node of their own, and how conflicts are to be settled.
-/

set_option autoImplicit false

namespace DocSignature.Grammar

/-- Which of two nestings an operator of one precedence takes. -/
inductive Associativity where
  | left
  | right
deriving BEq, DecidableEq, Inhabited, Repr

/-- Another name for a node. -/
structure Alias where
  /-- The name shown. -/
  name : String
  /-- Whether the node counts as named. -/
  named : Bool
deriving BEq, DecidableEq, Inhabited, Repr

/-- The right-hand side of a rule. -/
inductive Rule where
  /-- Matches nothing. -/
  | blank
  /-- Matches one token. -/
  | token (spec : TokenSpec)
  /-- Refers to a rule or to a scanned token by name. -/
  | ref (name : String)
  /-- Matches all members in order. -/
  | seq (members : List Rule)
  /-- Matches one of the members. -/
  | choice (members : List Rule)
  /-- Matches the body one or more times. -/
  | many1 (body : Rule)
  /-- Settles conflicts inside the body by a level and a side. -/
  | prec (level : Int) (side : Option Associativity) (body : Rule)
  /-- Weighs the body against other readings that are still possible when parsing. -/
  | dynamicPrec (level : Int) (body : Rule)
  /-- Shows the body under another name. -/
  | renamed (name : Alias) (body : Rule)
  /-- Gives the body a role in its parent. -/
  | field (name : String) (body : Rule)
deriving BEq, Inhabited

namespace Rule

/-- Adds the members of nested choices one by one, leaving out repetitions. -/
def addAlternatives (out : List Rule) : List Rule → List Rule
  | [] => out
  | .choice inner :: rest => addAlternatives (addAlternatives out inner) rest
  | r :: rest => addAlternatives (if out.contains r then out else out ++ [r]) rest

/-- One of the rules; nested choices are flattened and repetitions dropped. -/
def anyOf (rs : List Rule) : Rule := .choice (addAlternatives [] rs)

/-- The rule or nothing. -/
def optional (r : Rule) : Rule := anyOf [r, .blank]

/-- The rule any number of times. -/
def many (r : Rule) : Rule := anyOf [.many1 r, .blank]

/-- One or more of the rule with a separator in between. -/
def sepBy1 (r separator : Rule) : Rule := .seq [r, many (.seq [separator, r])]

end Rule

/-- A token that a hand-written scanner delivers. -/
inductive ScannedToken where
  /-- A token of its own. -/
  | own (name : String)
  /-- A token that the grammar also has under this rule name. -/
  | ofRule (name : String)
  /-- A token that the grammar also has as this fixed text. -/
  | ofText (text : String)
deriving BEq, Inhabited

/-- A grammar as it is described.  The first rule is the start rule. -/
structure Description where
  /-- The rules in order. -/
  rules : List (String × Rule)
  /-- Names of the rules, each a single token, that may stand between any two tokens. -/
  extras : List String
  /-- What may stand before a token without being part of it. -/
  blanks : Pattern
  /-- The tokens of the scanner, in the order in which it knows them. -/
  scanned : List ScannedToken
  /-- Rules that are replaced by their alternatives wherever they occur. -/
  inlined : List String
  /-- Rules that stand for one of several kinds of node and make none themselves. -/
  supertypes : List String
  /-- The rule of the token that keywords are special cases of. -/
  word : String

end DocSignature.Grammar
