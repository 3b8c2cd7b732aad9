import DocSignature.Grammar.TokenSet
import DocSignature.Parsing.Position

/-!
# Scanners

A scanner delivers tokens that depend on more than the text at hand.  What it remembers from one
token to the next is a value of its own type, kept with the tokens.
-/

set_option autoImplicit false

namespace DocSignature.Parsing

open DocSignature.Grammar

/-- A token that a scanner has found, by its place in the scanner's order. -/
structure ScannedText where
  token : Nat
  start : Position
  stop : Position

/-- A scanner whose memory is of type `σ`. -/
structure Scanner (σ : Type) where
  /-- The memory at the start of a parse. -/
  initial : σ
  /-- The memory with which to go on after the token that left `saved`, if there is one; the first
  argument is the memory at hand. -/
  restore : σ → Option σ → σ
  /-- Looks for one of the valid tokens. -/
  scan : Text → TokenSet → Position → σ → Option ScannedText × σ
  /-- The memory as it is kept with a token. -/
  save : σ → σ

end DocSignature.Parsing
