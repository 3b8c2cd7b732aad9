/-!
# Line spans

A syntax node occupies a stretch of lines.  Lines count from one, and both ends belong to the span.
-/

set_option autoImplicit false

namespace DocSignature.Syntax

/-- An inclusive stretch of lines, counted from one. -/
structure LineSpan where
  start : Nat
  stop : Nat
deriving DecidableEq, Inhabited, Repr

namespace LineSpan

/-- The lines of a range that starts in `startRow` and ends before `endColumn` of `endRow`, rows
counted from zero (`from_rows`).  A range that ends at the very start of a later row does not reach
into it. -/
def ofRows (startRow endRow endColumn : Nat) : LineSpan :=
  let lastRow := if endColumn = 0 ∧ startRow < endRow then endRow - 1 else endRow
  ⟨startRow + 1, lastRow + 1⟩

/-- Whether a line belongs to a span. -/
def contains (span : LineSpan) (line : Nat) : Bool :=
  decide (span.start ≤ line ∧ line ≤ span.stop)

end LineSpan

end DocSignature.Syntax
