/-!
# Sets of characters

A character set is kept as closed ranges of code points in increasing order, with a gap between any
two of them.  The operations below keep that form, so two sets with the same members are equal as
values.
-/

set_option autoImplicit false

namespace DocSignature.Grammar

/-- A set of characters as closed, separated, increasing ranges of code points. -/
structure CharSet where
  /-- The first and last code point of each range. -/
  ranges : Array (Nat × Nat)
deriving BEq, Inhabited

namespace CharSet

/-- The greatest code point. -/
def lastCode : Nat := 0x10FFFF

/-- The set without members. -/
def empty : CharSet := ⟨#[]⟩

/-- All code points from `a` to `b`. -/
def range (a b : Nat) : CharSet := ⟨#[(a, b)]⟩

/-- The set of one character. -/
def single (c : Char) : CharSet := range c.toNat c.toNat

/-- Appends a range to sorted ranges, joining it to the last one where they meet. -/
def joinLast (out : Array (Nat × Nat)) (r : Nat × Nat) : Array (Nat × Nat) :=
  match out.back? with
  | none => #[r]
  | some last => if r.1 ≤ last.2 + 1 then out.pop.push (last.1, max last.2 r.2) else out.push r

/-- The set of all code points of the given ranges, which may overlap and come in any order. -/
def ofRanges (rs : List (Nat × Nat)) : CharSet :=
  ⟨(rs.mergeSort (fun a b => a.1 ≤ b.1)).foldl joinLast #[]⟩

/-- The set of the characters of a text. -/
def ofString (s : String) : CharSet :=
  ofRanges (s.toList.map fun c => (c.toNat, c.toNat))

/-- The code points above NUL outside the set.  NUL stands for "no character" in complements, so no
complement holds it. -/
def complement (a : CharSet) : CharSet :=
  let step := fun (acc : Array (Nat × Nat) × Nat) (r : Nat × Nat) =>
    (if acc.2 < r.1 then acc.1.push (acc.2, r.1 - 1) else acc.1, max acc.2 (r.2 + 1))
  let (out, next) := a.ranges.foldl step (#[], 1)
  ⟨if next ≤ lastCode then out.push (next, lastCode) else out⟩

/-- Whether a code point is a member. -/
def contains (a : CharSet) (n : Nat) : Bool :=
  a.ranges.any fun r => r.1 ≤ n && n ≤ r.2

end CharSet

end DocSignature.Grammar
