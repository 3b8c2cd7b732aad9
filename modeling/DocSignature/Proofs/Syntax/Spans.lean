import DocSignature.Proofs.Syntax.Paths
import Mathlib.Order.Bounds.Basic

/-!
# Ranges and the lines they occupy

A node of a concrete tree has a range, from its start up to but not including its stop.  The lines
of a range that is not empty (`from_rows`) are exactly the rows on which it has a place, so a range
inside another one occupies lines of that one, and a range after another one shares a line with it
just if it starts on the last row of that one.  Where every node lies inside its parent, the whole
of a subtree lies inside its root.
-/

set_option autoImplicit false

namespace DocSignature.Syntax

namespace Point

instance (a b : Point) : Decidable (a.before b) :=
  inferInstanceAs (Decidable (a.row < b.row ∨ (a.row = b.row ∧ a.column < b.column)))

/-- A place is not before itself. -/
theorem not_before_self (a : Point) : ¬ a.before a := by
  unfold before
  omega

/-- Of three places in a row the first is not after the last. -/
theorem not_before_trans {a b c : Point} (hab : ¬ b.before a) (hbc : ¬ c.before b) :
    ¬ c.before a := by
  unfold before at *
  omega

/-- What is before a place is before every place not before that one. -/
theorem before_of_before_of_not_before {a b c : Point} (hab : a.before b) (hbc : ¬ c.before b) :
    a.before c := by
  unfold before at *
  omega

end Point

/-- The lines of a span lie between its ends. -/
theorem LineSpan.contains_iff (span : LineSpan) (line : Nat) :
    span.contains line ↔ span.start ≤ line ∧ line ≤ span.stop :=
  decide_eq_true_iff

/-- The lines of a range that is not empty are the rows on which it has a place. -/
theorem LineSpan.contains_ofRows_iff {start stop : Point} (h : start.before stop) (line : Nat) :
    (LineSpan.ofRows start.row stop.row stop.column).contains line ↔
      ∃ row column, line = row + 1 ∧ ¬ (Point.mk row column).before start ∧
        (Point.mk row column).before stop := by
  unfold Point.before at h
  rw [contains_iff]
  simp only [ofRows, Point.before]
  constructor
  · rintro ⟨hstart, hstop⟩
    by_cases hfirst : line = start.row + 1
    · exact ⟨start.row, start.column, hfirst, by omega, by omega⟩
    · -- a later row is occupied from its very beginning
      refine ⟨line - 1, 0, by omega, by omega, ?_⟩
      split at hstop <;> omega
  · rintro ⟨row, column, rfl, hstart, hstop⟩
    split <;> omega

/-- The rows on which a range has a place. -/
def occupiedRows (start stop : Point) : Set Nat :=
  {row | ∃ column, ¬ (Point.mk row column).before start ∧ (Point.mk row column).before stop}

/-- Two spans have a line in common. -/
def LineSpan.Overlaps (a b : LineSpan) : Prop :=
  ∃ line, a.contains line ∧ b.contains line

section

variable {start stop start' stop' : Point}

/-- The lines of a range are the rows that it occupies, counted from one. -/
theorem LineSpan.contains_ofRows_iff_mem (h : start.before stop) (line : Nat) :
    (LineSpan.ofRows start.row stop.row stop.column).contains line ↔
      1 ≤ line ∧ line - 1 ∈ occupiedRows start stop := by
  rw [contains_ofRows_iff h]
  constructor
  · rintro ⟨row, column, rfl, hplace⟩
    exact ⟨Nat.le_add_left 1 row, column, hplace⟩
  · rintro ⟨hline, column, hplace⟩
    exact ⟨line - 1, column, by omega, hplace⟩

/-- A range inside another occupies rows of the other only. -/
theorem occupiedRows_subset (hstart : ¬ start'.before start) (hstop : ¬ stop.before stop') :
    occupiedRows start' stop' ⊆ occupiedRows start stop := by
  rintro row ⟨column, hfrom, hto⟩
  exact ⟨column, Point.not_before_trans hstart hfrom,
    Point.before_of_before_of_not_before hto hstop⟩

/-- The first row occupied is that of the start. -/
theorem isLeast_occupiedRows (h : start.before stop) :
    IsLeast (occupiedRows start stop) start.row := by
  constructor
  · exact ⟨start.column, start.not_before_self, h⟩
  · rintro row ⟨column, hfrom, -⟩
    simp only [Point.before] at hfrom
    omega

/-- The lines of a range that is not empty run forwards. -/
theorem LineSpan.start_le_stop_ofRows (h : start.before stop) :
    (LineSpan.ofRows start.row stop.row stop.column).start ≤
      (LineSpan.ofRows start.row stop.row stop.column).stop := by
  have hfirst := (contains_ofRows_iff_mem h (start.row + 1)).2
    ⟨Nat.le_add_left 1 start.row, (isLeast_occupiedRows h).1⟩
  rw [contains_iff] at hfirst
  exact hfirst.1.trans hfirst.2

/-- The last row that a range occupies is that of its last line. -/
theorem isGreatest_occupiedRows (h : start.before stop) :
    IsGreatest (occupiedRows start stop)
      ((LineSpan.ofRows start.row stop.row stop.column).stop - 1) := by
  have hlines := LineSpan.contains_ofRows_iff_mem h
  simp only [LineSpan.contains_iff] at hlines
  constructor
  · exact ((hlines _).1 ⟨LineSpan.start_le_stop_ofRows h, le_rfl⟩).2
  · intro row hrow
    have hline := (hlines (row + 1)).2 ⟨Nat.le_add_left 1 row, hrow⟩
    exact Nat.le_sub_one_of_lt hline.2

/-- The rows of a range inside another one are among those of the other one, so its first line is
not before the first one there and its last line not after the last one. -/
theorem LineSpan.ofRows_within (h : start.before stop) (h' : start'.before stop')
    (hstart : ¬ start'.before start) (hstop : ¬ stop.before stop') :
    (LineSpan.ofRows start.row stop.row stop.column).start ≤
        (LineSpan.ofRows start'.row stop'.row stop'.column).start ∧
      (LineSpan.ofRows start'.row stop'.row stop'.column).stop ≤
        (LineSpan.ofRows start.row stop.row stop.column).stop := by
  have hsubset := occupiedRows_subset hstart hstop
  have hfirst := (isLeast_occupiedRows h').mono (isLeast_occupiedRows h) hsubset
  have hlast := (isGreatest_occupiedRows h').mono (isGreatest_occupiedRows h) hsubset
  have hpos : 1 ≤ (LineSpan.ofRows start.row stop.row stop.column).stop :=
    (Nat.le_add_left 1 start.row).trans (start_le_stop_ofRows h)
  exact ⟨Nat.add_le_add_right hfirst 1, by omega⟩

/-- A range occupies no row after the one on which a later range starts. -/
theorem mem_upperBounds_occupiedRows (h : ¬ start'.before stop) :
    start'.row ∈ upperBounds (occupiedRows start stop) := by
  rintro row ⟨column, -, hto⟩
  simp only [Point.before] at h hto
  omega

/-- Of two ranges one after the other the lines overlap just if the later one starts on the last row
of the earlier one. -/
theorem LineSpan.overlaps_ofRows_iff (h : start.before stop) (h' : start'.before stop')
    (hafter : ¬ start'.before stop) :
    (LineSpan.ofRows start.row stop.row stop.column).Overlaps
        (LineSpan.ofRows start'.row stop'.row stop'.column) ↔
      IsGreatest (occupiedRows start stop) start'.row := by
  have hupper : start'.row ∈ upperBounds (occupiedRows start stop) :=
    mem_upperBounds_occupiedRows hafter
  have hlower := isLeast_occupiedRows h'
  constructor
  · rintro ⟨line, hline, hline'⟩
    obtain ⟨-, hrow⟩ := (contains_ofRows_iff_mem h line).1 hline
    obtain ⟨-, hrow'⟩ := (contains_ofRows_iff_mem h' line).1 hline'
    -- a row of both is not after the start of the later range, and not before it
    have heq : line - 1 = start'.row := le_antisymm (hupper hrow) (hlower.2 hrow')
    exact ⟨heq ▸ hrow, hupper⟩
  · intro hlast
    refine ⟨start'.row + 1, ?_, ?_⟩
    · exact (contains_ofRows_iff_mem h _).2 ⟨Nat.le_add_left 1 _, hlast.1⟩
    · exact (contains_ofRows_iff_mem h' _).2 ⟨Nat.le_add_left 1 _, hlower.1⟩

end

/-- The lines of a range that is not empty are the rows that it occupies, counted from one.  There
is a first and a last line; a range inside it has its lines between these; and a range after it
shares a line with it just if that range starts on the last row that it occupies. -/
theorem lines_are_occupied_rows (start stop : Point) (h : start.before stop) :
    let span := LineSpan.ofRows start.row stop.row stop.column
    1 ≤ span.start ∧ span.start ≤ span.stop ∧
    (∀ line, span.contains line ↔ 1 ≤ line ∧ ∃ column,
      ¬ (Point.mk (line - 1) column).before start ∧ (Point.mk (line - 1) column).before stop) ∧
    ∀ start' stop' : Point, start'.before stop' →
      let span' := LineSpan.ofRows start'.row stop'.row stop'.column
      (¬ start'.before start → ¬ stop.before stop' →
        span.start ≤ span'.start ∧ span'.stop ≤ span.stop) ∧
      (¬ start'.before stop →
        (span.Overlaps span' ↔ IsGreatest (occupiedRows start stop) start'.row)) := by
  intro span
  refine ⟨Nat.le_add_left 1 start.row, LineSpan.start_le_stop_ofRows h,
    LineSpan.contains_ofRows_iff_mem h, ?_⟩
  intro start' stop' h' span'
  constructor
  · intro hstart hstop
    exact LineSpan.ofRows_within h h' hstart hstop
  · intro hafter
    exact LineSpan.overlaps_ofRows_iff h h' hafter

/-- A range that ends at the very start of row five has its last line before that row, a range
inside it may end there too, and a range from there on shares no line with it.  Had it gone on by a
column, it would share one. -/
theorem range_ending_at_row_start_lines :
    let span := LineSpan.ofRows 2 5 0
    (Point.mk 2 4).before ⟨5, 0⟩ ∧ span.contains 5 ∧ ¬ span.contains 6 ∧
      (LineSpan.ofRows 4 5 0).stop ≤ span.stop ∧ ¬ span.Overlaps (.ofRows 5 5 7) ∧
      (LineSpan.ofRows 2 5 1).Overlaps (.ofRows 5 7 0) := by
  intro span
  have h : (Point.mk 2 4).before ⟨5, 0⟩ := by decide
  have hlonger : (Point.mk 2 4).before ⟨5, 1⟩ := by decide
  obtain ⟨-, -, hlines, hother⟩ := lines_are_occupied_rows ⟨2, 4⟩ ⟨5, 0⟩ h
  obtain ⟨-, -, -, hother'⟩ := lines_are_occupied_rows ⟨2, 4⟩ ⟨5, 1⟩ hlonger
  obtain ⟨hinside, -⟩ := hother ⟨4, 2⟩ ⟨5, 0⟩ (by decide)
  obtain ⟨-, hafter⟩ := hother ⟨5, 0⟩ ⟨5, 7⟩ (by decide)
  obtain ⟨-, hafter'⟩ := hother' ⟨5, 1⟩ ⟨7, 0⟩ (by decide)
  have hnone : ∀ column, ¬ (Point.mk 5 column).before ⟨5, 0⟩ := by
    simp [Point.before]
  refine ⟨h, (hlines 5).2 ⟨by decide, 0, by decide, by decide⟩, ?_,
    (hinside (by decide) (by decide)).2, ?_, ?_⟩
  · intro hline
    obtain ⟨-, column, -, hto⟩ := (hlines 6).1 hline
    exact hnone column hto
  · intro hoverlaps
    obtain ⟨⟨column, -, hto⟩, -⟩ := (hafter (by decide)).1 hoverlaps
    exact hnone column hto
  · refine (hafter' (by decide)).2 ⟨⟨0, by decide, by decide⟩, ?_⟩
    exact mem_upperBounds_occupiedRows (by decide)

namespace ConcreteNode

/-- The range of a node lies inside that of another one. -/
def Within (n outer : ConcreteNode) : Prop :=
  ¬ n.start.before outer.start ∧ ¬ outer.stop.before n.stop

instance (n outer : ConcreteNode) : Decidable (n.Within outer) :=
  inferInstanceAs (Decidable (¬ n.start.before outer.start ∧ ¬ outer.stop.before n.stop))

/-- Every range lies inside itself. -/
theorem Within.refl (n : ConcreteNode) : n.Within n :=
  ⟨n.start.not_before_self, n.stop.not_before_self⟩

/-- What lies inside a range lies inside every range around it. -/
theorem Within.trans {n m outer : ConcreteNode} (h : n.Within m) (h' : m.Within outer) :
    n.Within outer :=
  ⟨Point.not_before_trans h'.1 h.1, Point.not_before_trans h.2 h'.2⟩

/-- A node that is not empty, inside another one, occupies lines of that one. -/
theorem Within.contains_span {n outer : ConcreteNode} (h : n.Within outer)
    (hn : n.start.before n.stop) (houter : outer.start.before outer.stop) {line : Nat}
    (hline : n.span.contains line) : outer.span.contains line := by
  obtain ⟨hpos, hrow⟩ := (LineSpan.contains_ofRows_iff_mem hn line).1 hline
  exact (LineSpan.contains_ofRows_iff_mem houter line).2
    ⟨hpos, occupiedRows_subset h.1 h.2 hrow⟩

end ConcreteNode

namespace ConcreteTree

/-- Every node lies inside its parent. -/
def RangesNest (c : ConcreteTree) : Prop :=
  ∀ s ∈ c.subtrees, ∀ d ∈ s.children, d.info.Within s.info

instance (c : ConcreteTree) : Decidable c.RangesNest :=
  inferInstanceAs (Decidable (∀ s ∈ c.subtrees, ∀ d ∈ s.children, d.info.Within s.info))

/-- Where every node lies inside its parent, every node lies inside all nodes above it. -/
theorem RangesNest.within {c s d : ConcreteTree} {p q : Path} (h : c.RangesNest)
    (hs : c.subtree? p = some s) (hd : c.subtree? (p ++ q) = some d) : d.info.Within s.info := by
  induction q using List.reverseRecOn generalizing d with
  | nil =>
    rw [List.append_nil, hs] at hd
    obtain rfl := Option.some.inj hd
    exact .refl s.info
  | append_singleton q k ih =>
    rw [← List.append_assoc] at hd
    obtain ⟨r, hr, hchild⟩ := exists_of_subtree?_concat hd
    have hin := h r (mem_subtrees_of_subtree? hr) d (List.mem_of_getElem? hchild)
    exact hin.trans (ih hr)

end ConcreteTree

end DocSignature.Syntax
