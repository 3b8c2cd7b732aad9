import DocSignature.Proofs.Signature.Forest
import DocSignature.Proofs.Syntax.Spans
import DocSignature.Signature.Resolution
import Mathlib.Data.List.Pairwise

/-!
# Resolution finds the innermost definition

Resolution (`resolve_enclosing`) looks at one scope at a time and goes into the first definition
that contains the line.  Where nested definitions lie inside the ones around them and no two
definitions of one scope share a line, the definitions that contain a line form one chain of the
forest, and resolution ends at the bottom of it.  The first condition holds of every lowered tree
whose ranges nest.
-/

set_option autoImplicit false

namespace DocSignature

open Syntax Syntax.SyntaxTree Syntax.ConcreteTree

namespace Definition

/-- Two definitions share no line. -/
def Apart (d e : Definition) : Prop :=
  ∀ line, ¬ (d.contains line ∧ e.contains line)

/-- Two definitions share a line just if the later start is not after the earlier stop. -/
theorem apart_iff (d e : Definition) :
    d.Apart e ↔ min d.span.stop e.span.stop < max d.span.start e.span.start := by
  simp only [Apart, contains, LineSpan.contains_iff]
  constructor
  · intro h
    have hline := h (max d.span.start e.span.start)
    omega
  · intro h line
    omega

instance : DecidableRel Apart := fun d e => decidable_of_iff _ (apart_iff d e).symm

/-- The definitions enclosed by a definition lie inside the ones they are nested in. -/
def SpansNest (d : Definition) : Prop :=
  ∀ e, d.Encloses e → ∀ n ∈ e.nested, ∀ line, n.contains line → e.contains line

/-- The definitions of every scope below a definition share no line. -/
def ScopesApart (d : Definition) : Prop :=
  ∀ e, d.Encloses e → e.nested.Pairwise Apart

/-- Where spans nest, a definition contains all lines of those it encloses. -/
theorem SpansNest.contains {d e : Definition} (h : d.SpansNest) (hde : d.Encloses e) {line : Nat}
    (hline : e.contains line) : d.contains line := by
  induction hde with
  | refl => exact hline
  | tail hdf hstep ih => exact ih (h _ hdf _ hstep line hline)

/-- What holds of all that a definition encloses holds of all that one nested in it encloses. -/
theorem SpansNest.of_mem_nested {d n : Definition} (h : d.SpansNest) (hn : n ∈ d.nested) :
    n.SpansNest :=
  fun e hne => h e (.head hn hne)

/-- The scopes below a nested definition are scopes below the definition around it. -/
theorem ScopesApart.of_mem_nested {d n : Definition} (h : d.ScopesApart) (hn : n ∈ d.nested) :
    n.ScopesApart :=
  fun e hne => h e (.head hn hne)

end Definition

open Definition

/-- Of definitions that share no line at most one contains a line. -/
theorem eq_of_mem_containing {line : Nat} {ds : List Definition} (h : ds.Pairwise Apart)
    {d e : Definition} (hd : d ∈ containing line ds) (he : e ∈ containing line ds) : d = e := by
  obtain ⟨hd, hdline⟩ := List.mem_filter.1 hd
  obtain ⟨he, heline⟩ := List.mem_filter.1 he
  by_contra hne
  have hsymm : Std.Symm Apart := ⟨fun a b hab line hline => hab line hline.symm⟩
  exact h.forall hd he hne line ⟨hdline, heline⟩

/-- What narrowing finds is enclosed by the definition it starts from and contains the line, and
nothing nested in it does. -/
theorem narrow_spec {line : Nat} {d : Definition} (h : d.contains line) :
    d.Encloses (narrow line d).1 ∧ (narrow line d).1.contains line ∧
      ∀ n ∈ (narrow line d).1.nested, ¬ n.contains line := by
  fun_induction narrow line d with
  | case1 d hnone =>
    refine ⟨.refl, h, ?_⟩
    intro n hn hline
    have hmem : n ∈ containing line d.nested := List.mem_filter.2 ⟨hn, hline⟩
    simp [hnone] at hmem
  | case2 d inner others hsome found events heq ih =>
    have hmem : inner ∈ containing line d.nested := hsome ▸ List.mem_cons_self
    obtain ⟨hinner, hline⟩ := List.mem_filter.1 hmem
    have hfound := ih hline
    rw [heq] at hfound
    exact ⟨.head hinner hfound.1, hfound.2⟩

/-- Where spans nest, a definition on the way down to one that contains the line contains it too. -/
theorem mem_containing_of_encloses {line : Nat} {ds : List Definition} {n e : Definition}
    (hnest : n.SpansNest) (hn : n ∈ ds) (hne : n.Encloses e) (hline : e.contains line) :
    n ∈ containing line ds :=
  List.mem_filter.2 ⟨hn, hnest.contains hne hline⟩

/-- Where spans nest and scopes are apart, every enclosed definition that contains the line encloses
what narrowing finds. -/
theorem encloses_narrow {line : Nat} {d e : Definition} (hnest : d.SpansNest)
    (hapart : d.ScopesApart) (hde : d.Encloses e) (hline : e.contains line) :
    e.Encloses (narrow line d).1 := by
  fun_induction narrow line d generalizing e with
  | case1 d hnone =>
    obtain rfl | ⟨n, hn, hne⟩ := hde.cases_head
    · exact .refl
    · have hmem := mem_containing_of_encloses (hnest.of_mem_nested hn) hn hne hline
      simp [hnone] at hmem
  | case2 d inner others hsome found events heq ih =>
    have hinner : inner ∈ containing line d.nested := hsome ▸ List.mem_cons_self
    obtain rfl | ⟨n, hn, hne⟩ := hde.cases_head
    · obtain ⟨hmem, hcontains⟩ := List.mem_filter.1 hinner
      have hfound := (narrow_spec hcontains).1
      rw [heq] at hfound
      exact .head hmem hfound
    · -- only one definition of the scope contains the line, so the way down to `e` is through it
      have hmem := mem_containing_of_encloses (hnest.of_mem_nested hn) hn hne hline
      obtain rfl := eq_of_mem_containing (hapart d .refl) hmem hinner
      have hfound := ih (hnest.of_mem_nested hn) (hapart.of_mem_nested hn) hne hline
      rwa [heq] at hfound

/-! ## From the roots of the forest -/

/-- The definitions of no scope of a file share a line. -/
def SiblingsApart (tree : SyntaxTree) : Prop :=
  (topLevelDefinitions tree).Pairwise Apart ∧
    ∀ d ∈ allDefinitions tree, d.nested.Pairwise Apart

instance (tree : SyntaxTree) : Decidable (SiblingsApart tree) :=
  inferInstanceAs (Decidable (_ ∧ ∀ d ∈ allDefinitions tree, d.nested.Pairwise Apart))

/-- The definitions of a file lie inside the ones they are nested in. -/
def DefinitionsNest (tree : SyntaxTree) : Prop :=
  ∀ d ∈ allDefinitions tree, ∀ n ∈ d.nested, ∀ line, n.contains line → d.contains line

/-- A definition is the innermost one at a line: it belongs to the file and contains the line, and
no definition nested in it does. -/
def IsInnermost (tree : SyntaxTree) (line : Nat) (d : Definition) : Prop :=
  d ∈ allDefinitions tree ∧ d.contains line ∧ ∀ n ∈ d.nested, ¬ n.contains line

/-- Resolution narrows down the first candidate that contains the line. -/
theorem fst_resolveEnclosing (line : Nat) (candidates : List Definition) :
    (resolveEnclosing line candidates).1 =
      (containing line candidates).head?.map fun d => (narrow line d).1 := by
  unfold resolveEnclosing
  split
  · next hnone => rw [hnone]; rfl
  · next d others hsome => rw [hsome]; rfl

section

variable {tree : SyntaxTree} (hnest : DefinitionsNest tree)
include hnest

/-- Below a definition of the file spans nest. -/
theorem spansNest_of_mem {d : Definition} (hd : d ∈ allDefinitions tree) : d.SpansNest :=
  fun e hde => hnest e (mem_allDefinitions_of_encloses hd hde)

/-- The root above a definition that contains the line contains it too. -/
theorem exists_root_containing {line : Nat} {e : Definition} (he : e ∈ allDefinitions tree)
    (hline : e.contains line) :
    ∃ r ∈ containing line (topLevelDefinitions tree), r.Encloses e := by
  obtain ⟨r, hr, hre⟩ := mem_allDefinitions.1 he
  have hrnest := spansNest_of_mem hnest (mem_allDefinitions.2 ⟨r, hr, .refl⟩)
  exact ⟨r, mem_containing_of_encloses hrnest hr hre hline, hre⟩

/-- Resolution finds nothing just if no definition of the file contains the line. -/
theorem resolveEnclosing_eq_none_iff (line : Nat) :
    (resolveEnclosing line (topLevelDefinitions tree)).1 = none ↔
      ∀ e ∈ allDefinitions tree, ¬ e.contains line := by
  rw [fst_resolveEnclosing, Option.map_eq_none_iff, List.head?_eq_none_iff]
  constructor
  · intro hnone e he hline
    obtain ⟨r, hr, -⟩ := exists_root_containing hnest he hline
    simp [hnone] at hr
  · intro h
    refine List.filter_eq_nil_iff.2 ?_
    intro r hr
    exact h r (mem_allDefinitions.2 ⟨r, hr, .refl⟩)

/-- What resolution finds is innermost, and all definitions that contain the line enclose it. -/
theorem resolveEnclosing_eq_some (hapart : SiblingsApart tree) {line : Nat} {d : Definition}
    (h : (resolveEnclosing line (topLevelDefinitions tree)).1 = some d) :
    IsInnermost tree line d ∧ ∀ e ∈ allDefinitions tree, e.contains line → e.Encloses d := by
  rw [fst_resolveEnclosing] at h
  obtain ⟨r, hhead, rfl⟩ := Option.map_eq_some_iff.1 h
  have hr : r ∈ containing line (topLevelDefinitions tree) := List.mem_of_mem_head? hhead
  obtain ⟨htop, hline⟩ := List.mem_filter.1 hr
  have hall : r ∈ allDefinitions tree := mem_allDefinitions.2 ⟨r, htop, .refl⟩
  obtain ⟨hencl, hfound, hnone⟩ := narrow_spec hline
  refine ⟨⟨mem_allDefinitions_of_encloses hall hencl, hfound, hnone⟩, ?_⟩
  intro e he heline
  obtain ⟨r', hr', hre⟩ := exists_root_containing hnest he heline
  obtain rfl := eq_of_mem_containing hapart.1 hr' hr
  have hscopes : r'.ScopesApart :=
    fun f hf => hapart.2 f (mem_allDefinitions_of_encloses hall hf)
  exact encloses_narrow (spansNest_of_mem hnest hall) hscopes hre heline

/-- Of the definitions that a chain of the forest leads down to, only the last one is innermost. -/
theorem IsInnermost.eq_of_encloses {line : Nat} {d f : Definition} (hd : IsInnermost tree line d)
    (hdf : d.Encloses f) (hline : f.contains line) : d = f := by
  obtain rfl | ⟨n, hn, hnf⟩ := hdf.cases_head
  · rfl
  · have hnline := ((spansNest_of_mem hnest hd.1).of_mem_nested hn).contains hnf hline
    exact absurd hnline (hd.2.2 n hn)

end

/-! ## Lowered trees -/

/-- The definitions of a concrete tree are not empty. -/
def Syntax.ConcreteTree.DefinitionsNonEmpty (c : ConcreteTree) : Prop :=
  ∀ s ∈ c.subtrees, s.info.isDefinition → s.info.start.before s.info.stop

instance (c : ConcreteTree) : Decidable c.DefinitionsNonEmpty :=
  inferInstanceAs (Decidable
    (∀ s ∈ c.subtrees, s.info.isDefinition → s.info.start.before s.info.stop))

/-- In a lowered tree whose ranges nest, definitions lie inside the ones they are nested in. -/
theorem definitionsNest_lower (source : String) {c : ConcreteTree} (hnest : c.RangesNest)
    (hfull : c.DefinitionsNonEmpty) : DefinitionsNest (lower source c) := by
  intro d hd n hn line hline
  obtain ⟨p, s, hs⟩ := exists_isCopyAt_of_mem_allDefinitions hd
  obtain ⟨q, f, hf⟩ := hs.exists_of_mem_nested hn
  have hwithin := hnest.within hs.subtree hf.subtree
  have hsfull := hfull s (mem_subtrees_of_subtree? hs.subtree) hs.isDefinition
  have hffull := hfull f (mem_subtrees_of_subtree? hf.subtree) hf.isDefinition
  rw [contains, hf.span_eq] at hline
  rw [contains, hs.span_eq]
  exact hwithin.contains_span hffull hsfull hline

/-- Resolution finds the innermost definition.  In a tree lowered from a concrete tree in which
every node lies inside its parent and no definition is empty, and where the definitions of one scope
share no line, a definition is found at a line just if it is innermost there; all definitions that
contain the line, at any depth, are then the one found or enclose it; and nothing is found just if
no definition at any depth contains the line. -/
theorem resolveEnclosing_finds_innermost (source : String) (c : ConcreteTree)
    (hnest : c.RangesNest) (hfull : c.DefinitionsNonEmpty)
    (hapart : SiblingsApart (lower source c)) (line : Nat) :
    let tree := lower source c
    let found := (resolveEnclosing line (topLevelDefinitions tree)).1
    (∀ d, found = some d ↔
      d ∈ allDefinitions tree ∧ d.contains line ∧ ∀ n ∈ d.nested, ¬ n.contains line) ∧
    (∀ d, found = some d → ∀ e ∈ allDefinitions tree, e.contains line → e.Encloses d) ∧
    (found = none ↔ ∀ e ∈ allDefinitions tree, ¬ e.contains line) := by
  intro tree found
  have hdefs := definitionsNest_lower source hnest hfull
  refine ⟨?_, fun d hd => (resolveEnclosing_eq_some hdefs hapart hd).2,
    resolveEnclosing_eq_none_iff hdefs line⟩
  intro d
  constructor
  · exact fun hd => (resolveEnclosing_eq_some hdefs hapart hd).1
  · intro hd
    -- something is found, `d` encloses it, and nothing below `d` contains the line
    cases hf : found with
    | none => exact absurd hd.2.1 ((resolveEnclosing_eq_none_iff hdefs line).1 hf d hd.1)
    | some f =>
      obtain ⟨hinner, hencl⟩ := resolveEnclosing_eq_some hdefs hapart hf
      rw [IsInnermost.eq_of_encloses hdefs hd (hencl d hd.1 hd.2.1) hinner.2.1]

/-- A file of a function with a class inside it, both ending at the start of row three, and another
function on that row. -/
def nestedFile : ConcreteTree :=
  let class_ := .named "class_definition" [] none ⟨1, 4⟩ ⟨3, 0⟩
  let body := .named "block" [class_] (some "body") ⟨1, 4⟩ ⟨3, 0⟩
  .named "module"
    [.named "function_definition" [body] none ⟨0, 0⟩ ⟨3, 0⟩,
      .named "function_definition" [] none ⟨3, 0⟩ ⟨3, 8⟩] none ⟨0, 0⟩ ⟨3, 8⟩

/-- In this file the class is found at its last line, and what contains that line encloses it. -/
theorem nestedFile_innermost :
    (nestedFile.RangesNest ∧ nestedFile.DefinitionsNonEmpty ∧
      SiblingsApart (lower "" nestedFile)) ∧
    ∃ d, (resolveEnclosing 3 (topLevelDefinitions (lower "" nestedFile))).1 = some d ∧
      d.kind = .class ∧
      ∀ e ∈ allDefinitions (lower "" nestedFile), e.contains 3 → e.Encloses d := by
  have hnest : nestedFile.RangesNest := by decide +kernel
  have hfull : nestedFile.DefinitionsNonEmpty := by decide +kernel
  have hapart : SiblingsApart (lower "" nestedFile) := by decide +kernel
  have hkind : ((resolveEnclosing 3 (topLevelDefinitions (lower "" nestedFile))).1.map
      (·.kind)) = some .class := by
    decide +kernel
  obtain ⟨-, hencl, -⟩ := resolveEnclosing_finds_innermost "" nestedFile hnest hfull hapart 3
  obtain ⟨d, hd, hclass⟩ := Option.map_eq_some_iff.1 hkind
  exact ⟨⟨hnest, hfull, hapart⟩, d, hd, hclass, hencl d hd⟩

end DocSignature
