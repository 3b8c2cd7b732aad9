import DocSignature.Proofs.Signature.Innermost

/-!
# The way down and what is told of it

Resolution at a line (`resolve_enclosing`) goes down a chain of definitions: the first candidate
that contains the line, then the first definition nested in it that does, for as long as there is
one.  Nothing is asked of the spans, so candidates may overlap or be repeated, and what is nested in
a candidate that does not contain the line is never seen.  The log tells of every definition of the
chain in turn, first of a second one of its scope that contains the line, if there is one, and then
of the definition itself.
-/

set_option autoImplicit false

namespace DocSignature

open Definition

/-- The definitions that resolution at a line goes into, starting from the definitions of a
scope. -/
structure IsDescent (line : Nat) (scope chain : List Definition) : Prop where
  first : chain[0]? = scope.find? (·.contains line)
  next : ∀ i d, chain[i]? = some d → chain[i + 1]? = d.nested.find? (·.contains line)

/-- What is told of going into a definition of a scope. -/
def scopeLog (line : Nat) (scope : List Definition) (d : Definition) : List Event :=
  let overlap := match scope.filter (·.contains line) with
    | _ :: second :: _ => [Event.overlap line d.name second.name]
    | _ => []
  overlap ++ [.narrowing line d.name d.span.start d.span.stop]

/-- The scopes that a chain of definitions is taken from, ending with the one where it stops. -/
def chainScopes (scope chain : List Definition) : List (List Definition) :=
  scope :: chain.map nested

/-- What is told of going down a chain. -/
def chainLog (line : Nat) (scope chain : List Definition) : List Event :=
  ((chainScopes scope chain).zip chain).flatMap fun (s, d) => scopeLog line s d

variable {line : Nat} {scope chain : List Definition} {d : Definition}

/-- The log of a chain is that of its first scope and that of the rest. -/
theorem chainLog_cons (line : Nat) (scope chain : List Definition) (d : Definition) :
    chainLog line scope (d :: chain) = scopeLog line scope d ++ chainLog line d.nested chain :=
  rfl

/-! ## One step of the way -/

/-- The first definition that has a line is the one that a search finds. -/
theorem head?_containing (line : Nat) (scope : List Definition) :
    (containing line scope).head? = scope.find? (·.contains line) :=
  List.head?_filter

/-- What is told on entering a definition is the log of its scope. -/
theorem enteringEvents_eq_scopeLog {others : List Definition}
    (h : containing line scope = d :: others) :
    enteringEvents line d others = scopeLog line scope d := by
  unfold containing at h
  rw [enteringEvents, scopeLog, h]
  cases others <;> rfl

/-- The way ends in a scope that has no definition with the line. -/
theorem IsDescent.nil (h : containing line scope = []) : IsDescent line scope [] where
  first := by rw [← head?_containing, h]; rfl
  next := by simp

/-- The way goes on from the first definition of the scope that contains the line. -/
theorem IsDescent.cons {others : List Definition} (h : containing line scope = d :: others)
    (hchain : IsDescent line d.nested chain) : IsDescent line scope (d :: chain) where
  first := by rw [← head?_containing, h]; rfl
  next := by
    intro i e he
    cases i with
    | zero =>
      obtain rfl : d = e := by simpa using he
      simpa using hchain.first
    | succ i => simpa using hchain.next i e (by simpa using he)

/-- A descent goes on as a descent from its first definition. -/
theorem IsDescent.tail (h : IsDescent line scope (d :: chain)) : IsDescent line d.nested chain where
  first := by simpa using h.next 0 d rfl
  next := fun i e he => by simpa using h.next (i + 1) e (by simpa using he)

/-- A line and a scope leave one way to go down. -/
theorem IsDescent.unique {other : List Definition} (h : IsDescent line scope chain)
    (h' : IsDescent line scope other) : other = chain := by
  refine List.ext_getElem? fun i => ?_
  induction i with
  | zero => rw [h.first, h'.first]
  | succ i ih =>
    cases hi : chain[i]? with
    | some d => rw [h.next i d hi, h'.next i d (ih.trans hi)]
    | none =>
      have hlength := List.getElem?_eq_none_iff.1 hi
      have hlength' := List.getElem?_eq_none_iff.1 (ih.trans hi)
      rw [List.getElem?_eq_none (by omega), List.getElem?_eq_none (by omega)]

/-! ## The whole way -/

/-- Narrowing a definition down goes on to the end of the way and tells of each step. -/
theorem narrow_eq (line : Nat) (d : Definition) :
    ∃ chain, IsDescent line d.nested chain ∧
      narrow line d = ((d :: chain).getLast (by simp), chainLog line d.nested chain) := by
  fun_induction narrow line d with
  | case1 d hnone => exact ⟨[], .nil hnone, rfl⟩
  | case2 d inner others hsome found events heq ih =>
    obtain ⟨chain, hchain, hnarrow⟩ := ih
    obtain ⟨rfl, rfl⟩ := Prod.mk.inj (heq.symm.trans hnarrow)
    refine ⟨inner :: chain, .cons hsome hchain, ?_⟩
    rw [chainLog_cons, enteringEvents_eq_scopeLog hsome,
      List.getLast_cons (List.cons_ne_nil inner chain)]

/-- Resolution gives the end of the way and tells of each step. -/
theorem resolveEnclosing_eq (line : Nat) (candidates : List Definition) :
    ∃ chain, IsDescent line candidates chain ∧
      resolveEnclosing line candidates = (chain.getLast?, chainLog line candidates chain) := by
  unfold resolveEnclosing
  split
  · next hnone => exact ⟨[], .nil hnone, rfl⟩
  · next d others hsome =>
    obtain ⟨chain, hchain, hnarrow⟩ := narrow_eq line d
    refine ⟨d :: chain, .cons hsome hchain, ?_⟩
    rw [hnarrow, chainLog_cons, enteringEvents_eq_scopeLog hsome, List.getLast?_eq_some_getLast]

/-! ## Warnings -/

/-- A scope warns just if two of its definitions contain the line. -/
theorem exists_warn_mem_scopeLog_iff (line : Nat) (scope : List Definition) (d : Definition) :
    (∃ e ∈ scopeLog line scope d, e.level = .warn) ↔ 2 ≤ scope.countP (·.contains line) := by
  rw [List.countP_eq_length_filter, scopeLog]
  generalize scope.filter (·.contains line) = found
  match found with
  | [] => simp [Event.level]
  | [_] => simp [Event.level]
  | _ :: second :: rest => simp [Event.level]

/-- The way warns just if one of its scopes has two definitions with the line. -/
theorem IsDescent.exists_warn_iff (h : IsDescent line scope chain) :
    (∃ e ∈ chainLog line scope chain, e.level = .warn) ↔
      ∃ s ∈ chainScopes scope chain, 2 ≤ s.countP (·.contains line) := by
  induction chain generalizing scope with
  | nil =>
    have hnone : scope.countP (·.contains line) = 0 := by
      rw [List.countP_eq_zero]
      exact List.find?_eq_none.1 (h.first.symm.trans rfl)
    simp [chainLog, chainScopes, hnone]
  | cons d chain ih =>
    have hscope := exists_warn_mem_scopeLog_iff line scope d
    have hrest := ih h.tail
    simp only [chainLog_cons, List.mem_append, or_and_right, exists_or, hscope, hrest]
    simp [chainScopes]

/-- Of definitions that share no line two never contain the same one. -/
theorem countP_contains_lt_two (h : scope.Pairwise Apart) (line : Nat) :
    scope.countP (·.contains line) < 2 := by
  rw [List.countP_eq_length_filter]
  have happart := h.sublist (List.filter_sublist (p := (·.contains line)))
  have hline : ∀ d ∈ scope.filter (·.contains line), d.contains line :=
    fun d hd => (List.mem_filter.1 hd).2
  revert happart hline
  generalize scope.filter (·.contains line) = found
  intro happart hline
  match found with
  | [] => simp
  | [_] => simp
  | first :: second :: rest =>
    have hfirst := hline first (by simp)
    have hsecond := hline second (by simp)
    exact absurd ⟨hfirst, hsecond⟩ (List.rel_of_pairwise_cons happart (by simp) line)

/-- The log tells of overlaps, as warnings, and of definitions gone into, and of nothing else. -/
theorem level_message_of_mem_chainLog {e : Event} (h : e ∈ chainLog line scope chain) :
    (e.level, e.message) =
        (.warn, "overlapping sibling definitions contain the same line") ∨
      (e.level, e.message) = (.trace, "narrowing into definition") := by
  obtain ⟨⟨s, d⟩, -, he⟩ := List.mem_flatMap.1 h
  rcases List.mem_append.1 he with he | he
  · left
    split at he
    · rw [List.mem_singleton.1 he]
      rfl
    · simp at he
  · right
    rw [List.mem_singleton.1 he]
    rfl

/-- Resolution at any line among any candidates goes down one chain of definitions, the first of
each scope that contains the line, and gives the last one of the chain.  It gives none just if no
candidate contains the line, whatever is nested in them.  Its log is that of the chain: for each
definition in order, a warning that names it and the second one of its scope with the line, if there
is a second one, and then that the search narrows to it.  So there is a warning just if a scope on
the way has two definitions with the line, and none where the definitions of a scope are apart. -/
theorem resolution_descends_and_tells (line : Nat) (candidates : List Definition) :
    ∃ chain, IsDescent line candidates chain ∧
      (∀ other, IsDescent line candidates other → other = chain) ∧
      let (found, log) := resolveEnclosing line candidates
      found = chain.getLast? ∧ (found = none ↔ ∀ d ∈ candidates, ¬ d.contains line) ∧
      log = ((candidates :: chain.map nested).zip chain).flatMap (fun (scope, d) =>
        scopeLog line scope d) ∧
      (∀ e ∈ log, (e.level, e.message) =
          (.warn, "overlapping sibling definitions contain the same line") ∨
        (e.level, e.message) = (.trace, "narrowing into definition")) ∧
      ((∃ e ∈ log, e.level = .warn) ↔
        ∃ scope ∈ candidates :: chain.map nested, 2 ≤ scope.countP (·.contains line)) ∧
      ((∀ scope ∈ candidates :: chain.map nested, scope.Pairwise Apart) →
        ∀ e ∈ log, e.level ≠ .warn) := by
  obtain ⟨chain, hchain, heq⟩ := resolveEnclosing_eq line candidates
  refine ⟨chain, hchain, fun other hother => hchain.unique hother, ?_⟩
  rw [heq]
  refine ⟨rfl, ?_, rfl, fun e he => level_message_of_mem_chainLog he, hchain.exists_warn_iff, ?_⟩
  · have hfirst := hchain.first
    rw [List.getLast?_eq_none_iff, ← List.find?_eq_none, ← hfirst]
    cases chain <;> simp
  · intro happart e he hwarn
    obtain ⟨scope, hscope, htwo⟩ := hchain.exists_warn_iff.1 ⟨e, he, hwarn⟩
    have hfewer := countP_contains_lt_two (happart scope hscope) line
    omega

end DocSignature
