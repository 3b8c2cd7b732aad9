import DocSignature.Proofs.Signature.Descent
import DocSignature.Proofs.Signature.ReturnAnnotation
import DocSignature.Signature.Lookup

/-!
# What a lookup answers and what it tells

A lookup in a tree (`lookup_in_tree`) has three outcomes: a signature, no signature, and the fault
of a function without a parameter list.  Which one it is depends on the definition that resolution
ends at and on that definition's own children, so a fault elsewhere in the tree never surfaces.  Its
log is that of resolution with one event more at most, and nothing is asked of the tree.
-/

set_option autoImplicit false

namespace DocSignature

open Syntax Syntax.SyntaxTree Definition

/-! ## The definition found belongs to the tree -/

/-- A definition belongs to the tree of those around it. -/
theorem Definition.Encloses.tree_eq {d e : Definition} (h : d.Encloses e) : e.tree = d.tree := by
  induction h with
  | refl => rfl
  | tail _ hstep ih => exact (mem_nested hstep).1.trans ih

/-- What resolution ends at is a definition of the tree. -/
theorem tree_eq_of_resolveEnclosing {tree : SyntaxTree} {line : Nat} {d : Definition}
    (h : (resolveEnclosing line (topLevelDefinitions tree)).1 = some d) : d.tree = tree := by
  rw [fst_resolveEnclosing] at h
  obtain ⟨r, hhead, rfl⟩ := Option.map_eq_some_iff.1 h
  obtain ⟨htop, hline⟩ := List.mem_filter.1 (List.mem_of_mem_head? hhead)
  calc (narrow line r).1.tree = r.tree := (narrow_spec hline).1.tree_eq
    _ = tree := (mem_scopeDefinitions htop).1

/-- Where nothing is found resolution tells of nothing. -/
theorem snd_resolveEnclosing_of_none {line : Nat} {ds : List Definition}
    (h : (resolveEnclosing line ds).1 = none) : (resolveEnclosing line ds).2 = [] := by
  obtain ⟨chain, -, heq⟩ := resolveEnclosing_eq line ds
  rw [heq] at h ⊢
  obtain rfl := List.getLast?_eq_none_iff.1 h
  rfl

/-! ## Outcomes -/

/-- The outcome of a lookup that ends at a definition, or at none. -/
def outcomeAt : Option Definition → Except LookupError (Option Signature)
  | none => .ok none
  | some d =>
    match d.kind with
    | .function => d.signature.map some
    | .class => .ok none

/-- What is told at the end of a lookup. -/
def closingEvents (line : Nat) : Option Definition → List Event
  | none => [.noDefinition line]
  | some d =>
    match d.kind with
    | .function => d.signatureEvents
    | .class => [.resolvedToClass line d.name]

/-- A lookup resolves the line, and what it answers and tells after that depends on what was
found. -/
theorem lookupInTree_eq (tree : SyntaxTree) (line : Nat) :
    lookupInTree tree line =
      let (found, log) := resolveEnclosing line (topLevelDefinitions tree)
      ⟨outcomeAt found, log ++ closingEvents line found⟩ := by
  unfold lookupInTree
  obtain ⟨found, log⟩ := resolveEnclosing line (topLevelDefinitions tree)
  cases found with
  | none => rfl
  | some d => cases hkind : d.kind <;> simp only [hkind, outcomeAt, closingEvents]

section

variable {d : Definition}

/-- A definition has no parameter list just if no child is one. -/
theorem parameterList_eq_none_iff :
    d.parameterList = none ↔ ∀ c ∈ d.tree.children d.id, d.tree.kind c ≠ .parameters := by
  simp [parameterList, List.find?_eq_none]

/-- Reading a signature fails for want of a parameter list and for nothing else. -/
theorem signature_eq_error_iff {e : LookupError} :
    d.signature = .error e ↔
      (∀ c ∈ d.tree.children d.id, d.tree.kind c ≠ .parameters) ∧
        e = .missingParameters d.name d.span.start := by
  rw [← parameterList_eq_none_iff]
  unfold signature
  cases d.parameterList with
  | none => simp [eq_comm]
  | some list => simp

/-- A definition has a signature just if a child is a parameter list. -/
theorem exists_signature_eq_ok_iff :
    (∃ sig, d.signature = .ok sig) ↔ ∃ c ∈ d.tree.children d.id, d.tree.kind c = .parameters := by
  have hlist := parameterList_eq_none_iff (d := d)
  unfold signature
  cases hfound : d.parameterList with
  | none => simpa using hlist.1 hfound
  | some list =>
    have hmem := List.mem_of_find?_eq_some hfound
    have hkind := List.find?_some hfound
    simpa using ⟨list, hmem, by simpa using hkind⟩

end

section

variable {found : Option Definition}

/-- A lookup fails just if it found a function whose signature cannot be read. -/
theorem outcomeAt_eq_error_iff {e : LookupError} :
    outcomeAt found = .error e ↔
      ∃ d, found = some d ∧ d.kind = .function ∧ d.signature = .error e := by
  cases found with
  | none => simp [outcomeAt]
  | some d =>
    cases hkind : d.kind with
    | function => cases hsig : d.signature <;> simp [outcomeAt, hkind, hsig, Except.map]
    | «class» => simp [outcomeAt, hkind]

/-- A lookup gives a signature just if it found a function that has one. -/
theorem exists_outcomeAt_eq_some_iff :
    (∃ sig, outcomeAt found = .ok (some sig)) ↔
      ∃ d, found = some d ∧ d.kind = .function ∧ ∃ sig, d.signature = .ok sig := by
  cases found with
  | none => simp [outcomeAt]
  | some d =>
    cases hkind : d.kind with
    | function => cases hsig : d.signature <;> simp [outcomeAt, hkind, hsig, Except.map]
    | «class» => simp [outcomeAt, hkind]

/-- A lookup gives nothing just if it found nothing or a class. -/
theorem outcomeAt_eq_none_iff :
    outcomeAt found = .ok none ↔ found = none ∨ ∃ d, found = some d ∧ d.kind = .class := by
  cases found with
  | none => simp [outcomeAt]
  | some d =>
    cases hkind : d.kind with
    | function => cases hsig : d.signature <;> simp [outcomeAt, hkind, hsig, Except.map]
    | «class» => simp [outcomeAt, hkind]

end

/-! ## Events -/

section

variable {tree : SyntaxTree} {function : Nat}

/-- Without a return annotation there is nothing to tell. -/
theorem returnEvents_of_none (h : returnNodes tree function = none) :
    returnEvents tree function = [] := by
  unfold returnEvents
  rw [h]

/-- A return annotation is told of unless it is one node. -/
theorem returnEvents_of_some {nodes : List Nat} (h : returnNodes tree function = some nodes) :
    returnEvents tree function =
      if nodes.length = 1 then [] else [.annotationIgnored nodes.length] := by
  unfold returnEvents
  rw [h]
  match nodes with
  | [] => rfl
  | [_] => rfl
  | _ :: _ :: _ => simp

/-- Reading an annotation tells at most that one is ignored. -/
theorem returnEvents_eq_nil_or (tree : SyntaxTree) (function : Nat) :
    returnEvents tree function = [] ∨
      ∃ count, returnEvents tree function = [.annotationIgnored count] := by
  cases hnodes : returnNodes tree function with
  | none => exact .inl (returnEvents_of_none hnodes)
  | some nodes =>
    rw [returnEvents_of_some hnodes]
    split
    · exact .inl rfl
    · exact .inr ⟨nodes.length, rfl⟩

/-- It tells so just if the stretch of the annotation has a number of nodes other than one. -/
theorem annotationIgnored_mem_returnEvents_iff {count : Nat} :
    .annotationIgnored count ∈ returnEvents tree function ↔
      ∃ mid, IsReturnStretch tree function mid ∧
        (mid.filter fun c => tree.kind c ≠ .comment).length = count ∧ count ≠ 1 := by
  have hstretch : (∃ mid, IsReturnStretch tree function mid ∧
      (mid.filter fun c => tree.kind c ≠ .comment).length = count ∧ count ≠ 1) ↔
      ∃ nodes, returnNodes tree function = some nodes ∧ nodes.length = count ∧ count ≠ 1 := by
    constructor
    · rintro ⟨mid, hmid, hcount⟩
      exact ⟨_, returnNodes_eq_some_iff.2 ⟨mid, hmid, rfl⟩, hcount⟩
    · rintro ⟨nodes, hnodes, hcount⟩
      obtain ⟨mid, hmid, rfl⟩ := returnNodes_eq_some_iff.1 hnodes
      exact ⟨mid, hmid, hcount⟩
  rw [hstretch]
  cases hnodes : returnNodes tree function with
  | none => simp [returnEvents_of_none hnodes]
  | some nodes =>
    rw [returnEvents_of_some hnodes]
    by_cases hone : nodes.length = 1
    · simp [hone, eq_comm]
    · rw [if_neg hone, List.mem_singleton, Event.annotationIgnored.injEq]
      constructor
      · rintro rfl
        exact ⟨nodes, rfl, rfl, hone⟩
      · rintro ⟨_, hsome, hcount, -⟩
        rw [Option.some.inj hsome, hcount]

end

/-- Nothing is told of a function without a parameter list. -/
theorem signatureEvents_of_missing {d : Definition}
    (h : ∀ c ∈ d.tree.children d.id, d.tree.kind c ≠ .parameters) : d.signatureEvents = [] := by
  unfold signatureEvents
  rw [parameterList_eq_none_iff.2 h]

/-- Of any other function it is told how its annotation was read. -/
theorem signatureEvents_of_exists {d : Definition}
    (h : ∃ c ∈ d.tree.children d.id, d.tree.kind c = .parameters) :
    d.signatureEvents = returnEvents d.tree d.id := by
  unfold signatureEvents
  cases hlist : d.parameterList with
  | none =>
    obtain ⟨c, hc, hkind⟩ := h
    exact absurd hkind (parameterList_eq_none_iff.1 hlist c hc)
  | some list => rfl

/-- The level and the text of what is told at the end of a lookup. -/
theorem level_message_of_mem_closingEvents {line : Nat} {found : Option Definition} {e : Event}
    (h : e ∈ closingEvents line found) :
    (e.level, e.message) = (.debug, match found.map (·.kind) with
      | none => "no definition encloses line"
      | some .class => "line resolves to a class"
      | some .function => "ignoring return annotation without exactly one node") := by
  cases found with
  | none =>
    rw [List.mem_singleton.1 h]
    rfl
  | some d =>
    cases hkind : d.kind with
    | «class» =>
      simp only [closingEvents, hkind] at h
      rw [List.mem_singleton.1 h]
      simp [hkind, Event.level, Event.message]
    | function =>
      simp only [closingEvents, hkind, signatureEvents] at h
      split at h
      · simp at h
      · rcases returnEvents_eq_nil_or d.tree d.id with hnil | ⟨count, hone⟩
        · simp [hnil] at h
        · rw [hone] at h
          rw [List.mem_singleton.1 h]
          simp [hkind, Event.level, Event.message]

/-- The outcome of a lookup at any line of any tree, and all it tells.  With what resolution ends at
there, the lookup fails just if that is a function none of whose children is a parameter list, and
the error has the name and the first line of the function; it gives a signature just if that is a
function with a parameter list; and it gives none just if nothing was found or a class.  The log is
that of resolution, which is empty where nothing was found, and at the end one event where nothing
or a class was found, none where the parameter list is missing, and otherwise one just if the nodes
between `->` and the `:` after it, comments apart, are not one. -/
theorem lookup_outcome_and_log (tree : SyntaxTree) (line : Nat) :
    let (found, log) := resolveEnclosing line (topLevelDefinitions tree)
    let lookup := lookupInTree tree line
    (∀ e, lookup.result = .error e ↔ ∃ d, found = some d ∧ d.kind = .function ∧
      (∀ c ∈ tree.children d.id, tree.kind c ≠ .parameters) ∧
      e = .missingParameters d.name d.span.start) ∧
    ((∃ sig, lookup.result = .ok (some sig)) ↔ ∃ d, found = some d ∧ d.kind = .function ∧
      ∃ c ∈ tree.children d.id, tree.kind c = .parameters) ∧
    (lookup.result = .ok none ↔ found = none ∨ ∃ d, found = some d ∧ d.kind = .class) ∧
    ∃ closing, lookup.events = log ++ closing ∧
      (found = none → log = [] ∧ closing = [.noDefinition line]) ∧
      (∀ d, found = some d → d.kind = .class → closing = [.resolvedToClass line d.name]) ∧
      (∀ d, found = some d → d.kind = .function →
        (∀ c ∈ tree.children d.id, tree.kind c ≠ .parameters) → closing = []) ∧
      (∀ d, found = some d → d.kind = .function →
        (∃ c ∈ tree.children d.id, tree.kind c = .parameters) →
        (closing = [] ∨ ∃ count, closing = [.annotationIgnored count]) ∧
        ∀ count, .annotationIgnored count ∈ closing ↔
          ∃ mid, IsReturnStretch tree d.id mid ∧
            (mid.filter fun c => tree.kind c ≠ .comment).length = count ∧ count ≠ 1) ∧
      ∀ e ∈ closing, (e.level, e.message) = (.debug, match found.map (·.kind) with
        | none => "no definition encloses line"
        | some .class => "line resolves to a class"
        | some .function => "ignoring return annotation without exactly one node") := by
  have htree : ∀ d, (resolveEnclosing line (topLevelDefinitions tree)).1 = some d → d.tree = tree :=
    fun d => tree_eq_of_resolveEnclosing
  have hnone : (resolveEnclosing line (topLevelDefinitions tree)).1 = none →
      (resolveEnclosing line (topLevelDefinitions tree)).2 = [] := snd_resolveEnclosing_of_none
  rw [lookupInTree_eq]
  generalize resolveEnclosing line (topLevelDefinitions tree) = resolved at htree hnone ⊢
  obtain ⟨found, log⟩ := resolved
  refine ⟨?_, ?_, outcomeAt_eq_none_iff, closingEvents line found, rfl, ?_, ?_, ?_, ?_, ?_⟩
  · intro e
    rw [outcomeAt_eq_error_iff]
    refine exists_congr fun d => and_congr_right fun hd => and_congr_right fun _ => ?_
    rw [signature_eq_error_iff, htree d hd]
  · rw [exists_outcomeAt_eq_some_iff]
    refine exists_congr fun d => and_congr_right fun hd => and_congr_right fun _ => ?_
    rw [exists_signature_eq_ok_iff, htree d hd]
  · rintro rfl
    exact ⟨hnone rfl, rfl⟩
  · rintro d rfl hkind
    simp only [closingEvents, hkind]
  · rintro d rfl hkind hmissing
    rw [← htree d rfl] at hmissing
    simp only [closingEvents, hkind, signatureEvents_of_missing hmissing]
  · rintro d rfl hkind hlist
    obtain rfl := htree d rfl
    simp only [closingEvents, hkind, signatureEvents_of_exists hlist]
    exact ⟨returnEvents_eq_nil_or d.tree d.id, fun _ => annotationIgnored_mem_returnEvents_iff⟩
  · intro e he
    exact level_message_of_mem_closingEvents he

end DocSignature
