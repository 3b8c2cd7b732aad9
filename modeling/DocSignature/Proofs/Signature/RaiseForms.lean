import DocSignature.Proofs.Signature.Comments
import DocSignature.Proofs.Signature.Correspondence

/-!
# The forms of a `raise` statement

A `raise` statement starts with its keyword.  What it raises may follow, and then `from` with a
cause, and comments may stand in between.  `RaiseForm` takes a statement apart into these.  The
search for what is raised (`raised_type`) goes by kinds and texts of nodes; here it is shown to find
the operand of every form, and nothing if there is none, so that the cause is never looked at.
-/

set_option autoImplicit false

namespace DocSignature

open Syntax Syntax.SyntaxTree Syntax.ConcreteTree

namespace Syntax

/-- Calls. -/
def NamedKinds.calls : NamedKinds where
  test := (· == .call)
  names := ["call"]

/-- Comments. -/
def NamedKinds.comments : NamedKinds where
  test := (· == .comment)
  names := ["comment"]

namespace ConcreteTree

/-- Whether a node is a comment. -/
def isComment (c : ConcreteTree) : Bool := c.info.isOneOf NamedKinds.comments.names

/-- Whether a tree is a given word of the language. -/
def isWord (source word : String) (c : ConcreteTree) : Bool :=
  !c.info.named && !c.info.isError && c.info.name == word && c.text source == word

/-- Whether a tree may be raised or be a cause.  All expressions and lists of expressions may: they
have names of their own and are neither comments nor the separators of parameter lists. -/
def isOperand (c : ConcreteTree) : Bool :=
  c.info.named && !c.info.isOneOf ["comment", "keyword_separator", "positional_separator"]

section

variable {source word : String} {c : ConcreteTree}

/-- A comment is lowered as one. -/
theorem kind_of_isComment (h : c.isComment) : c.kind = .comment :=
  beq_iff_eq.1 ((NamedKinds.comments.test_classify c.info none).trans h)

/-- The calls are the nodes with that name. -/
theorem kind_eq_call_iff : c.kind = .call ↔ c.info.isOneOf ["call"] := by
  rw [← beq_iff_eq]
  exact Bool.eq_iff_iff.1 (NamedKinds.calls.test_classify c.info none)

/-- A word of the grammar is read as a keyword. -/
theorem isKeyword_of_isWord (hword : Kind.ofToken word = .keyword) (h : c.isWord source word) :
    c.isKeyword source word := by
  simp only [isWord, Bool.and_eq_true, Bool.not_eq_true', beq_iff_eq] at h
  obtain ⟨⟨⟨hnamed, herror⟩, hname⟩, htext⟩ := h
  simp [isKeyword, kind, ConcreteNode.classify, hnamed, herror, hname, hword, htext]

/-- An operand is neither comment nor operator nor keyword. -/
theorem kind_of_isOperand (h : c.isOperand) : c.kind ∉ [Kind.comment, .operator, .keyword] := by
  simp only [isOperand, Bool.and_eq_true, Bool.not_eq_true'] at h
  obtain ⟨hnamed, hother⟩ := h
  unfold kind ConcreteNode.classify
  by_cases herror : c.info.isError || (c.info.isMissing && c.info.named)
  · rw [if_pos herror]
    decide
  · have hname : c.info.name ∉ ["comment", "keyword_separator", "positional_separator"] := by
      simp only [hnamed, Bool.and_true, Bool.or_eq_true, not_or, Bool.not_eq_true] at herror
      simpa [ConcreteNode.isOneOf, hnamed, herror] using hother
    rw [if_neg herror, if_pos hnamed]
    -- the separators and comments are the only names with one of these kinds
    exact Kind.forall_ofName (P := fun name k =>
        name ∉ ["comment", "keyword_separator", "positional_separator"] →
          k ∉ [Kind.comment, .operator, .keyword])
      (by decide) (fun _ _ _ => by decide) c.info.name hname

/-- An operand may be what is raised. -/
theorem mayBeRaised_of_isOperand (h : c.isOperand) : c.mayBeRaised := by
  have hkind := kind_of_isOperand h
  simp only [List.mem_cons, not_or] at hkind
  simp [mayBeRaised, hkind]

/-- An operand is no keyword. -/
theorem not_isKeyword_of_isOperand (h : c.isOperand) : c.isKeyword source word = false := by
  have hkind := kind_of_isOperand h
  simp only [List.mem_cons, not_or] at hkind
  simp [isKeyword, hkind]

/-- A comment is no keyword. -/
theorem not_isKeyword_of_isComment (h : c.isComment) : c.isKeyword source word = false := by
  simp [isKeyword, kind_of_isComment h]

end

end ConcreteTree

/-- The parts of a `raise` statement: its keyword, what is raised if anything is, and `from` with
the cause if there is one. -/
structure RaiseForm where
  keyword : ConcreteTree
  operand : Option ConcreteTree
  cause : Option (ConcreteTree × ConcreteTree)

namespace RaiseForm

/-- What follows the keyword of a statement, in order and without comments. -/
def parts (f : RaiseForm) : List ConcreteTree :=
  f.operand.toList ++ f.cause.elim [] fun x => [x.1, x.2]

/-- A tree is a `raise` statement of some parts, with comments after its keyword and its parts. -/
structure Describes (f : RaiseForm) (source : String) (s : ConcreteTree) : Prop where
  isRaise : s.info.isRaise
  children : ∃ rest, s.children = f.keyword :: rest ∧ rest.filter (!·.isComment) = f.parts
  keyword : f.keyword.isWord source "raise"
  operand : ∀ o ∈ f.operand, o.isOperand
  cause : ∀ x ∈ f.cause, x.1.isWord source "from" ∧ x.2.isOperand

namespace Describes

variable {f : RaiseForm} {source : String} {s : ConcreteTree} (h : f.Describes source s)

include h

/-- The statement's keyword is its only `raise`. -/
theorem not_isKeyword_raise {d : ConcreteTree} (hd : d ∈ f.parts) :
    d.isKeyword source "raise" = false := by
  rcases List.mem_append.1 hd with hd | hd
  · exact not_isKeyword_of_isOperand (h.operand d (Option.mem_toList.1 hd))
  · cases hcause : f.cause with
    | none => simp [hcause] at hd
    | some x =>
      obtain ⟨hfrom, hoperand⟩ := h.cause x hcause
      simp only [hcause, Option.elim_some, List.mem_cons, List.not_mem_nil, or_false] at hd
      rcases hd with rfl | rfl
      · have htext := (Bool.and_eq_true_iff.1 hfrom).2
        simp [ConcreteTree.isKeyword, beq_iff_eq.1 htext]
      · exact not_isKeyword_of_isOperand hoperand

/-- The first part before `from` that may be raised is the operand. -/
theorem find?_parts :
    (f.parts.takeWhile (!·.isKeyword source "from")).find? mayBeRaised = f.operand := by
  unfold parts
  cases hoperand : f.operand with
  | some o =>
    have ho := h.operand o hoperand
    simp [not_isKeyword_of_isOperand ho, mayBeRaised_of_isOperand ho]
  | none =>
    -- the cause of a statement without an operand comes after `from` too
    cases hcause : f.cause with
    | none => rfl
    | some x =>
      have hfrom := isKeyword_of_isWord (by decide) (h.cause x hcause).1
      simp [hfrom]

/-- The operand is what a `raise` statement is found to raise. -/
theorem raised?_eq : s.raised? source = f.operand := by
  obtain ⟨rest, hchildren, hparts⟩ := h.children
  have hkept : ∀ d : ConcreteTree, d.kind ≠ .comment → !d.isComment := by
    intro d hd
    cases hcomment : d.isComment with
    | false => rfl
    | true => exact absurd (kind_of_isComment hcomment) hd
  have hraise : ∀ d ∈ rest, ¬ d.isKeyword source "raise" := by
    intro d hd
    rw [Bool.not_eq_true]
    cases hcomment : d.isComment with
    | true => exact not_isKeyword_of_isComment hcomment
    | false =>
      refine h.not_isKeyword_raise ?_
      rw [← hparts]
      exact List.mem_filter.2 ⟨hd, by simp [hcomment]⟩
  have hskip : s.children.dropWhile (·.isKeyword source "raise") = rest := by
    have hkeyword := isKeyword_of_isWord (by decide) h.keyword
    rw [hchildren, List.dropWhile_cons, if_pos hkeyword]
    -- the next child is no second `raise`, so nothing else is passed over
    cases rest with
    | nil => rfl
    | cons d rest => exact List.dropWhile_cons_of_neg (hraise d List.mem_cons_self)
  -- comments are neither found nor do they end the search, so it can do without them
  calc s.raised? source
      = (rest.takeWhile (!·.isKeyword source "from")).find? mayBeRaised := by
        rw [raised?, hskip]
    _ = ((rest.takeWhile (!·.isKeyword source "from")).filter (!·.isComment)).find?
          mayBeRaised := by
        refine (find?_filter_of_imp ?_ _).symm
        intro d hd
        exact hkept d (bne_iff_ne.1 (Bool.and_eq_true_iff.1 hd).1)
    _ = (f.parts.takeWhile (!·.isKeyword source "from")).find? mayBeRaised := by
        rw [← hparts, takeWhile_filter_of_imp]
        intro d hd
        refine hkept d ?_
        rw [beq_iff_eq.1 (Bool.and_eq_true_iff.1 hd).1]
        decide
    _ = f.operand := h.find?_parts

/-- A statement of this form names the exception of its operand. -/
theorem raisedText_eq : s.raisedText source = f.operand.map (·.exceptionName.text source) := by
  rw [raisedText, h.raised?_eq]

/-- What is read off the copy of a `raise` statement is read off its operand. -/
theorem raisedType_lower {c : ConcreteTree} {p : Path} (hpath : c.subtree? p = some s) :
    raisedType (lower source c) (c.place p) =
      f.operand.map (·.exceptionName.text source) := by
  have hheld := holds_lower_subtree source hpath
  have hkind : (lower source c).kind (c.place p) = .raiseStatement := by
    rw [hheld.kind]
    exact beq_iff_eq.1 ((NamedKinds.raises.test_classify _ _).trans h.isRaise)
  rw [hheld.raisedType_eq (by simp [hkind]), source_lower, h.raisedText_eq]

end Describes

end RaiseForm

/-! ## Statements that differ in their causes -/

namespace ConcreteTree

/-- Two trees, each in a text of its own, have the same nodes with the same texts, at any places. -/
inductive Alike (source source' : String) : ConcreteTree → ConcreteTree → Prop where
  | node {n n' : ConcreteNode} {cs cs' : List ConcreteTree}
      (info : n' = { n with start := n'.start, stop := n'.stop, bytes := n'.bytes })
      (text : (node n cs).text source = (node n' cs').text source')
      (children : List.Forall₂ (Alike source source') cs cs') :
      Alike source source' (node n cs) (node n' cs')

namespace Alike

variable {source source' : String} {c c' : ConcreteTree} (h : Alike source source' c c')

include h

/-- Trees that are alike have the same text. -/
theorem text_eq : c.text source = c'.text source' := by
  cases h with
  | node _ htext _ => exact htext

/-- Trees that are alike have the same kind. -/
theorem kind_eq : c.kind = c'.kind := by
  cases h with
  | node hinfo _ _ =>
    unfold kind
    rw [info_node, info_node, hinfo]
    rfl

/-- Trees that are alike fill the same roles. -/
theorem fills_eq (f : Field) : c.info.fills f = c'.info.fills f := by
  cases h with
  | node hinfo _ _ =>
    rw [info_node, info_node, hinfo]
    rfl

/-- Trees that are alike name the same exception. -/
theorem text_exceptionName_eq : c.exceptionName.text source = c'.exceptionName.text source' := by
  have hkind := h.kind_eq
  have hchildren : List.Forall₂ (Alike source source') c.children c'.children := by
    cases h with
    | node _ _ hcs => exact hcs
  unfold exceptionName
  rw [hkind]
  split
  · exact (rel_getD (rel_find? hchildren fun _ _ hd => hd.fills_eq .function) h).text_eq
  · exact h.text_eq

end Alike

end ConcreteTree

namespace RaiseForm

/-- Two `raise` statements raise operands that are alike, or both none.  Nothing is said of
causes. -/
def SameOperand (source source' : String) (f f' : RaiseForm) : Prop :=
  Option.Rel (Alike source source') f.operand f'.operand

variable {source source' : String} {f f' : RaiseForm}

/-- Forms with the same operand name the same exception. -/
theorem SameOperand.map_text_eq (h : f.SameOperand source source' f') :
    f.operand.map (·.exceptionName.text source) =
      f'.operand.map (·.exceptionName.text source') :=
  map_eq_map_of_rel h fun _ _ _ ho => ho.text_exceptionName_eq

end RaiseForm

namespace ConcreteTree

/-- Two trees are `raise` statements that are the same up to their causes. -/
def SameButCause (source source' : String) (r r' : ConcreteTree) : Prop :=
  ∃ f f' : RaiseForm, f.Describes source r ∧ f'.Describes source' r' ∧
    RaiseForm.SameOperand source source' f f'

variable {source source' : String} {e e' : ConcreteTree}

/-- Statements that differ in their causes only name the same exception. -/
theorem SameButCause.raisedText_eq (h : SameButCause source source' e e') :
    e.raisedText source = e'.raisedText source' := by
  obtain ⟨f, f', hf, hf', hsame⟩ := h
  rw [hf.raisedText_eq, hf'.raisedText_eq, hsame.map_text_eq]

/-- Definitions whose `raise` statements are the same up to their causes raise the same. -/
theorem raiseTypes_eq_of_sameButCause
    (h : List.Forall₂ (SameButCause source source') e.bodyRaises e'.bodyRaises) :
    e.raiseTypes source = e'.raiseTypes source' := by
  obtain ⟨rs, hrs, hrs'⟩ := exists_pairs_of_forall₂ h
  rw [raiseTypes, raiseTypes, hrs, hrs', List.filterMap_map, List.filterMap_map]
  exact List.filterMap_congr fun r _ => r.2.raisedText_eq

end ConcreteTree

end Syntax

/-- A function with a parameter list has a signature, with the exceptions read off its tree. -/
theorem Definition.IsCopyAt.exists_raiseTypes {source : String} {c s : ConcreteTree} {p : Path}
    {d : Definition} (h : IsCopyAt source c p s d)
    (hfunction : s.info.isOneOf NamedKinds.functions.names) (hparams : s.hasParameters) :
    ∃ sig, d.signature = .ok sig ∧ sig.raiseTypes = s.raiseTypes source := by
  have hread := h.map_raiseTypes hfunction
  rw [if_pos hparams] at hread
  cases hsig : d.signature with
  | error e =>
    rw [hsig] at hread
    cases hread
  | ok sig =>
    rw [hsig] at hread
    exact ⟨sig, rfl, Except.ok.inj hread⟩

/-- What a `raise` statement names, whatever its form: nothing just if it has no operand, what is
called if its operand is a call, and the whole operand otherwise.  It is the same for every
statement, in any tree of any text, whose operand is alike, so causes make no difference to it and
none to the exceptions of a signature. -/
theorem raised_type_of_every_form (source : String) (c : ConcreteTree) {p : Path}
    {s : ConcreteTree} {f : RaiseForm} (hpath : c.subtree? p = some s)
    (hform : f.Describes source s) :
    let raised := raisedType (lower source c) (c.place p)
    (raised = none ↔ f.operand = none) ∧
    (∀ o ∈ f.operand, o.info.isOneOf ["call"] →
      raised = some (((o.children.find? (·.info.fills .function)).getD o).text source)) ∧
    (∀ o ∈ f.operand, ¬ o.info.isOneOf ["call"] → raised = some (o.text source)) ∧
    ∀ (source' : String) (c' : ConcreteTree),
      (∀ p' s' f', c'.subtree? p' = some s' → f'.Describes source' s' →
        f.SameOperand source source' f' →
          raisedType (lower source' c') (c'.place p') = raised) ∧
      ∀ q q' e e' d d', Definition.IsCopyAt source c q e d →
        Definition.IsCopyAt source' c' q' e' d' →
        e.info.isOneOf ["function_definition"] → e'.info.isOneOf ["function_definition"] →
        e.hasParameters → e'.hasParameters →
        List.Forall₂ (SameButCause source source') e.bodyRaises e'.bodyRaises →
          ∃ sig sig', d.signature = .ok sig ∧ d'.signature = .ok sig' ∧
            sig.raiseTypes = sig'.raiseTypes := by
  intro raised
  have hraised : raised = f.operand.map (·.exceptionName.text source) :=
    hform.raisedType_lower hpath
  refine ⟨?_, ?_, ?_, ?_⟩
  · rw [hraised, Option.map_eq_none_iff]
  · intro o ho hcall
    rw [hraised, Option.mem_def.1 ho, Option.map_some, exceptionName, kind_eq_call_iff.2 hcall]
  · intro o ho hcall
    have hname : o.exceptionName = o := by
      unfold exceptionName
      split
      · next hkind => exact absurd (kind_eq_call_iff.1 hkind) hcall
      · rfl
    rw [hraised, Option.mem_def.1 ho, Option.map_some, hname]
  · intro source' c'
    constructor
    · intro p' s' f' hpath' hform' hsame
      rw [hform'.raisedType_lower hpath', hraised, hsame.map_text_eq]
    · intro q q' e e' d d' hd hd' hfunction hfunction' hparams hparams' hraises
      obtain ⟨sig, hsig, htypes⟩ := hd.exists_raiseTypes hfunction hparams
      obtain ⟨sig', hsig', htypes'⟩ := hd'.exists_raiseTypes hfunction' hparams'
      refine ⟨sig, sig', hsig, hsig', ?_⟩
      rw [htypes, htypes', raiseTypes_eq_of_sameButCause hraises]

/-- The text of two functions that raise the same, the first with a comment and a cause. -/
def causesText : String :=
  "def g():\n raise #c\n  E(x) from f(y)\ndef h():\n raise E(x)\n"

namespace Syntax.ConcreteTree

/-- A call of one letter with one letter. -/
def callAt (row column start : Nat) (field : Option String := none) : ConcreteTree :=
  .named "call"
    [.leaf "identifier" true row column start (start + 1) (some "function"),
      .named "argument_list"
        [.leaf "(" false row (column + 1) (start + 1) (start + 2),
          .leaf "identifier" true row (column + 2) (start + 2) (start + 3),
          .leaf ")" false row (column + 3) (start + 3) (start + 4)]
        (some "arguments") ⟨row, column + 1⟩ ⟨row, column + 4⟩ ⟨start + 1, start + 4⟩]
    field ⟨row, column⟩ ⟨row, column + 4⟩ ⟨start, start + 4⟩

/-- A function of one letter without parameters, over its only statement. -/
def functionAt (row start : Nat) (statement : ConcreteTree) : ConcreteTree :=
  .named "function_definition"
    [.leaf "def" false row 0 start (start + 3),
      .leaf "identifier" true row 4 (start + 4) (start + 5) (some "name"),
      .named "parameters"
        [.leaf "(" false row 5 (start + 5) (start + 6),
          .leaf ")" false row 6 (start + 6) (start + 7)]
        (some "parameters") ⟨row, 5⟩ ⟨row, 7⟩ ⟨start + 5, start + 7⟩,
      .leaf ":" false row 7 (start + 7) (start + 8),
      .named "block" [statement] (some "body") statement.info.start statement.info.stop
        statement.info.bytes]
    none ⟨row, 0⟩ statement.info.stop ⟨start, statement.info.bytes.stop⟩

/-- Leaves with the same text are alike. -/
theorem Alike.leaf {source source' name : String} {named : Bool} {field : Option String}
    {row column start stop row' column' start' stop' : Nat}
    (h : (leaf name named row column start stop field).text source =
      (leaf name named row' column' start' stop' field).text source') :
    Alike source source' (leaf name named row column start stop field)
      (leaf name named row' column' start' stop' field) :=
  .node rfl h .nil

end Syntax.ConcreteTree

/-- The parts of the first statement of this text, without its comment. -/
def causedForm : RaiseForm where
  keyword := .leaf "raise" false 1 1 10 15
  operand := some (.callAt 2 2 21)
  cause := some (.leaf "from" false 2 7 26 30, .callAt 2 12 31 (some "cause"))

/-- The parts of its second statement, which has no cause. -/
def plainForm : RaiseForm where
  keyword := .leaf "raise" false 4 1 46 51
  operand := some (.callAt 4 7 52)
  cause := none

/-- The first statement. -/
def causedRaise : ConcreteTree :=
  .named "raise_statement"
    (causedForm.keyword :: .leaf "comment" true 1 7 16 18 :: causedForm.parts)
    none ⟨1, 1⟩ ⟨2, 16⟩ ⟨10, 35⟩

/-- The second statement. -/
def plainRaise : ConcreteTree :=
  .named "raise_statement" (plainForm.keyword :: plainForm.parts) none ⟨4, 1⟩ ⟨4, 11⟩ ⟨46, 56⟩

/-- The tree of this text. -/
def causesFile : ConcreteTree :=
  .named "module" [.functionAt 0 0 causedRaise, .functionAt 3 36 plainRaise] none ⟨0, 0⟩ ⟨5, 0⟩
    ⟨0, 57⟩

/-- Both statements name what they call, and so do the signatures of both functions. -/
theorem causesFile_raises :
    (causedForm.Describes causesText causedRaise ∧ plainForm.Describes causesText plainRaise) ∧
    raisedType (lower causesText causesFile) (causesFile.place [0, 4, 0]) = some "E" ∧
    raisedType (lower causesText causesFile) (causesFile.place [1, 4, 0]) = some "E" ∧
    ∃ d d', Definition.IsCopyAt causesText causesFile [0] (.functionAt 0 0 causedRaise) d ∧
      Definition.IsCopyAt causesText causesFile [1] (.functionAt 3 36 plainRaise) d' ∧
      ∃ sig sig', d.signature = .ok sig ∧ d'.signature = .ok sig' ∧
        sig.raiseTypes = sig'.raiseTypes := by
  have hcaused : causedForm.Describes causesText causedRaise :=
    { isRaise := by decide
      children := ⟨_, rfl, rfl⟩
      keyword := by decide +kernel
      operand := by decide +kernel
      cause := by decide +kernel }
  have hplain : plainForm.Describes causesText plainRaise :=
    { isRaise := by decide
      children := ⟨_, rfl, rfl⟩
      keyword := by decide +kernel
      operand := by decide +kernel
      cause := by decide +kernel }
  have hsame : causedForm.SameOperand causesText causesText plainForm := by
    refine .some (.node rfl (by decide +kernel) (.cons ?_ (.cons ?_ .nil)))
    · exact .leaf (by decide +kernel)
    · refine .node rfl (by decide +kernel) (.cons ?_ (.cons ?_ (.cons ?_ .nil)))
      all_goals exact .leaf (by decide +kernel)
  obtain ⟨-, hcall, -, hother⟩ := raised_type_of_every_form causesText causesFile
    (p := [0, 4, 0]) rfl hcaused
  have hraised : raisedType (lower causesText causesFile) (causesFile.place [0, 4, 0]) =
      some "E" := by
    rw [hcall _ rfl (by decide)]
    decide +kernel
  obtain ⟨halike, hsignatures⟩ := hother causesText causesFile
  obtain ⟨d, hd⟩ := Definition.exists_isCopyAt causesText (c := causesFile) (p := [0]) rfl
    (by decide)
  obtain ⟨d', hd'⟩ := Definition.exists_isCopyAt causesText (c := causesFile) (p := [1]) rfl
    (by decide)
  refine ⟨⟨hcaused, hplain⟩, hraised, ?_, d, d', hd, hd', ?_⟩
  · exact (halike [1, 4, 0] plainRaise plainForm rfl hplain hsame).trans hraised
  · refine hsignatures [0] [1] _ _ d d' hd hd' (by decide) (by decide) (by decide) (by decide) ?_
    exact .cons ⟨causedForm, plainForm, hcaused, hplain, hsame⟩ .nil

end DocSignature
