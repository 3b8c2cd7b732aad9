import DocSignature.Proofs.Signature.ReturnAnnotation
import DocSignature.Proofs.Signature.Scopes

/-!
# Corresponding nodes of two trees

Nodes of two trees correspond if they have the same kind, role and text and their children
correspond in order.  Where the nodes stand in their trees does not matter.  Everything that is read
off a node goes from the node to its children, so what is read off corresponding nodes is the same.
-/

set_option autoImplicit false

namespace DocSignature

open Syntax Syntax.SyntaxTree

namespace Syntax.SyntaxTree

section

variable {α β : Type} {R : α → β → Prop} {xs : List α} {ys : List β}

/-- The first members of related lists that pass related tests are related. -/
theorem rel_find? {p : α → Bool} {q : β → Bool} (h : List.Forall₂ R xs ys)
    (hpq : ∀ x y, R x y → p x = q y) : Option.Rel R (xs.find? p) (ys.find? q) := by
  cases hy : ys.find? q with
  | none =>
    rw [find?_eq_none_of_forall₂ h hpq hy]
    exact .none
  | some y =>
    obtain ⟨x, hx, hxy⟩ := exists_find?_of_forall₂ h hpq hy
    rw [hx]
    exact .some hxy

/-- Related lists are searched part by part, each part knowing where it comes from. -/
theorem forall₂_flatMap {γ δ : Type} {P : γ → δ → Prop} {f : α → List γ} {g : β → List δ}
    (h : List.Forall₂ R xs ys) (hfg : ∀ x ∈ xs, ∀ y, R x y → List.Forall₂ P (f x) (g y)) :
    List.Forall₂ P (xs.flatMap f) (ys.flatMap g) := by
  have hmem : List.Forall₂ (fun x y => x ∈ xs ∧ R x y) xs ys :=
    (List.forall₂_and_left xs ys).2 ⟨fun _ hx => hx, h⟩
  exact List.rel_flatMap hmem fun x y hxy => hfg x hxy.1 y hxy.2

variable {x z : Option α} {y w : Option β}

/-- What is read off related options is the same. -/
theorem map_eq_map_of_rel {γ : Type} {f : α → γ} {g : β → γ} (h : Option.Rel R x y)
    (hfg : ∀ a ∈ x, ∀ b, R a b → f a = g b) : x.map f = y.map g := by
  cases h with
  | none => rfl
  | some hab => exact congrArg some (hfg _ rfl _ hab)

/-- Related values, or related defaults in their place, are related. -/
theorem rel_getD {a : α} {b : β} (h : Option.Rel R x y) (hab : R a b) :
    R (x.getD a) (y.getD b) := by
  cases h with
  | none => exact hab
  | some hxy => exact hxy

/-- The first of two choices is related to the first of the other two. -/
theorem rel_or (h : Option.Rel R x y) (h' : Option.Rel R z w) :
    Option.Rel R (x <|> z) (y <|> w) := by
  cases h with
  | none => exact h'
  | some hxy => exact .some hxy

/-- Filters that agree on related values keep the relation. -/
theorem rel_option_filter {p : α → Bool} {q : β → Bool} (h : Option.Rel R x y)
    (hpq : ∀ a b, R a b → p a = q b) : Option.Rel R (x.filter p) (y.filter q) := by
  cases h with
  | none => exact .none
  | @some a b hab =>
    rw [Option.filter_some, Option.filter_some, hpq a b hab]
    split
    · exact .some hab
    · exact .none

end

variable {t t' : SyntaxTree} {R : Nat → Nat → Prop} {n n' : Nat}

/-- The children in a role correspond. -/
theorem rel_childByField (h : List.Forall₂ R (t.children n) (t'.children n'))
    (hfield : ∀ c c', R c c' → t.field c = t'.field c') (f : Field) :
    Option.Rel R (t.childByField n f) (t'.childByField n' f) :=
  rel_find? h fun c c' hc => by rw [hfield c c' hc]

/-- What a scan finds corresponds, if the children of all nodes correspond on the way. -/
theorem forall₂_scopeNodes {test : Kind → Bool} (hkind : ∀ n n', R n n' → t.kind n = t'.kind n')
    (hchildren : ∀ n n', R n n' → (t.kind n).isStatementContainer →
      List.Forall₂ R (t.children n) (t'.children n'))
    (h : List.Forall₂ R (t.children n) (t'.children n')) :
    List.Forall₂ R (scopeNodes t test n) (scopeNodes t' test n') := by
  induction n using induction_on_children t generalizing n' with
  | h n ih =>
    rw [scopeNodes_eq, scopeNodes_eq]
    refine forall₂_flatMap h ?_
    intro c hc c' hcc'
    rw [← hkind c c' hcc']
    split
    · exact .cons hcc' .nil
    · split
      · next hcontainer => exact ih c hc (hchildren c c' hcc' hcontainer)
      · exact .nil

/-- A correspondence between nodes of two trees. -/
structure Matches (t t' : SyntaxTree) (R : Nat → Nat → Prop) : Prop where
  kind : ∀ {n n'}, R n n' → t.kind n = t'.kind n'
  field : ∀ {n n'}, R n n' → t.field n = t'.field n'
  text : ∀ {n n'}, R n n' → t.text n = t'.text n'
  children : ∀ {n n'}, R n n' → List.Forall₂ R (t.children n) (t'.children n')

namespace Matches

variable (m : t.Matches t' R) (h : R n n')

include m h

/-- The children in a role correspond. -/
theorem rel_childByField (f : Field) :
    Option.Rel R (t.childByField n f) (t'.childByField n' f) :=
  SyntaxTree.rel_childByField (m.children h) (fun _ _ hc => m.field hc) f

/-- The nodes below corresponding nodes correspond. -/
theorem forall₂_descendants : List.Forall₂ R (t.descendants n) (t'.descendants n') := by
  induction n using induction_on_children t generalizing n' with
  | h n ih =>
    rw [descendants_eq, descendants_eq]
    exact .cons h (forall₂_flatMap (m.children h) fun c hc _ hcc' => ih c hc hcc')

/-- The texts in a role are the same. -/
theorem fieldText_eq (f : Field) : fieldText t n f = fieldText t' n' f :=
  map_eq_map_of_rel (m.rel_childByField h f) fun _ _ _ hc => m.text hc

/-- The names of corresponding parameters are the same. -/
theorem parameterName_eq : parameterName t n = parameterName t' n' := by
  have hidentifier : ∀ c c', R c c' →
      (t.kind c == .identifier) = (t'.kind c' == .identifier) := by
    intro c c' hc
    rw [m.kind hc]
  have hinside := rel_find? (List.forall₂_drop 1 (m.forall₂_descendants h)) hidentifier
  have hnamed := rel_option_filter (m.rel_childByField h .name) hidentifier
  exact m.text (rel_getD (rel_or hnamed hinside) h)

/-- Corresponding entries of parameter lists declare the same parameter. -/
theorem parameterOf_eq : parameterOf t n = parameterOf t' n' := by
  unfold parameterOf
  rw [m.parameterName_eq h, m.fieldText_eq h, m.fieldText_eq h]

/-- What corresponding `raise` statements raise corresponds. -/
theorem rel_raisedNode : Option.Rel R (raisedNode t n) (raisedNode t' n') := by
  obtain ⟨l, hl, hl'⟩ := exists_pairs_of_forall₂ (m.children h)
  have hkeyword : ∀ (x : { x : Nat × Nat // R x.1 x.2 }) word,
      t.isKeyword x.1.1 word = t'.isKeyword x.1.2 word := by
    intro x word
    rw [isKeyword, isKeyword, m.kind x.2, m.text x.2]
  have hkind : ∀ x : { x : Nat × Nat // R x.1 x.2 }, t.kind x.1.1 = t'.kind x.1.2 :=
    fun x => m.kind x.2
  unfold raisedNode
  rw [hl, hl']
  simp only [List.dropWhile_map, List.takeWhile_map, List.find?_map, Function.comp_def, hkeyword,
    hkind]
  cases List.find? _ _ with
  | none => exact .none
  | some x => exact .some x.2

/-- Corresponding `raise` statements name the same exception. -/
theorem raisedType_eq : raisedType t n = raisedType t' n' := by
  refine map_eq_map_of_rel (m.rel_raisedNode h) ?_
  intro c _ c' hc
  dsimp only
  rw [← m.kind hc]
  split
  · exact m.text (rel_getD (m.rel_childByField hc .function) hc)
  · exact m.text hc

end Matches

end Syntax.SyntaxTree

end DocSignature
