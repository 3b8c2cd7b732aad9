import DocSignature.Workspace.Session
import Mathlib.Data.Finset.Card
import Mathlib.Data.List.Induction

/-!
# Open documents over whole runs

The store (`DocumentStore`) is seen through `get?` only: two equations say what closing and opening
do to it, and from these follows what one step of a session does to the document under a URL.  A
step sends the document, closes it, or leaves it alone.  `get?_run_eq_some_iff` is the run lemma:
what is open under a URL is what came last and has not been closed since.
-/

set_option autoImplicit false

namespace DocSignature

namespace DocumentStore

/-- After erasing, the document is gone and all others are there. -/
theorem get?_erase (s : DocumentStore) (url key : Url) :
    (s.erase url).get? key = if key = url then none else s.get? key := by
  unfold get? erase
  rw [List.find?_filter]
  split
  · next heq =>
    subst heq
    simp
  · next hne =>
    -- an entry under the key is not one under the URL that is closed
    congr 2
    funext e
    by_cases he : e.1 = key
    · simp [he, hne]
    · simp [he]

/-- After inserting, the document is there and all others are as they were. -/
theorem get?_insert (s : DocumentStore) (url key : Url) (d : Document) :
    (s.insert url d).get? key = if key = url then some d else s.get? key := by
  have herase := s.get?_erase url key
  unfold get? at herase ⊢
  by_cases heq : key = url
  · subst heq
    simp [insert]
  · have hne : (url == key) = false := by simpa using fun h : url = key => heq h.symm
    rw [if_neg heq] at herase ⊢
    simp only [insert, List.find?_cons, hne]
    exact herase

/-- A document is found just if its URL is among those of the store. -/
theorem isSome_get?_iff (s : DocumentStore) (url : Url) :
    (s.get? url).isSome ↔ url ∈ s.entries.map (·.1) := by
  unfold get?
  simp

/-- As many documents are open as there are URLs with a document. -/
theorem exists_finset_card_eq_size (s : DocumentStore) :
    ∃ opened : Finset Url, (∀ url, url ∈ opened ↔ (s.get? url).isSome) ∧ opened.card = s.size := by
  refine ⟨(s.entries.map (·.1)).toFinset, ?_, ?_⟩
  · intro url
    rw [List.mem_toFinset, s.isSome_get?_iff url]
  · rw [List.toFinset_card_of_nodup s.nodup, List.length_map, size]

/-- A store is empty just if it has size zero. -/
theorem isEmpty_iff_size_eq_zero (s : DocumentStore) : s.isEmpty ↔ s.size = 0 := by
  simp [isEmpty, size]

end DocumentStore

namespace Step

/-- The URL of the document that a step is about; the other steps are about none. -/
def url? : Step → Option Url
  | .didOpen url _ _ | .didChange url _ _ | .didClose url => some url
  | .begin .. | .askSignature _ | .ping | .shutdown => none

/-- A step brings the text of a document: it opens the document, or changes it and gives a text.  Of
several texts the first counts. -/
inductive Sends (url : Url) (d : Document) : Step → Prop where
  | opening : Sends url d (.didOpen url d.source d.version)
  | change (rest : List String) : Sends url d (.didChange url d.version (d.source :: rest))

/-- A step that sends a text is about the URL of the text. -/
theorem Sends.url?_eq {url : Url} {d : Document} {step : Step} (h : step.Sends url d) :
    step.url? = some url := by
  cases h <;> rfl

/-- A step neither brings the text of a document nor closes it. -/
def Spares (url : Url) (step : Step) : Prop :=
  step ≠ .didClose url ∧ ∀ d, ¬ step.Sends url d

/-- A step that is about another URL spares this one. -/
theorem spares_of_url?_ne {url : Url} {step : Step} (h : step.url? ≠ some url) :
    step.Spares url := by
  constructor
  · rintro rfl
    exact h rfl
  · intro d hd
    exact h hd.url?_eq

/-- The three things that a step may do to the document under a URL. -/
theorem sends_or_closes_or_spares (url : Url) (step : Step) :
    (∃ d, step.Sends url d) ∨ step = .didClose url ∨ step.Spares url := by
  by_cases hsends : ∃ d, step.Sends url d
  · exact .inl hsends
  by_cases hcloses : step = .didClose url
  · exact .inr (.inl hcloses)
  · exact .inr (.inr ⟨hcloses, fun d hd => hsends ⟨d, hd⟩⟩)

end Step

namespace Session

section

variable {s : Session} {step : Step} {url : Url}

/-! ## One step -/

/-- After a step that sends a text, the text is in the store. -/
theorem get?_step_of_sends {d : Document} (h : step.Sends url d) :
    (s.step step).documents.get? url = some d := by
  cases h with
  | opening => simp [Session.step, DocumentStore.get?_insert]
  | change rest => simp [Session.step, DocumentStore.get?_insert]

/-- After closing, the document is not in the store. -/
theorem get?_step_didClose : (s.step (.didClose url)).documents.get? url = none := by
  simp [Session.step, DocumentStore.get?_erase]

/-- A step that brings no text and closes nothing leaves the whole store as it is. -/
theorem documents_step_of_idle (hsends : ∀ u d, ¬ step.Sends u d)
    (hcloses : ∀ u, step ≠ .didClose u) : (s.step step).documents = s.documents := by
  cases step with
  | didOpen u text version => exact absurd .opening (hsends u ⟨text, version⟩)
  | didChange u version texts =>
    cases texts with
    | nil => rfl
    | cons text rest => exact absurd (.change rest) (hsends u ⟨text, version⟩)
  | didClose u => exact absurd rfl (hcloses u)
  | begin folders rootUri => rfl
  | askSignature request => rfl
  | ping => rfl
  | shutdown => rfl

/-- A step that spares a URL leaves what is under it. -/
theorem get?_step_of_spares (h : step.Spares url) :
    (s.step step).documents.get? url = s.documents.get? url := by
  obtain ⟨hcloses, hsends⟩ := h
  -- a document sent or closed all the same is one under another URL
  by_cases hidle : ∃ u d, step.Sends u d
  · obtain ⟨u, d, hd⟩ := hidle
    have hne : url ≠ u := by
      rintro rfl
      exact hsends d hd
    cases hd with
    | opening => simp [Session.step, DocumentStore.get?_insert, hne]
    | change rest => simp [Session.step, DocumentStore.get?_insert, hne]
  by_cases hclosed : ∃ u, step = .didClose u
  · obtain ⟨u, rfl⟩ := hclosed
    have hne : url ≠ u := by
      rintro rfl
      exact hcloses rfl
    simp [Session.step, DocumentStore.get?_erase, hne]
  · push Not at hidle hclosed
    rw [documents_step_of_idle hidle hclosed]

/-- What is under a URL after a step depends on the step and on what was under it before. -/
theorem get?_step_congr {s' : Session} (h : s.documents.get? url = s'.documents.get? url) :
    (s.step step).documents.get? url = (s'.step step).documents.get? url := by
  obtain ⟨d, hd⟩ | rfl | hspares := step.sends_or_closes_or_spares url
  · rw [get?_step_of_sends hd, get?_step_of_sends hd]
  · rw [get?_step_didClose, get?_step_didClose]
  · rw [get?_step_of_spares hspares, get?_step_of_spares hspares, h]

end

/-! ## Runs -/

/-- A run with one more step takes the step after the run. -/
theorem run_concat (s : Session) (steps : List Step) (step : Step) :
    s.run (steps ++ [step]) = (s.run steps).step step := by
  simp [run]

/-- After a run from an empty store a document is open just if a step of the run sent it and every
later step spared it. -/
theorem get?_run_eq_some_iff (steps : List Step) (url : Url) (d : Document) :
    (run {} steps).documents.get? url = some d ↔
      ∃ before step after, steps = before ++ step :: after ∧ step.Sends url d ∧
        ∀ later ∈ after, later.Spares url := by
  induction steps using List.reverseRecOn with
  | nil => simp [run, DocumentStore.get?]
  | append_singleton steps last ih =>
    rw [run_concat]
    constructor
    · intro h
      obtain ⟨e, he⟩ | rfl | hspares := last.sends_or_closes_or_spares url
      · rw [get?_step_of_sends he] at h
        obtain rfl := Option.some.inj h
        exact ⟨steps, last, [], rfl, he, by simp⟩
      · simp [get?_step_didClose] at h
      · rw [get?_step_of_spares hspares] at h
        obtain ⟨before, step, after, rfl, hsends, hafter⟩ := ih.1 h
        refine ⟨before, step, after ++ [last], by simp, hsends, ?_⟩
        intro later hlater
        rcases List.mem_append.1 hlater with hlater | hlater
        · exact hafter later hlater
        · rwa [List.mem_singleton.1 hlater]
    · rintro ⟨before, step, after, hsplit, hsends, hafter⟩
      -- the sending step is the last one, or the last one is among those that spare the document
      obtain rfl | ⟨after, later, rfl⟩ := after.eq_nil_or_concat'
      · obtain ⟨rfl, hlast⟩ := List.append_inj' hsplit rfl
        rw [List.singleton_inj.1 hlast]
        exact get?_step_of_sends hsends
      · rw [← List.cons_append, ← List.append_assoc] at hsplit
        obtain ⟨rfl, hlast⟩ := List.append_inj' hsplit rfl
        rw [List.singleton_inj.1 hlast, get?_step_of_spares (hafter later (by simp))]
        exact ih.2 ⟨before, step, after, rfl, hsends, fun t ht => hafter t (by simp [ht])⟩

/-- After a run no document is open under a URL just if the run closed it after every step that sent
one. -/
theorem get?_run_eq_none_iff (steps : List Step) (url : Url) :
    (run {} steps).documents.get? url = none ↔
      ∀ before step after d, steps = before ++ step :: after → step.Sends url d →
        .didClose url ∈ after := by
  constructor
  · intro hnone before step after d hsplit hsends
    subst hsplit
    -- otherwise what came last after the step, or the step itself, would still be open
    induction after using List.reverseRecOn with
    | nil =>
      rw [run_concat, get?_step_of_sends hsends] at hnone
      simp at hnone
    | append_singleton after last ih =>
      rw [← List.cons_append, ← List.append_assoc, run_concat] at hnone
      obtain ⟨e, he⟩ | rfl | hspares := last.sends_or_closes_or_spares url
      · rw [get?_step_of_sends he] at hnone
        simp at hnone
      · simp
      · rw [get?_step_of_spares hspares] at hnone
        exact List.mem_append_left _ (ih hnone)
  · intro hclosed
    rw [Option.eq_none_iff_forall_ne_some]
    intro d hd
    obtain ⟨before, step, after, hsplit, hsends, hafter⟩ := (get?_run_eq_some_iff steps url d).1 hd
    exact (hafter _ (hclosed before step after d hsplit hsends)).1 rfl

/-- The steps about a URL alone decide what is under it. -/
theorem get?_run_filter (steps : List Step) (url : Url) :
    (run {} (steps.filter (·.url? == some url))).documents.get? url =
      (run {} steps).documents.get? url := by
  induction steps using List.reverseRecOn with
  | nil => rfl
  | append_singleton steps last ih =>
    rw [List.filter_append, run_concat]
    by_cases hlast : last.url? = some url
    · have hkept : [last].filter (·.url? == some url) = [last] := by simp [hlast]
      rw [hkept, run_concat]
      exact get?_step_congr ih
    · have hdropped : [last].filter (·.url? == some url) = [] := by simp [hlast]
      rw [hdropped, List.append_nil, ih, get?_step_of_spares (Step.spares_of_url?_ne hlast)]

/-- What is under a URL depends on the steps about that URL only. -/
theorem get?_run_congr {steps others : List Step} {url : Url}
    (h : others.filter (·.url? == some url) = steps.filter (·.url? == some url)) :
    (run {} others).documents.get? url = (run {} steps).documents.get? url := by
  rw [← get?_run_filter others, h, get?_run_filter]

/-- Steps about different documents may change places. -/
theorem get?_run_swap {a b : Step} (h : ∀ u, a.url? = some u → b.url? ≠ some u)
    (before after : List Step) (url : Url) :
    (run {} (before ++ b :: a :: after)).documents.get? url =
      (run {} (before ++ a :: b :: after)).documents.get? url := by
  apply get?_run_congr
  simp only [List.filter_append, List.filter_cons]
  by_cases ha : a.url? = some url
  · have hb : b.url? ≠ some url := h url ha
    simp [ha, hb]
  · simp [ha]

/-- The open documents after any run.  Under a URL stands the text and the version that a step sent
last, unless a later step closed it, and nothing otherwise.  So only the steps about a URL matter to
it, and steps about different URLs may change places.  The size of the store counts the URLs with a
document, and the store is empty if there are none.  Steps that bring no text and close nothing
leave the store as it is, whatever the session: a change without a text, the beginning of a session,
a request, a ping and a shutdown. -/
theorem documents_after_run (steps : List Step) :
    let store := (run {} steps).documents
    (∀ url d, store.get? url = some d ↔
      ∃ before step after, steps = before ++ step :: after ∧ step.Sends url d ∧
        ∀ later ∈ after, later ≠ .didClose url ∧ ∀ e, ¬ later.Sends url e) ∧
    (∀ url, store.get? url = none ↔
      ∀ before step after d, steps = before ++ step :: after → step.Sends url d →
        .didClose url ∈ after) ∧
    (∀ url others,
      others.filter (·.url? == some url) = steps.filter (·.url? == some url) →
        (run {} others).documents.get? url = store.get? url) ∧
    (∀ before a b after, steps = before ++ a :: b :: after →
      (∀ u, a.url? = some u → b.url? ≠ some u) →
        ∀ url, (run {} (before ++ b :: a :: after)).documents.get? url = store.get? url) ∧
    (∃ opened : Finset Url, (∀ url, url ∈ opened ↔ (store.get? url).isSome) ∧
      opened.card = store.size) ∧
    (store.isEmpty ↔ store.size = 0) ∧
    (∀ (s : Session) url version,
      (s.step (.didChange url version [])).documents = s.documents) ∧
    ∀ (s : Session) step, step.url? = none → (s.step step).documents = s.documents := by
  intro store
  refine ⟨get?_run_eq_some_iff steps, get?_run_eq_none_iff steps, ?_, ?_,
    store.exists_finset_card_eq_size, store.isEmpty_iff_size_eq_zero, ?_, ?_⟩
  · intro url others h
    exact get?_run_congr h
  · intro before a b after hsplit hdifferent url
    have hswap := get?_run_swap hdifferent before after url
    rwa [← hsplit] at hswap
  · intro s url version
    rfl
  · intro s step hnone
    apply documents_step_of_idle
    · intro u d hd
      simp [hd.url?_eq] at hnone
    · rintro u rfl
      simp [Step.url?] at hnone

end Session

end DocSignature
