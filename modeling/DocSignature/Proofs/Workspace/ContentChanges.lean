import DocSignature.Proofs.Workspace.PathRequests

/-!
# Several changes in one notification

Changes of a document that come one by one leave the text of the last one.  A notification
(`did_change`) with several changes leaves the text of the first.  So the two ways to send the same
changes agree just if the first and the last text are the same; otherwise requests for the document
are answered from a text that is out of date.
-/

set_option autoImplicit false

namespace DocSignature

/-- Of two documents put under one URL the later one stays, as if it were the only one. -/
theorem DocumentStore.insert_insert (s : DocumentStore) (url : Url) (d e : Document) :
    (s.insert url d).insert url e = s.insert url e := by
  have hentries : ((s.insert url d).erase url).entries = (s.erase url).entries := by
    simp [insert, erase, List.filter_filter]
  simp only [insert] at hentries ⊢
  congr 2

namespace Session

variable (s : Session) (url : Url) (version : Int)

/-- The session after the text of a document came, if one came at all. -/
def receive : Option String → Session
  | none => s
  | some text => s.step (.didOpen url text version)

/-- A text that comes later replaces one that came before. -/
theorem receive_receive (text : Option String) (later : String) :
    (s.receive url version text).receive url version (some later) =
      s.receive url version (some later) := by
  cases text with
  | none => rfl
  | some text => simp only [receive, step, DocumentStore.insert_insert]

/-- A notification leaves the first of its texts. -/
theorem step_didChange_eq_receive_head (texts : List String) :
    s.step (.didChange url version texts) = s.receive url version texts.head? := by
  cases texts <;> rfl

/-- Notifications with one text each leave the last of the texts. -/
theorem run_didChange_eq_receive_last (texts : List String) :
    s.run (texts.map fun text => .didChange url version [text]) =
      s.receive url version texts.getLast? := by
  induction texts using List.reverseRecOn with
  | nil => rfl
  | append_singleton texts last ih =>
    have hstep := (s.receive url version texts.getLast?).step_didChange_eq_receive_head
      url version [last]
    rw [List.map_append, List.map_singleton, run_concat, ih, hstep, List.getLast?_concat]
    exact s.receive_receive url version texts.getLast? last

variable {s url version}

/-- The text that came is under its URL, and every other URL has what it had. -/
theorem get?_receive {text : Option String} {t : String} (h : text = some t) (key : Url) :
    (s.receive url version text).documents.get? key =
      if key = url then some ⟨t, version⟩ else s.documents.get? key := by
  subst h
  exact s.documents.get?_insert url key ⟨t, version⟩

/-- Documents under other URLs stay as they are. -/
theorem get?_receive_of_ne (text : Option String) {key : Url} (hkey : key ≠ url) :
    (s.receive url version text).documents.get? key = s.documents.get? key := by
  cases text with
  | none => rfl
  | some t => rw [get?_receive rfl, if_neg hkey]

/-- The store tells which text came. -/
theorem documents_receive_eq_iff {text other : Option String}
    (h : text.isSome = other.isSome) :
    (s.receive url version text).documents = (s.receive url version other).documents ↔
      text = other := by
  constructor
  · intro heq
    cases text with
    | none => exact (Option.isNone_iff_eq_none.1 (by simpa using h.symm)).symm
    | some t =>
      obtain ⟨o, rfl⟩ := Option.isSome_iff_exists.1 h.symm
      have hget := congrArg (·.get? url) heq
      simp only [get?_receive rfl, if_true, Option.some.injEq, Document.mk.injEq] at hget
      rw [hget.1]
  · rintro rfl
    rfl

end Session

/-- Changes in one notification against the same changes one by one, in any session.  Either way the
store differs from the one before under the URL of the document only, and the two stores are the
same just if the first text is the last one.  One notification leaves the first text, so requests
for the document are answered from the first; notifications one by one leave the last text, and
requests are answered from the last. -/
theorem changes_apply_in_order_iff [Url.DomainNames] (s : Session) (url : Url) (version : Int)
    (texts : List String) :
    let batch := (s.step (.didChange url version texts)).documents
    let single := (s.run (texts.map fun text => .didChange url version [text])).documents
    (batch = single ↔ texts.head? = texts.getLast?) ∧
    (∀ key, key ≠ url → batch.get? key = s.documents.get? key ∧
      single.get? key = s.documents.get? key) ∧
    (∀ first ∈ texts.head?, ∀ last ∈ texts.getLast?,
      batch.get? url = some ⟨first, version⟩ ∧ single.get? url = some ⟨last, version⟩ ∧
      ∀ root disk uri line, documentUrl? uri root = some url →
        answerRequest batch root disk ⟨uri, line⟩ = lookupAnswer first line ∧
        answerRequest single root disk ⟨uri, line⟩ = lookupAnswer last line) := by
  intro batch single
  have hbatch : batch = (s.receive url version texts.head?).documents :=
    congrArg (·.documents) (s.step_didChange_eq_receive_head url version texts)
  have hsingle : single = (s.receive url version texts.getLast?).documents :=
    congrArg (·.documents) (s.run_didChange_eq_receive_last url version texts)
  have hsome : texts.head?.isSome = texts.getLast?.isSome := by
    cases texts <;> simp
  rw [hbatch, hsingle]
  refine ⟨Session.documents_receive_eq_iff hsome, ?_, ?_⟩
  · intro key hkey
    exact ⟨Session.get?_receive_of_ne _ hkey, Session.get?_receive_of_ne _ hkey⟩
  · intro first hfirst last hlast
    rw [Option.mem_def.1 hfirst, Option.mem_def.1 hlast]
    refine ⟨?_, ?_, ?_⟩
    · rw [Session.get?_receive rfl, if_pos rfl]
    · rw [Session.get?_receive rfl, if_pos rfl]
    · intro root disk uri line hurl
      exact ⟨answerRequest_didOpen_self s disk first version line hurl,
        answerRequest_didOpen_self s disk last version line hurl⟩

/-- Two changes sent together leave the text that the second one replaces. -/
theorem batched_changes_leave_stale_text :
    let url := Url.localFile "/work/a.py"
    let texts := ["def old(a):\n    pass\n", "def new(b):\n    pass\n"]
    let batch := (Session.step {} (.didChange url 2 texts)).documents
    let single := (Session.run {} (texts.map fun text => .didChange url 2 [text])).documents
    batch.get? url = some ⟨"def old(a):\n    pass\n", 2⟩ ∧
      single.get? url = some ⟨"def new(b):\n    pass\n", 2⟩ ∧ batch ≠ single := by
  intro url texts batch single
  have hbatch : batch.get? url = some ⟨"def old(a):\n    pass\n", 2⟩ := by decide +kernel
  have hsingle : single.get? url = some ⟨"def new(b):\n    pass\n", 2⟩ := by decide +kernel
  refine ⟨hbatch, hsingle, ?_⟩
  intro heq
  rw [heq, hsingle] at hbatch
  revert hbatch
  decide

end DocSignature
