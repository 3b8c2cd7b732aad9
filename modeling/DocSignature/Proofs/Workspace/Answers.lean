import DocSignature.Rpc.Server

/-!
# Where answers come from

A request (`docstring_info`) is answered from one text: that of the open document, or that of the
file if the document is not open.  `Obtains` has a rule for each of these sources and `Refuses` one
for each reason why there is no text.  Every request obtains one text or is refused for one reason,
so what its answer depends on, and which error it may be, can be read off the rules.
-/

set_option autoImplicit false

namespace DocSignature

/-- The answer that a lookup in a text gives to a request. -/
def lookupAnswer (source : String) (line : Nat) : Except RequestError (Option Signature) :=
  (lookupSignature source line).result.mapError .lookup

/-- The number of the error that a client gets for an answer, unless it is a record or null. -/
def errorNumber? : Except RequestError (Option Signature) → Option Int
  | .error e => some (Rpc.Error.ofRequest e).code.number
  | .ok _ => none

/-- The number of a lookup that fails is that of an internal error. -/
theorem errorNumber?_lookupAnswer_eq_some_iff (source : String) (line : Nat) (n : Int) :
    errorNumber? (lookupAnswer source line) = some n ↔
      n = -32603 ∧ ∃ e, (lookupSignature source line).result = .error e := by
  unfold lookupAnswer
  cases (lookupSignature source line).result with
  | error e =>
    change some (-32603) = some n ↔ _
    simp [eq_comm]
  | ok found =>
    change none = some n ↔ _
    simp

section

variable [Url.DomainNames] (documents : DocumentStore) (root : Path) (disk : Disk) (uri : String)

/-- The text that a request for a document is answered from. -/
inductive Obtains : String → Prop where
  | opened {url : Url} {d : Document} (hurl : documentUrl? uri root = some url)
      (hopen : documents.get? url = some d) : Obtains d.source
  | read {url : Url} {path : Path} {source : String} (hurl : documentUrl? uri root = some url)
      (hclosed : documents.get? url = none) (hpath : url.toFilePath? = some path)
      (hread : disk.readText path = .ok source) : Obtains source

/-- Why there is no text to answer a request for a document from. -/
inductive Refuses : RequestError → Prop where
  | invalidPath (hurl : documentUrl? uri root = none) : Refuses (.invalidPath uri)
  | notAFile {url : Url} (hurl : documentUrl? uri root = some url)
      (hclosed : documents.get? url = none) (hpath : url.toFilePath? = none) :
      Refuses (.notAFile url)
  | unreadable {url : Url} {path : Path} {reason : ReadError}
      (hurl : documentUrl? uri root = some url) (hclosed : documents.get? url = none)
      (hpath : url.toFilePath? = some path) (hread : disk.readText path = .error reason) :
      Refuses (.unreadable path reason)

/-- Either there is a text or there is a reason why there is none. -/
theorem obtains_or_refuses :
    (∃ source, Obtains documents root disk uri source) ∨
      ∃ e, Refuses documents root disk uri e := by
  cases hurl : documentUrl? uri root with
  | none => exact .inr ⟨_, .invalidPath hurl⟩
  | some url =>
    cases hopen : documents.get? url with
    | some d => exact .inl ⟨_, .opened hurl hopen⟩
    | none =>
      cases hpath : url.toFilePath? with
      | none => exact .inr ⟨_, .notAFile hurl hopen hpath⟩
      | some path =>
        cases hread : disk.readText path with
        | error reason => exact .inr ⟨_, .unreadable hurl hopen hpath hread⟩
        | ok source => exact .inl ⟨_, .read hurl hopen hpath hread⟩

variable {documents root disk uri}

/-- There is one text at most. -/
theorem Obtains.unique {source other : String} (h : Obtains documents root disk uri source)
    (h' : Obtains documents root disk uri other) : source = other := by
  cases h with
  | opened hurl hopen => cases h' <;> simp_all
  | read hurl hclosed hpath hread => cases h' <;> simp_all

/-- There are not both a text and a reason why there is none. -/
theorem Obtains.not_refuses {source : String} (h : Obtains documents root disk uri source)
    (e : RequestError) : ¬ Refuses documents root disk uri e := by
  intro hrefuses
  cases h with
  | opened hurl hopen => cases hrefuses <;> simp_all
  | read hurl hclosed hpath hread => cases hrefuses <;> simp_all

end

section

variable [Url.DomainNames] {documents : DocumentStore} {root : Path} {disk : Disk}
  {r : SignatureRequest}

/-- Where there is a text, the answer is that of a lookup in it. -/
theorem Obtains.answerRequest_eq {source : String}
    (h : Obtains documents root disk r.uri source) :
    answerRequest documents root disk r = lookupAnswer source r.line := by
  have htext : ∀ url, documentUrl? r.uri root = some url →
      documentText documents disk url = .ok source →
        answerRequest documents root disk r = lookupAnswer source r.line := by
    intro url hurl htext
    unfold answerRequest lookupAnswer
    rw [hurl]
    simp only [htext]
    cases (lookupSignature source r.line).result <;> rfl
  cases h with
  | opened hurl hopen =>
    apply htext _ hurl
    simp [documentText, hopen]
  | read hurl hclosed hpath hread =>
    apply htext _ hurl
    simp [documentText, fileText, hclosed, hpath, hread]

/-- Where there is no text, the answer is the reason. -/
theorem Refuses.answerRequest_eq {e : RequestError} (h : Refuses documents root disk r.uri e) :
    answerRequest documents root disk r = .error e := by
  cases h with
  | invalidPath hurl => simp [answerRequest, hurl]
  | notAFile hurl hclosed hpath =>
    simp [answerRequest, documentText, fileText, hurl, hclosed, hpath]
  | unreadable hurl hclosed hpath hread =>
    simp [answerRequest, documentText, fileText, hurl, hclosed, hpath, hread]

/-! ## Numbers of errors -/

/-- A request without a text has invalid parameters. -/
theorem Refuses.number_eq {e : RequestError} (h : Refuses documents root disk r.uri e) :
    (Rpc.Error.ofRequest e).code.number = -32602 := by
  cases h <;> rfl

/-- The parameters of a request are invalid just if there is no text. -/
theorem errorNumber?_eq_invalidParams_iff :
    errorNumber? (answerRequest documents root disk r) = some (-32602) ↔
      ∃ e, Refuses documents root disk r.uri e := by
  obtain ⟨source, hsource⟩ | ⟨e, he⟩ := obtains_or_refuses documents root disk r.uri
  · rw [hsource.answerRequest_eq, errorNumber?_lookupAnswer_eq_some_iff]
    constructor
    · rintro ⟨hnumber, -⟩
      simp at hnumber
    · rintro ⟨e, he⟩
      exact absurd he (hsource.not_refuses e)
  · have hnumber := he.number_eq
    rw [he.answerRequest_eq, errorNumber?, hnumber]
    exact ⟨fun _ => ⟨e, he⟩, fun _ => rfl⟩

/-- A request ends in an internal error just if there is a text and the lookup in it fails. -/
theorem errorNumber?_eq_internalError_iff :
    errorNumber? (answerRequest documents root disk r) = some (-32603) ↔
      ∃ source, Obtains documents root disk r.uri source ∧
        ∃ e, (lookupSignature source r.line).result = .error e := by
  obtain ⟨source, hsource⟩ | ⟨e, he⟩ := obtains_or_refuses documents root disk r.uri
  · rw [hsource.answerRequest_eq, errorNumber?_lookupAnswer_eq_some_iff]
    constructor
    · rintro ⟨-, hfails⟩
      exact ⟨source, hsource, hfails⟩
    · rintro ⟨other, hother, hfails⟩
      rw [hsource.unique hother]
      exact ⟨rfl, hfails⟩
  · have hnumber := he.number_eq
    rw [he.answerRequest_eq, errorNumber?, hnumber]
    constructor
    · intro h
      simp at h
    · rintro ⟨source, hsource, -⟩
      exact absurd he (hsource.not_refuses e)

/-- A request that ends in no error of either number is answered. -/
theorem exists_answerRequest_eq_ok
    (hparams : errorNumber? (answerRequest documents root disk r) ≠ some (-32602))
    (hinternal : errorNumber? (answerRequest documents root disk r) ≠ some (-32603)) :
    ∃ found, answerRequest documents root disk r = .ok found := by
  cases hanswer : answerRequest documents root disk r with
  | ok found => exact ⟨found, rfl⟩
  | error e =>
    rw [hanswer, errorNumber?] at hparams hinternal
    cases e with
    | lookup reason => exact absurd rfl hinternal
    | invalidPath uri => exact absurd rfl hparams
    | notAFile url => exact absurd rfl hparams
    | unreadable path reason => exact absurd rfl hparams

end

/-- A file is read as a text just if its bytes are read and are UTF-8. -/
theorem Disk.readText_eq_ok_iff {disk : Disk} {path : Path} {source : String} :
    disk.readText path = .ok source ↔
      ∃ bytes, disk.read path = .ok bytes ∧ Text.ofUtf8? bytes = some source := by
  unfold readText
  cases disk.read path with
  | error reason => simp
  | ok bytes => cases htext : Text.ofUtf8? bytes <;> simp [htext]

/-- A request is refused if its document has no URL, or is not open and either names no file or
names one that cannot be read as UTF-8. -/
theorem exists_refuses_iff [Url.DomainNames] {documents : DocumentStore} {root : Path} {disk : Disk}
    {uri : String} :
    (∃ e, Refuses documents root disk uri e) ↔
      documentUrl? uri root = none ∨
        ∃ url, documentUrl? uri root = some url ∧ documents.get? url = none ∧
          (url.toFilePath? = none ∨ ∃ path, url.toFilePath? = some path ∧
            ¬ ∃ bytes source, disk.read path = .ok bytes ∧ Text.ofUtf8? bytes = some source) := by
  constructor
  · rintro ⟨e, he⟩
    cases he with
    | invalidPath hurl => exact .inl hurl
    | notAFile hurl hclosed hpath => exact .inr ⟨_, hurl, hclosed, .inl hpath⟩
    | unreadable hurl hclosed hpath hread =>
      refine .inr ⟨_, hurl, hclosed, .inr ⟨_, hpath, ?_⟩⟩
      rintro ⟨bytes, source, hsource⟩
      rw [Disk.readText_eq_ok_iff.2 ⟨bytes, hsource⟩] at hread
      simp at hread
  · rintro (hurl | ⟨url, hurl, hclosed, hpath | ⟨path, hpath, hnone⟩⟩)
    · exact ⟨_, .invalidPath hurl⟩
    · exact ⟨_, .notAFile hurl hclosed hpath⟩
    · cases hread : disk.readText path with
      | error reason => exact ⟨_, .unreadable hurl hclosed hpath hread⟩
      | ok source =>
        obtain ⟨bytes, hsource⟩ := Disk.readText_eq_ok_iff.1 hread
        exact absurd ⟨bytes, source, hsource⟩ hnone

/-- Whatever a server makes of a request for a signature, it stays as it is. -/
theorem Rpc.Server.server_handle_docstringInfo [Url.DomainNames] (world : World) (server : Server)
    {request : Request} (h : request.method = "docstring_info") :
    (server.handle world request).server = server := by
  have hhandle : server.handle world request =
      if server.phase = .initialized then server.serve world request
      else server.respond request (.error server.phaseError) := by
    simp [handle, h, isSessionMethod]
  rw [hhandle]
  split
  · simp only [serve, h, withParams]
    split <;> rfl
  · rfl

/-- Where answers come from.  If the document of a request is open, the answer is that of a lookup
in its text, with the same text the same for every disk and whatever else is open.  If it is not
open, the answer is that of a lookup in the text of the file that its URL names, and which other
documents are open plays no part.  The error is one of invalid parameters just if there is no such
text, and an internal one just if the lookup in the text fails; otherwise the answer is a record or
null.  A request leaves the session, and the server, as they are. -/
theorem answers_come_from_one_text [Url.DomainNames] (root : Path) (r : SignatureRequest) :
    (∀ documents disk url d, documentUrl? r.uri root = some url → documents.get? url = some d →
      answerRequest documents root disk r = (d.signatureAt r.line).mapError .lookup ∧
      ∀ documents' disk' d', documents'.get? url = some d' → d'.source = d.source →
        answerRequest documents' root disk' r = answerRequest documents root disk r) ∧
    (∀ documents disk url, documentUrl? r.uri root = some url → documents.get? url = none →
      (∀ documents', documents'.get? url = none →
        answerRequest documents' root disk r = answerRequest documents root disk r) ∧
      ∀ path source, url.toFilePath? = some path → disk.readText path = .ok source →
        answerRequest documents root disk r =
          (lookupSignature source r.line).result.mapError .lookup) ∧
    (∀ documents disk,
      (errorNumber? (answerRequest documents root disk r) = some (-32602) ↔
        documentUrl? r.uri root = none ∨
          ∃ url, documentUrl? r.uri root = some url ∧ documents.get? url = none ∧
            (url.toFilePath? = none ∨ ∃ path, url.toFilePath? = some path ∧
              ¬ ∃ bytes source, disk.read path = .ok bytes ∧ Text.ofUtf8? bytes = some source)) ∧
      (errorNumber? (answerRequest documents root disk r) = some (-32603) ↔
        ∃ source, Obtains documents root disk r.uri source ∧
          ∃ e, (lookupSignature source r.line).result = .error e) ∧
      (errorNumber? (answerRequest documents root disk r) ≠ some (-32602) →
        errorNumber? (answerRequest documents root disk r) ≠ some (-32603) →
          ∃ found, answerRequest documents root disk r = .ok found)) ∧
    (∀ s : Session, s.step (.askSignature r) = s) ∧
    ∀ (world : Rpc.World) (server : Rpc.Server) (request : Rpc.Request),
      request.method = "docstring_info" → (server.handle world request).server = server := by
  refine ⟨?_, ?_, ?_, fun s => rfl, ?_⟩
  · intro documents disk url d hurl hopen
    have hobtains : Obtains documents root disk r.uri d.source := .opened hurl hopen
    have hanswer := hobtains.answerRequest_eq
    refine ⟨hanswer, ?_⟩
    intro documents' disk' d' hopen' hsource
    rw [hanswer, ← hsource]
    exact (Obtains.opened hurl hopen').answerRequest_eq
  · intro documents disk url hurl hclosed
    constructor
    · intro documents' hclosed'
      simp only [answerRequest, documentText, hurl, hclosed, hclosed']
    · intro path source hpath hread
      exact (Obtains.read hurl hclosed hpath hread).answerRequest_eq
  · intro documents disk
    refine ⟨?_, errorNumber?_eq_internalError_iff, exists_answerRequest_eq_ok⟩
    rw [errorNumber?_eq_invalidParams_iff, exists_refuses_iff]
  · intro world server request hmethod
    exact server.server_handle_docstringInfo world hmethod

end DocSignature
