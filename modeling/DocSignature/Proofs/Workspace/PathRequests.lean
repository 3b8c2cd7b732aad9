import DocSignature.Proofs.Url.FileSegments
import DocSignature.Proofs.Workspace.Documents
import DocSignature.Proofs.Workspace.FileUrls

/-!
# Requests by path and documents opened by URL

A client opens a document under a URL, which is read and so has its dots resolved.  A request by
path makes up a URL that is never read (`document_url`).  If the two are the same URL, the request
is answered from the open document; this is so just if the path has no `..`.  With one, opening the
document makes no difference to the request.
-/

set_option autoImplicit false

namespace DocSignature

/-- What is joined to an absolute path is absolute. -/
theorem Path.isAbsolute_join {base : Path} (h : base.isAbsolute = true) (p : Path) :
    (base.join p).isAbsolute = true := by
  obtain ⟨rest, hbase⟩ : ∃ rest, base.bytes = slash :: rest := by
    cases hbytes : base.bytes with
    | nil => simp [isAbsolute, hbytes] at h
    | cons b rest =>
      obtain rfl : b = slash := by simpa [isAbsolute, hbytes] using h
      exact ⟨rest, rfl⟩
  unfold join
  split_ifs with hp
  · exact hp
  · simp [isAbsolute, hbase]
  · simp [isAbsolute, hbase]

section

variable [Url.DomainNames] {root : Path} {uri : String} {u v : Url}

/-- The URL of a document that is named by a path is made of the path. -/
theorem documentUrl?_of_urlOf?_eq_none (huri : urlOf? uri = none) :
    documentUrl? uri root = Url.ofFilePath? (root.join (.ofString uri)) := by
  rw [documentUrl?, huri]

variable (s : Session) (disk : Disk) (text : String) (version : Int) (line : Nat)

/-- A document opened under the URL of a request answers the request. -/
theorem answerRequest_didOpen_self (hu : documentUrl? uri root = some u) :
    answerRequest (s.step (.didOpen u text version)).documents root disk ⟨uri, line⟩ =
      lookupAnswer text line := by
  have hopen : (s.step (.didOpen u text version)).documents.get? u = some ⟨text, version⟩ := by
    rw [Session.step, DocumentStore.get?_insert, if_pos rfl]
  have hobtains : Obtains _ root disk uri text := .opened hu hopen
  exact Obtains.answerRequest_eq (r := ⟨uri, line⟩) hobtains

/-- A document opened under another URL makes no difference to a request. -/
theorem answerRequest_didOpen_of_ne (hu : documentUrl? uri root = some u) (hne : v ≠ u) :
    answerRequest (s.step (.didOpen v text version)).documents root disk ⟨uri, line⟩ =
      answerRequest s.documents root disk ⟨uri, line⟩ := by
  have hsame : (s.step (.didOpen v text version)).documents.get? u = s.documents.get? u := by
    rw [Session.step, DocumentStore.get?_insert, if_neg hne.symm]
  simp only [answerRequest, documentText, hu, hsame]

end

/-- The URL of a document that is named by a path, and the URL that its text reads as.  The two are
the same just if the path has no `..`; components that look like a drive, `c:` or `y|`, are kept,
also in the first place.  If the two are the same, then a document opened under the text of the URL
answers requests for the path, whatever the disk holds; otherwise opening it changes no answer. -/
theorem path_meets_opened_url_iff [Url.DomainNames] (root : Path) (hroot : root.isAbsolute = true)
    (uri : String) (huri : urlOf? uri = none) :
    ∃ u v, documentUrl? uri root = some u ∧ Url.parse? u.text = some v ∧
      (∀ root', documentUrl? u.text root' = some v) ∧
      (v = u ↔ .parent ∉ (root.join (.ofString uri)).components) ∧
      (v = u → ∀ (s : Session) (disk : Disk) (text : String) (version : Int) (line : Nat),
        answerRequest (s.step (.didOpen v text version)).documents root disk ⟨uri, line⟩ =
          lookupAnswer text line) ∧
      (v ≠ u → ∀ (s : Session) (disk : Disk) (text : String) (version : Int) (line : Nat),
        answerRequest (s.step (.didOpen v text version)).documents root disk ⟨uri, line⟩ =
          answerRequest s.documents root disk ⟨uri, line⟩) := by
  have habsolute := Path.isAbsolute_join hroot (.ofString uri)
  obtain ⟨u, hu⟩ : ∃ u, Url.ofFilePath? (root.join (.ofString uri)) = some u :=
    ⟨_, Url.ofFilePath?_of_isAbsolute habsolute⟩
  have hdocument : documentUrl? uri root = some u := by
    rw [documentUrl?_of_urlOf?_eq_none huri, hu]
  obtain ⟨path, hread⟩ := Url.exists_parse?_text_eq_localFile habsolute hu
  have hnormal := Url.parse?_text_eq_some_iff_parent_not_mem habsolute hu
  rw [hread, Option.some.injEq] at hnormal
  have hscheme : 1 < (Url.localFile path).scheme.length := by
    change 1 < "file".length
    decide
  refine ⟨u, Url.localFile path, hdocument, hread, documentUrl?_of_parse? hread hscheme, hnormal,
    ?_, ?_⟩
  · intro heq s disk text version line
    rw [heq]
    exact answerRequest_didOpen_self s disk text version line hdocument
  · intro hne s disk text version line
    exact answerRequest_didOpen_of_ne s disk text version line hdocument hne

/-- The names of folders may look like drive letters, even that of the first one, and the name of a
file may hold blanks and percent signs: the document is found under the URL it was opened with. -/
theorem encoded_path_meets_opened_url :
    let root := Path.ofString "/y|"
    let uri := "./été//c:/50% off.py"
    let u := Url.localFile "/y|/%C3%A9t%C3%A9/c:/50%25%20off.py"
    root.isAbsolute = true ∧ urlOf? uri = none ∧ documentUrl? uri root = some u ∧
      Url.parse? u.text = some u ∧
      ∀ disk text line, answerRequest (Session.step {} (.didOpen u text 1)).documents root disk
        ⟨uri, line⟩ = lookupAnswer text line := by
  intro root uri u
  have hroot : root.isAbsolute = true := by decide +kernel
  have huri : urlOf? uri = none := by decide +kernel
  have hdocument : documentUrl? uri root = some u := by decide +kernel
  obtain ⟨u', v, hu', hread, -, hsame, hopen, -⟩ := path_meets_opened_url_iff root hroot uri huri
  obtain rfl : u = u' := Option.some.inj (hdocument.symm.trans hu')
  have heq : v = u := hsame.2 (by decide +kernel)
  subst heq
  exact ⟨hroot, huri, hdocument, hread, fun disk text line => hopen rfl {} disk text 1 line⟩

/-- A document opened as `file:///work/sub/../a.py` is open as `file:///work/a.py` and a request for
the path `sub/../a.py` does not find it: the request is answered from the file. -/
theorem parent_path_misses_opened_url :
    let root := Path.ofString "/work"
    let uri := "sub/../a.py"
    ∃ u v, root.isAbsolute = true ∧ urlOf? uri = none ∧ documentUrl? uri root = some u ∧
      Url.parse? u.text = some v ∧ u.text = "file:///work/sub/../a.py" ∧
      v.text = "file:///work/a.py" ∧ v ≠ u ∧
      ∀ disk source text line, disk.readText (.ofString "/work/sub/../a.py") = .ok source →
        answerRequest (Session.step {} (.didOpen v text 1)).documents root disk ⟨uri, line⟩ =
          lookupAnswer source line := by
  intro root uri
  let u := Url.localFile "/work/sub/../a.py"
  let v := Url.localFile "/work/a.py"
  have hdocument : documentUrl? uri root = some u := by decide +kernel
  have hread : Url.parse? u.text = some v := by decide +kernel
  have hne : v ≠ u := by decide +kernel
  have hpath : u.toFilePath? = some (.ofString "/work/sub/../a.py") := by decide +kernel
  refine ⟨u, v, by decide +kernel, by decide +kernel, hdocument, hread, by decide +kernel,
    by decide +kernel, hne, ?_⟩
  intro disk source text line hsource
  rw [answerRequest_didOpen_of_ne {} disk text 1 line hdocument hne]
  have hobtains : Obtains {} root disk uri source := .read hdocument rfl hpath hsource
  exact Obtains.answerRequest_eq (r := ⟨uri, line⟩) hobtains

end DocSignature
