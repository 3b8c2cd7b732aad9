import DocSignature.Proofs.Workspace.Answers
import DocSignature.Url.DomainNames

/-!
# Which URLs reach the disk

If the document under a URL is not open then the disk is asked just if the URL names a file
(`to_file_path`), and for that its path has to start with a slash and it must have no host other
than `localhost`.  The scheme plays no part: `untitled:/notes.py` and `http://localhost/notes.py`
are read from the same file as `file:///notes.py`.
-/

set_option autoImplicit false

namespace DocSignature

namespace Url

/-- The host of a URL, empty where it has none. -/
def host (u : Url) : String := (u.authority.map (·.host)).getD ""

/-- A URL is one that a path can be read off. -/
def NamesFile (u : Url) : Prop :=
  u.path.toList.head? = some '/' ∧ (u.host = "" ∨ u.host = "localhost")

instance : DecidablePred NamesFile := fun u =>
  inferInstanceAs
    (Decidable (u.path.toList.head? = some '/' ∧ (u.host = "" ∨ u.host = "localhost")))

/-- A path can be read off a URL unless the URL names no file. -/
theorem toFilePath?_eq_none_iff (u : Url) : u.toFilePath? = none ↔ ¬ u.NamesFile := by
  unfold toFilePath? NamesFile host
  split
  · next rest hpath =>
    rw [hpath]
    simp
  · next hpath =>
    have hhead : u.path.toList.head? ≠ some '/' := by
      intro h
      obtain ⟨rest, hrest⟩ := List.head?_eq_some_iff.1 h
      exact hpath rest hrest
    simp [hhead]

end Url

/-- A text that reads as a URL with a scheme of more than one letter is that URL. -/
theorem documentUrl?_of_parse? [Url.DomainNames] {uri : String} {url : Url}
    (hurl : Url.parse? uri = some url) (hscheme : 1 < url.scheme.length) (root : Path) :
    documentUrl? uri root = some url := by
  have hkept : urlOf? uri = some url := by
    rw [urlOf?, hurl]
    simp [Option.filter, hscheme]
  rw [documentUrl?, hkept]

/-- The disk that has no file and gives the same reason for it everywhere. -/
def Disk.without (reason : ReadError) : Disk where
  read _ := .error reason
  isFile _ := false

section

variable [Url.DomainNames] {documents : DocumentStore} {root : Path} {r : SignatureRequest}
  {url : Url}

/-- A URL that names a file is read from the disk, so the disk shows in the answer. -/
theorem answerRequest_without (hurl : documentUrl? r.uri root = some url)
    (hclosed : documents.get? url = none) {path : Path} (hpath : url.toFilePath? = some path)
    (reason : ReadError) :
    answerRequest documents root (.without reason) r = .error (.unreadable path reason) := by
  have hread : (Disk.without reason).readText path = .error reason := rfl
  exact (Refuses.unreadable hurl hclosed hpath hread).answerRequest_eq

/-- A URL that is not open is refused as naming no file, for every disk, just if it names none, and
just then do all disks give the same answer.  Whether its scheme is `file` is not asked. -/
theorem refused_for_every_disk_iff (documents : DocumentStore) (root : Path) (r : SignatureRequest)
    {url : Url} (hurl : Url.parse? r.uri = some url) (hscheme : 1 < url.scheme.length)
    (hclosed : documents.get? url = none) :
    ((∀ disk, answerRequest documents root disk r = .error (.notAFile url)) ↔ ¬ url.NamesFile) ∧
    ((∀ disk disk', answerRequest documents root disk r = answerRequest documents root disk' r) ↔
      ¬ url.NamesFile) ∧
    Rpc.Error.ofRequest (.notAFile url) =
      ⟨.invalidParams, "not a file URL: " ++ url.text, none⟩ := by
  have hdocument := documentUrl?_of_parse? hurl hscheme root
  have hrefused : ¬ url.NamesFile → ∀ disk,
      answerRequest documents root disk r = .error (.notAFile url) := by
    intro hnone disk
    have hpath := url.toFilePath?_eq_none_iff.2 hnone
    exact (Refuses.notAFile hdocument hclosed hpath).answerRequest_eq
  -- two disks that fail in different ways tell a URL that names a file
  have hread : url.NamesFile → ∃ path, ∀ reason,
      answerRequest documents root (.without reason) r = .error (.unreadable path reason) := by
    intro hfile
    cases hpath : url.toFilePath? with
    | none => exact absurd hfile (url.toFilePath?_eq_none_iff.1 hpath)
    | some path => exact ⟨path, answerRequest_without hdocument hclosed hpath⟩
  refine ⟨⟨?_, hrefused⟩, ⟨?_, ?_⟩, rfl⟩
  · intro hall hfile
    obtain ⟨path, hpath⟩ := hread hfile
    have hanswer := (hpath .notFound).symm.trans (hall _)
    simp at hanswer
  · intro hall hfile
    obtain ⟨path, hpath⟩ := hread hfile
    have hanswer := (hpath .notFound).symm.trans ((hall _ _).trans (hpath .isADirectory))
    simp at hanswer
  · intro hnone disk disk'
    rw [hrefused hnone disk, hrefused hnone disk']

end

/-- A URL with a host of its own is refused, whatever the disk holds. -/
theorem http_url_refused :
    Url.parse? "http://example.com/notes.py" = some
      { scheme := "http", authority := some { host := "example.com" }, path := "/notes.py" } ∧
    ∀ disk, answerRequest {} ⟨[slash]⟩ disk ⟨"http://example.com/notes.py", 1⟩ = .error (.notAFile
      { scheme := "http", authority := some { host := "example.com" }, path := "/notes.py" }) := by
  have hurl : Url.parse? "http://example.com/notes.py" = some
      { scheme := "http", authority := some { host := "example.com" }, path := "/notes.py" } := by
    decide +kernel
  have hrefused := refused_for_every_disk_iff {} ⟨[slash]⟩ ⟨"http://example.com/notes.py", 1⟩ hurl
    (by decide +kernel) rfl
  exact ⟨hurl, hrefused.1.2 (by decide +kernel)⟩

/-- A URL whose scheme is not `file` and that is not open may be read from the disk all the same:
the disk decides the answer to a request for `untitled:/notes.py`, which is a lookup in the text of
the file `/notes.py`. -/
theorem untitled_url_reaches_disk :
    ∃ url, Url.parse? "untitled:/notes.py" = some url ∧ url.scheme = "untitled" ∧
      DocumentStore.get? {} url = none ∧
      (∃ disk, answerRequest {} ⟨[slash]⟩ disk ⟨"untitled:/notes.py", 1⟩ ≠
        .error (.notAFile url)) ∧
      (∃ disk disk', answerRequest {} ⟨[slash]⟩ disk ⟨"untitled:/notes.py", 1⟩ ≠
        answerRequest {} ⟨[slash]⟩ disk' ⟨"untitled:/notes.py", 1⟩) ∧
      ∀ disk source, disk.readText (.ofString "/notes.py") = .ok source →
        answerRequest {} ⟨[slash]⟩ disk ⟨"untitled:/notes.py", 1⟩ = lookupAnswer source 1 := by
  let url : Url := { scheme := "untitled", path := "/notes.py" }
  have hurl : Url.parse? "untitled:/notes.py" = some url := by decide +kernel
  have hpath : url.toFilePath? = some (.ofString "/notes.py") := by decide +kernel
  have hdocument := documentUrl?_of_parse? hurl (by decide +kernel) ⟨[slash]⟩
  have hclosed : DocumentStore.get? {} url = none := rfl
  have hanswer := answerRequest_without (r := ⟨"untitled:/notes.py", 1⟩) hdocument hclosed hpath
  refine ⟨url, hurl, rfl, hclosed, ⟨.without .notFound, ?_⟩,
    ⟨.without .notFound, .without .isADirectory, ?_⟩, ?_⟩
  · rw [hanswer]
    simp
  · rw [hanswer, hanswer]
    simp
  · intro disk source hread
    exact (Obtains.read hdocument hclosed hpath hread).answerRequest_eq

end DocSignature
