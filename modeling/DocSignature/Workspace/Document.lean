import DocSignature.Signature.Lookup
import DocSignature.Url.Basic

/-!
# Open documents

A client opens documents under their URLs, changes and closes them.  `DocumentStore` holds, for
every open URL, the text and the version that came last (`DocumentState`).
-/

set_option autoImplicit false

namespace DocSignature

/-- An open document (`DocumentState`). -/
structure Document where
  /-- The whole text, as the client sent it last. -/
  source : String
  /-- The version that the client gave to this text. -/
  version : Int
deriving DecidableEq, Inhabited, Repr

/-- The signature at a line of a document (`signature_at`). -/
def Document.signatureAt (d : Document) (line : Nat) : Except LookupError (Option Signature) :=
  (lookupSignature d.source line).result

/-- The open documents. -/
structure DocumentStore where
  entries : List (Url × Document) := []
  /-- No URL is open twice. -/
  nodup : (entries.map (·.1)).Nodup := by simp

namespace DocumentStore

/-- The document under a URL (`get`). -/
def get? (s : DocumentStore) (url : Url) : Option Document :=
  (s.entries.find? (·.1 == url)).map (·.2)

/-- Closes the document under a URL (`close`). -/
def erase (s : DocumentStore) (url : Url) : DocumentStore where
  entries := s.entries.filter (·.1 != url)
  nodup := s.nodup.sublist (List.filter_sublist.map _)

/-- Opens a document under a URL, or replaces the one that is open there (`open`). -/
def insert (s : DocumentStore) (url : Url) (d : Document) : DocumentStore where
  entries := (url, d) :: (s.erase url).entries
  nodup := by
    rw [List.map_cons, List.nodup_cons]
    refine ⟨?_, (s.erase url).nodup⟩
    intro h
    obtain ⟨e, he, rfl⟩ := List.mem_map.1 h
    have := (List.mem_filter.1 he).2
    simp at this

/-- The number of open documents (`len`). -/
def size (s : DocumentStore) : Nat := s.entries.length

/-- Whether no document is open (`is_empty`). -/
def isEmpty (s : DocumentStore) : Bool := s.entries.isEmpty

end DocumentStore

end DocSignature
