import DocSignature.Url.FilePath

/-!
# Where a document is

Requests name documents by URL or by path (`document_url`).  A text is a URL if it reads as one with
a scheme of more than one letter; everything else is a path, `C:\src\x.py` included.
-/

set_option autoImplicit false

namespace DocSignature

variable [Url.DomainNames]

/-- The URL that a text is, unless it is to be taken for a path. -/
def urlOf? (uri : String) : Option Url :=
  (Url.parse? uri).filter fun u => 1 < u.scheme.length

/-- The URL of a document (`document_url`).  Relative paths start from `root`; where the root is
relative too, there is none. -/
def documentUrl? (uri : String) (root : Path) : Option Url :=
  match urlOf? uri with
  | some u => some u
  | none => Url.ofFilePath? (root.join (.ofString uri))

end DocSignature
