/-!
# URLs

A URL in its parts, each in the one spelling that reading it gives, and the text they make
together.
-/

set_option autoImplicit false

namespace DocSignature

/-- What stands between the two slashes and the path of a URL. -/
structure Authority where
  /-- The user name, and the password after a colon. -/
  userinfo : Option String := none
  /-- The host, which may be empty. -/
  host : String := ""
  /-- The port, unless it is the usual one. -/
  port : Option Nat := none
deriving DecidableEq, Inhabited, Repr

/-- A URL. -/
structure Url where
  scheme : String
  authority : Option Authority := none
  /-- The path; it starts with a slash, is empty, or is a text without structure. -/
  path : String
  query : Option String := none
  fragment : Option String := none
deriving DecidableEq, Inhabited, Repr

/-- The text of an authority. -/
def Authority.text (a : Authority) : String :=
  (a.userinfo.map (· ++ "@")).getD "" ++ a.host ++
    (a.port.map fun p => ":" ++ toString p).getD ""

namespace Url

/-- What stands between the scheme and the path.  A path that starts with two slashes needs a mark
that no authority comes before it. -/
def beforePath (u : Url) : String :=
  match u.authority with
  | some a => "//" ++ a.text
  | none => if ['/', '/'].isPrefixOf u.path.toList then "/." else ""

/-- The text of a URL. -/
def text (u : Url) : String :=
  u.scheme ++ ":" ++ u.beforePath ++ u.path ++ (u.query.map ("?" ++ ·)).getD "" ++
    (u.fragment.map ("#" ++ ·)).getD ""

end Url

end DocSignature
