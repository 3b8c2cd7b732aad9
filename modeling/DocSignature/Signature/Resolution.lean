import DocSignature.Signature.Definition
import DocSignature.Signature.Event

/-!
# The innermost definition at a line

Resolution (`resolve_enclosing`) goes down from scope to scope.  In each scope the first definition
that contains the line wins; definitions of one scope should not overlap, and where two of them do
an event says so.
-/

set_option autoImplicit false

namespace DocSignature

/-- The events of going into a definition, given the later ones of its scope that contain the line
too. -/
def enteringEvents (line : Nat) (d : Definition) (others : List Definition) : List Event :=
  (others.head?.map fun other => Event.overlap line d.name other.name).toList ++
    [.narrowing line d.name d.span.start d.span.stop]

/-- The definitions among some that contain a line. -/
def containing (line : Nat) (ds : List Definition) : List Definition :=
  ds.filter (·.contains line)

/-- The innermost definition at a line inside a definition already entered, with the events on the
way. -/
def narrow (line : Nat) (d : Definition) : Definition × List Event :=
  match _h : containing line d.nested with
  | [] => (d, [])
  | inner :: others =>
    let (found, events) := narrow line inner
    (found, enteringEvents line inner others ++ events)
termination_by d.tree.size - d.id
decreasing_by
  have hmem : inner ∈ containing line d.nested := _h ▸ List.mem_cons_self
  exact Definition.sub_lt_of_mem_nested (List.mem_filter.1 hmem).1

/-- The innermost definition at a line, among some candidates and all that is nested in them, with
the events on the way (`resolve_enclosing`). -/
def resolveEnclosing (line : Nat) (candidates : List Definition) :
    Option Definition × List Event :=
  match containing line candidates with
  | [] => (none, [])
  | d :: others =>
    let (found, events) := narrow line d
    (some found, enteringEvents line d others ++ events)

end DocSignature
