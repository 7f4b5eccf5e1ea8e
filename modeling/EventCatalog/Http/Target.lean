import EventCatalog.Text.Split
import EventCatalog.Text.Utf8

/-!
# Request Targets

The path and the query of a request target.  A target is a path with its query, a whole address, an
authority alone or an asterisk; a fragment is not read.  Of a whole address only what follows the
authority counts, and its path is at least the root.  An authority alone has an empty path.
-/

namespace EventCatalog.Http

/-- The part of a request target that selects a resource, and its parameters. -/
structure Target where
  path : String
  query : String
  deriving DecidableEq, Repr

namespace Target

/-- What follows the authority of a whole address. -/
def afterAuthority? (cs : List Char) : Option (List Char) :=
  match cs.dropWhile (· ≠ ':') with
  | ':' :: '/' :: '/' :: rest => some (rest.dropWhile fun c ↦ c ≠ '/' && c ≠ '?')
  | _ => none

/-- A path and what follows the first question mark. -/
def ofPathAndQuery (cs : List Char) : Target :=
  let path := cs.takeWhile (· ≠ '?')
  ⟨String.ofList path, String.ofList (cs.drop (path.length + 1))⟩

def ofString (s : String) : Target :=
  let cs := s.toList.takeWhile (· ≠ '#')
  if cs.head? = some '/' || cs = ['*'] then ofPathAndQuery cs
  else
    match afterAuthority? cs with
    | some rest => ofPathAndQuery (if rest.head? = some '/' then rest else '/' :: rest)
    | none => ⟨"", ""⟩

/-- The pieces of the path between its slashes, escapes unread. -/
def segments (t : Target) : List String := Text.splitText '/' t.path

def queryBytes (t : Target) : List UInt8 := Text.toBytes t.query

end Target

end EventCatalog.Http
