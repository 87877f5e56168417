import ServiceSpec.Text.Pieces

/-!
# Paths

A path is a text whose segments are separated by slashes.  Empty segments and those of a single dot
count for nothing, but for a dot at the start.

## Main definitions

* `Path.name?`, `Path.extension?` : the last segment, and what follows its last dot.
* `Path.parent?` : the path of the directory that a path is in.
* `Path.join` : a path taken relative to a directory.
-/

namespace ServiceSpec.Path

/-- The texts between slashes. -/
def split (path : List Char) : List (List Char) :=
  Text.pieces '/' path

/-- Whether a segment counts for nothing where it is not the first. -/
def isIdle (segment : List Char) : Bool :=
  segment = [] || segment = ['.']

/-- Drops the idle segments at the end, but for the first segment; the last segment comes first. -/
def dropIdle : List (List Char) → List (List Char)
  | [] => []
  | [s] => [s]
  | s :: rest => if isIdle s then dropIdle rest else s :: rest

/-- The segments of a path without idle ones at its end, the last one first. -/
def segmentsReversed (path : String) : List (List Char) :=
  dropIdle (split path.toList).reverse

/-- The name that a path ends in, if it does not lead upwards. -/
def name? (path : String) : Option (List Char) :=
  match segmentsReversed path with
  | s :: _ => if isIdle s || s = ['.', '.'] then none else some s
  | [] => none

/-- What follows the last dot of the name of a path.  A dot at its start does not count. -/
def extension? (path : String) : Option String :=
  (name? path).bind fun name =>
    let after := name.reverse.takeWhile (· ≠ '.')
    if name.length ≤ after.length + 1 then none else some (String.ofList after.reverse)

/-- The path of the directory that a path is in.  The root is in none, and neither is nothing. -/
def parent? (path : String) : Option String :=
  match segmentsReversed path with
  | [] | [[]] => none
  | [_] => some ""
  | _ :: rest =>
    match dropIdle rest with
    | [[]] => some "/"
    | segments => some (String.ofList (Text.joined '/' segments.reverse))

/-- Whether a path starts at the root. -/
def isAbsolute (path : String) : Bool :=
  path.toList.head? = some '/'

/-- A path taken relative to a directory. -/
def join (directory path : String) : String :=
  if isAbsolute path then path
  else if directory = "" || directory.toList.getLast? = some '/' then directory ++ path
  else directory ++ "/" ++ path

end ServiceSpec.Path
