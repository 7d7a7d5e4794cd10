/-!
# Paths

A path is a text of names separated by slashes. A slash at its end asks for a
directory, and is read as an empty name behind the last one.
-/

namespace PhaseBench.Path

/-- Cuts a text at every occurrence of a character. -/
def cut (c : Char) (cs : List Char) : List (List Char) :=
  cs.foldr (fun x parts =>
    if x = c then [] :: parts
    else match parts with
      | [] => [[x]]
      | part :: rest => (x :: part) :: rest) [[]]

/-- The names in a path, without the empty ones. -/
def names (path : String) : List String :=
  ((cut '/' path.toList).map String.ofList).filter (· != "")

/-- Holds for a path that starts at the root. -/
def isAbsolute (path : String) : Bool := path.toList.head? = some '/'

/-- Holds for a path that ends in a slash. -/
def endsInSlash (path : String) : Bool := path.toList.getLast? = some '/'

/-- The names that lead along a path, with an empty one at the end for a slash there. -/
def route (path : String) : List String :=
  if endsInSlash path then names path ++ [""] else names path

/-- The path of a name in a directory. -/
def join (dir name : String) : String :=
  if dir = "" || endsInSlash dir then dir ++ name else dir ++ "/" ++ name

/-- The names that a path is made of when its parents are asked for: a `.` counts only at
the start of a relative path. -/
def parts (path : String) : List String :=
  match isAbsolute path, names path with
  | false, "." :: rest => "." :: rest.filter (· != ".")
  | _, all => all.filter (· != ".")

/-- The path itself and the directories above it, the innermost first. -/
def ancestors (path : String) : List String :=
  let all := parts path
  let start := if isAbsolute path then "/" else ""
  let above := (List.range all.length).reverse.map fun n => start ++ "/".intercalate (all.take n)
  path :: above.filter (· != "")

end PhaseBench.Path
