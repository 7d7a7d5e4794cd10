import PhaseBench.Tree.Basic

/-!
# Input files

The input files of a directory are the entries that lead to a regular file, links
being followed. They are taken in the byte order of their names, so the order in
which the directory lists them does not matter.
-/

namespace PhaseBench

/-- An input file: its name in the directory and its path. -/
structure InputFile where
  name : String
  path : String
deriving DecidableEq

namespace InputFile

/-- The entry of a name in a directory. -/
def ofEntry (dir name : String) : InputFile := ⟨name, Path.join dir name⟩

/-- Holds when a file comes no later than another in the byte order of the names. -/
def inOrder (a b : InputFile) : Bool := !nameBefore b.name a.name

/-- The files among the entries of a directory, in the byte order of their names. -/
def select (tree : Tree) (dir : String) (entries : List String) : List InputFile :=
  ((entries.map (ofEntry dir)).filter fun file => tree.isRegular file.path).mergeSort inOrder

end InputFile

/-- The input files of a directory. -/
def Tree.inputFiles (tree : Tree) (dir : String) : Except Trace (List InputFile) :=
  if hasNul dir then .error ⟨[.readDirectory dir], .nulInPath⟩
  else
    match tree.list dir with
    | .ok entries => .ok (InputFile.select tree dir entries)
    | .error error => .error ⟨[.readDirectory dir], .os error⟩

end PhaseBench
