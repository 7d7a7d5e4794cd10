import PhaseBench.Trace
import PhaseBench.Tree.Path

/-!
# File trees

A `Tree` gives a node to each location, a location being the names that lead to
it from the root. Each node has one location only: there are no hard links. A path is
followed name by name from the root or from the working directory; symbolic links are
followed on the way, forty of them at most.
-/

namespace PhaseBench

/-- The names that lead to a node from the root. -/
abbrev Location := List String

/-- The kinds of devices. -/
inductive Device
  /-- Takes everything and gives nothing. -/
  | null
  /-- Takes everything and gives zeros without end. -/
  | zero
  /-- Has no space for anything and gives zeros without end. -/
  | full
  /-- Stands for an open descriptor of whoever opens it, 1 being the standard output. -/
  | descriptor (number : Nat)

/-- What can stand at a location. -/
inductive Node
  | file (content : ByteArray)
  | directory
  | link (target : String)
  | device (kind : Device)
  /-- An installed program. -/
  | program (name : String)

/-- Holds for regular files. -/
def Node.isRegular : Node → Bool
  | .file _ => true
  | .program _ => true
  | _ => false

/-- The nodes of a file system, in the order in which a directory lists them, and the
working directory. No two nodes stand at one location. -/
structure Tree where
  nodes : List (Location × Node)
  home : Location
  distinct : (nodes.map (·.1)).Nodup

/-- Where a path leads: to a node, or to a free name in a directory. -/
inductive Spot
  | found (location : Location) (node : Node)
  | vacant (parent : Location) (name : String)

/-- What a path is followed for, which decides how its last name is taken. -/
inductive Purpose
  /-- To name an entry: a link is taken as it is. -/
  | name
  /-- To reach a node: a link is followed. -/
  | reach
  /-- To write a file: a link is followed, and no slash may stand behind the name, as it
  would ask for a directory. -/
  | write
deriving DecidableEq

namespace Tree

/-! ## Nodes -/

/-- The node at a location. The root is a directory. -/
def node? (tree : Tree) (location : Location) : Option Node :=
  if location = [] then some .directory
  else (tree.nodes.find? fun entry => entry.1 == location).map (·.2)

theorem map_fst_replace (nodes : List (Location × Node)) (location : Location) (node : Node) :
    (nodes.map fun entry => if entry.1 == location then (location, node) else entry).map (·.1) =
      nodes.map (·.1) := by
  rw [List.map_map]
  apply List.map_congr_left
  intro entry _
  by_cases here : entry.1 = location <;> simp [here]

theorem nodup_fst_append {nodes : List (Location × Node)} {location : Location}
    (distinct : (nodes.map (·.1)).Nodup) (fresh : ¬ nodes.any (·.1 == location)) (node : Node) :
    ((nodes ++ [(location, node)]).map (·.1)).Nodup := by
  rw [List.map_append, List.nodup_append]
  refine ⟨distinct, by simp, ?_⟩
  intro other known added new same
  obtain ⟨entry, inside, rfl⟩ := List.mem_map.mp known
  have taken : entry.1 = location := same.trans (by simpa using new)
  exact fresh (List.any_eq_true.mpr ⟨entry, inside, by simpa using taken⟩)

theorem nodup_fst_filter {nodes : List (Location × Node)} (distinct : (nodes.map (·.1)).Nodup)
    (keep : Location × Node → Bool) : ((nodes.filter keep).map (·.1)).Nodup :=
  distinct.sublist (List.filter_sublist.map _)

/-- Puts a node at a location, keeping the place of the one that was there. -/
def put (tree : Tree) (location : Location) (node : Node) : Tree :=
  if taken : tree.nodes.any (·.1 == location) then
    { tree with
      nodes := tree.nodes.map fun entry =>
        if entry.1 == location then (location, node) else entry
      distinct := by rw [map_fst_replace]; exact tree.distinct }
  else
    { tree with
      nodes := tree.nodes ++ [(location, node)]
      distinct := nodup_fst_append tree.distinct taken node }

/-- The tree of the nodes that are kept. -/
def filter (tree : Tree) (keep : Location × Node → Bool) : Tree :=
  { tree with
    nodes := tree.nodes.filter keep
    distinct := nodup_fst_filter tree.distinct keep }

/-- Takes away the node at a location. -/
def erase (tree : Tree) (location : Location) : Tree :=
  tree.filter fun entry => entry.1 != location

/-- The names in a directory. -/
def entries (tree : Tree) (location : Location) : List String :=
  tree.nodes.filterMap fun entry =>
    if entry.1.dropLast = location then entry.1.getLast? else none

/-! ## Following paths -/

/-- The longest name, in bytes. -/
def nameLimit : Nat := 255

/-- The length that no path reaches, in bytes. -/
def pathLimit : Nat := 4096

/-- The number of links that are followed on one path. -/
def linkLimit : Nat := 40

/-- Follows names from a location. What to do with a link is given by `onLink`, which
receives the directory of the link, its target and the names behind it; the purpose says
how the last name is taken. -/
def stepsWith (tree : Tree) (purpose : Purpose)
    (onLink : Location → String → List String → Except OsError Spot) :
    Location → List String → Except OsError Spot
  | here, [] =>
    match tree.node? here with
    | some node => .ok (.found here node)
    | none => .error .noEntry
  | here, name :: rest =>
    match tree.node? here with
    | none => .error .noEntry
    | some .directory =>
      if name = "" ∨ name = "." then stepsWith tree purpose onLink here rest
      else if name = ".." then stepsWith tree purpose onLink here.dropLast rest
      else if purpose = .write ∧ rest = [""] then .error .isDirectory
      else if nameLimit < name.utf8ByteSize then .error .nameTooLong
      else
        match tree.node? (here ++ [name]) with
        | some (.link target) =>
          if purpose = .name ∧ rest = [] then .ok (.found (here ++ [name]) (.link target))
          else onLink here target rest
        | some _ => stepsWith tree purpose onLink (here ++ [name]) rest
        | none => if rest.isEmpty then .ok (.vacant here name) else .error .noEntry
    | some _ => .error .notDirectory

/-- Follows names from a location, through a number of links at most. -/
def steps (tree : Tree) (purpose : Purpose) :
    Nat → Location → List String → Except OsError Spot
  | 0 => tree.stepsWith purpose fun _ _ _ => .error .tooManyLinks
  | links + 1 => tree.stepsWith purpose fun here target rest =>
      tree.steps purpose links (if Path.isAbsolute target then [] else here)
        (Path.route target ++ rest)

/-- Where a path leads from a directory. -/
def spotFrom (tree : Tree) (base : Location) (purpose : Purpose) (path : String) :
    Except OsError Spot :=
  if path = "" then .error .noEntry
  else if pathLimit ≤ path.utf8ByteSize then .error .nameTooLong
  else tree.steps purpose linkLimit (if Path.isAbsolute path then [] else base) (Path.route path)

/-- Where a path leads. -/
def spot (tree : Tree) (purpose : Purpose) (path : String) : Except OsError Spot :=
  tree.spotFrom tree.home purpose path

/-- The node that a path leads to through all links, with its location. -/
def resolve (tree : Tree) (path : String) : Except OsError (Location × Node) :=
  match tree.spot .reach path with
  | .ok (.found location node) => .ok (location, node)
  | .ok (.vacant _ _) => .error .noEntry
  | .error error => .error error

/-! ## Reading -/

/-- Holds for a path that leads to a directory. -/
def isDirectory (tree : Tree) (path : String) : Bool :=
  match tree.resolve path with
  | .ok (_, .directory) => true
  | _ => false

/-- Holds for a path that leads to a regular file. -/
def isRegular (tree : Tree) (path : String) : Bool :=
  match tree.resolve path with
  | .ok (_, node) => node.isRegular
  | .error _ => false

/-- The bytes of the file that a path leads to. -/
def read (tree : Tree) (path : String) : Except OsError ByteArray :=
  match tree.resolve path with
  | .ok (_, .directory) => .error .isDirectory
  | .ok (_, .file content) => .ok content
  | .ok (_, _) => .ok ByteArray.empty
  | .error error => .error error

/-- The names in the directory that a path leads to. -/
def list (tree : Tree) (path : String) : Except OsError (List String) :=
  match tree.resolve path with
  | .ok (location, .directory) => .ok (tree.entries location)
  | .ok _ => .error .notDirectory
  | .error error => .error error

/-! ## Writing -/

/-- Makes the file at a path hold the given bytes. A device keeps none of them, and a full
one takes none. A link is followed and never written over. -/
def write (tree : Tree) (path : String) (content : ByteArray) : Except OsError Tree :=
  match tree.spot .write path with
  | .ok (.found _ .directory) => .error .isDirectory
  | .ok (.found _ (.link _)) => .error .tooManyLinks
  | .ok (.found _ (.device .full)) => if content.isEmpty then .ok tree else .error .noSpace
  | .ok (.found _ (.device _)) => .ok tree
  | .ok (.found location _) => .ok (tree.put location (.file content))
  | .ok (.vacant parent name) => .ok (tree.put (parent ++ [name]) (.file content))
  | .error error => .error error

/-- Holds for a path that leads a writer to the standard output of the program. -/
def isOutput (tree : Tree) (path : String) : Bool :=
  match tree.spot .write path with
  | .ok (.found _ (.device (.descriptor 1))) => true
  | _ => false

/-- Puts a new node at a path that is free. -/
def create (tree : Tree) (path : String) (node : Node) : Except OsError Tree :=
  match tree.spot .name path with
  | .ok (.found _ _) => .error .alreadyExists
  | .ok (.vacant parent name) => .ok (tree.put (parent ++ [name]) node)
  | .error error => .error error

/-- A path without the slashes at its end. -/
def withoutSlash (path : String) : String :=
  match (path.toList.reverse.dropWhile (· == '/')).reverse with
  | [] => path
  | kept => String.ofList kept

/-- Takes away the file or the link at a path. With a slash at its end the path asks for a
directory, which is never taken away, and a link is not followed to one. -/
def remove (tree : Tree) (path : String) : Except OsError Tree :=
  match tree.spot .name (withoutSlash path) with
  | .ok (.found _ .directory) => .error .isDirectory
  | .ok (.found location _) =>
    if Path.endsInSlash path then .error .notDirectory else .ok (tree.erase location)
  | .ok (.vacant _ _) => .error .noEntry
  | .error error => .error error

/-- Makes a directory. -/
def makeDirectory (tree : Tree) (path : String) : Except OsError Tree :=
  tree.create (withoutSlash path) .directory

/-- Makes the directories of a list whose later members contain the earlier ones, from the
first that need not be made on. What was made before an error stays. -/
def makeChain (tree : Tree) : List String → Tree × Option OsError
  | [] => (tree, none)
  | path :: above =>
    match tree.makeDirectory path with
    | .ok made => (made, none)
    | .error .noEntry =>
      match tree.makeChain above with
      | (tree, some error) => (tree, some error)
      | (tree, none) =>
        match tree.makeDirectory path with
        | .ok made => (made, none)
        | .error error => (tree, if tree.isDirectory path then none else some error)
    | .error error => (tree, if tree.isDirectory path then none else some error)

/-- Makes a directory and those above it as far as they do not exist. The empty path needs
none. -/
def makeDirectories (tree : Tree) (path : String) : Tree × Option OsError :=
  if path = "" then (tree, none) else tree.makeChain (Path.ancestors path)

/-- Makes the directories above a path. -/
def makeParents (tree : Tree) (path : String) : Tree :=
  match (Path.ancestors path).tail with
  | [] => tree
  | above => (tree.makeChain above).1

/-- Takes away a directory with everything in it. -/
def removeAll (tree : Tree) (path : String) : Tree :=
  match tree.resolve path with
  | .ok (location, _) => tree.filter fun entry => !location.isPrefixOf entry.1
  | .error _ => tree

end Tree

/-- Holds for a text with a NUL character, which no system call takes. -/
def hasNul (text : String) : Bool := text.toList.any (· == '\x00')

end PhaseBench
