import PhaseBench.Host.Kernel.Schedule
import PhaseBench.Host.Program
import PhaseBench.Machine

/-!
# The standard machine

A machine with a working directory, a directory for scratch files, a few devices and
the installed programs. The standard input of the program is empty unless a kernel says
otherwise, and the error output of commands is dropped.
-/

namespace PhaseBench.Host

/-- The directory of the installed programs. -/
def programDir : Location := ["usr", "bin"]

/-- The tree of a machine whose working directory is empty. -/
def standardTree : Tree :=
  let directory (location : Location) : Location × Node := (location, .directory)
  let device (name : String) (kind : Device) : Location × Node := (["dev", name], .device kind)
  { nodes :=
      [directory ["usr"], directory programDir, (["bin"], .link "usr/bin"), directory ["dev"],
        device "null" .null, device "zero" .zero, device "full" .full,
        device "stdin" (.descriptor 0), device "stdout" (.descriptor 1),
        device "stderr" (.descriptor 2), directory ["tmp"], directory ["root"],
        directory ["work"]] ++
      programs.map fun name => (programDir ++ [name], .program name)
    home := ["work"]
    distinct := by decide }

/-- The bound on repetition in a program. -/
def fuel : Nat := 1000000000

/-- The bound on commands inside of each other. -/
def depth : Nat := 1000000

/-- The variables that commands see. -/
def environment : Bindings :=
  [("PATH", "/usr/local/sbin:/usr/local/bin:/usr/sbin:/usr/bin:/sbin:/bin"), ("LC_ALL", "C"),
    ("HOME", "/root")].map fun (name, value) =>
      (name.toList, { value := some value.toList, exported := true })

/-- The program that the first word of a command stands for. Without a slash it is looked
for among the installed programs. -/
def findCommand (tree : Tree) (word : String) : Except OsError String :=
  let searched := !word.toList.contains '/'
  if searched && word = "" then .error .noEntry
  else if searched && Tree.nameLimit < word.utf8ByteSize then .error .nameTooLong
  else
    match tree.resolve (if searched then "/usr/bin/" ++ word else word) with
    | .ok (_, .program name) => .ok name
    | .ok _ => .error .noAccess
    | .error error => .error error

/-- The task of a command, unless it cannot be started. -/
def taskOf (kernel : Kernel) (command : Command) : Except Cause Task :=
  match findCommand kernel.tree command.program with
  | .error error => .error (.os error)
  | .ok name =>
    let words := command.program :: command.arguments
    if words.any (Run.argumentLimit ≤ ·.utf8ByteSize) then .error (.os .argumentsTooLong)
    else .ok (image (engineAt fuel depth) name (words.map Octets.ofText) environment)

/-- Starts a command and waits until it has ended. -/
def collect (mode : StartMode) (command : Command) (kernel : Kernel) :
    Option (Except Cause Finished × Kernel) :=
  match taskOf kernel command with
  | .error cause => some (.error cause, kernel)
  | .ok task => (kernel.collect mode task).map fun (finished, kernel) => (.ok finished, kernel)

/-- Starts a command and waits for it up to a limit. -/
def watch (mode : StartMode) (limit : Duration) (command : Command) (kernel : Kernel) :
    Option (Except Cause Child × Kernel) :=
  match taskOf kernel command with
  | .error cause => some (.error cause, kernel)
  | .ok task => (kernel.watch mode limit task).map fun (child, kernel) => (.ok child, kernel)

/-- The directory in which directories for files that are not kept are made. -/
def scratchRoot : String := "/tmp"

/-- The name of a directory for files that are not kept, by number. -/
def scratchName (n : Nat) : String := "interp-bench-" ++ Text.decimal n

/-- The path of a directory for files that are not kept, by number. -/
def scratchPath (n : Nat) : String := Path.join scratchRoot (scratchName n)

/-- The number of names that are tried. -/
def scratchNames : Nat := 100

/-- Makes a directory for files that are not kept: the first by number under whose name nothing
stands. -/
def makeScratch (kernel : Kernel) : Except Cause String × Kernel :=
  match kernel.tree.resolve scratchRoot with
  | .error error => (.error (.os error), kernel)
  | .ok (location, .directory) =>
    let free (n : Nat) : Bool :=
      !kernel.tree.nodes.any fun entry => (location ++ [scratchName n]).isPrefixOf entry.1
    match (List.range scratchNames).find? free with
    | some n =>
      (.ok (scratchPath n),
        { kernel with tree := kernel.tree.put (location ++ [scratchName n]) .directory })
    | none => (.error (.os .alreadyExists), kernel)
  | .ok _ => (.error (.os .notDirectory), kernel)

/-- The machine on which processes run side by side, without a user. -/
def standard : Machine Kernel where
  tree := Kernel.tree
  withTree kernel tree := { kernel with tree }
  tree_withTree _ _ := rfl
  memory := .largest
  collect := collect
  watch := watch
  makeScratch := makeScratch
  attended _ := false
  flush _ := .ok ()
  readLine kernel := some (.ok (), kernel)

end PhaseBench.Host
