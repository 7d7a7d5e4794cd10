import PhaseBench.Host.Shell.Startup
import PhaseBench.Host.Utility.Cat
import PhaseBench.Host.Utility.Count
import PhaseBench.Host.Utility.Head
import PhaseBench.Host.Utility.Simple
import PhaseBench.Host.Utility.Transliterate

/-!
# Installed programs

The programs that can be started, and the task of each. Shells start programs
themselves, which is bounded by a depth.
-/

namespace PhaseBench.Host

/-- The installed programs. -/
def programs : List String :=
  ["sh", "dash", "echo", "printf", "cat", "true", "false", "sleep", "yes", "head", "wc", "tr"]

/-- The task of a program with its arguments, the first being what it is called. -/
def image (engine : Engine) (program : String) (words : List Octets) (environment : Bindings) :
    Task :=
  let name := words.head?.getD []
  let arguments := words.tail
  match program with
  | "cat" => (cat engine.fuel name arguments).task
  | "echo" => (echoProgram name arguments).task
  | "false" => .ended 1
  | "head" => (head engine.fuel name arguments).task
  | "printf" => (printfProgram name arguments).task
  | "sleep" => (sleep name arguments).task
  | "tr" => (tr engine.fuel name arguments).task
  | "true" => .ended 0
  | "wc" => (wc engine.fuel name arguments).task
  | "yes" => (yes engine.fuel name arguments).task
  | _ => Run.shellTask engine name arguments environment

/-- The engine of a shell that can run commands inside of each other to a depth. -/
def engineAt (fuel : Nat) : Nat → Engine
  | 0 => {
      eval := fun _ _ => Run.act Act.hang
      image := fun _ _ _ => Task.hang
      fuel }
  | depth + 1 => {
      eval := fun mode script => Run.eval (engineAt fuel depth) mode script
      image := fun program words environment =>
        image (engineAt fuel depth) program words environment
      fuel }

end PhaseBench.Host
