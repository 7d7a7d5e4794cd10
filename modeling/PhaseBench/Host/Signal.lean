import PhaseBench.Host.Octets

/-!
# Signals

Signals are known by their numbers. A process that neither ignores nor catches a
signal does with it what is customary for that signal: it ends, halts, goes on or
takes no notice.
-/

namespace PhaseBench.Host.Signal

/-- The number that no signal reaches. -/
def limit : Nat := 65

def interrupt : Nat := 2
def quit : Nat := 3
def kill : Nat := 9
def brokenPipe : Nat := 13
def terminate : Nat := 15
def childEnded : Nat := 17
def resume : Nat := 18
def halt : Nat := 19

/-- What a signal does to a process that leaves it alone. -/
inductive Effect
  | ends
  | halts
  | nothing
deriving DecidableEq

/-- The customary effect of a signal. -/
def effect (signal : Nat) : Effect :=
  if [17, 18, 23, 28].contains signal then .nothing
  else if [19, 20, 21, 22].contains signal then .halts
  else .ends

/-- Holds for the signals that can be neither caught nor ignored. -/
def isSovereign (signal : Nat) : Bool := signal == kill || signal == halt

/-- The names of the first signals, from number one on. -/
def firstNames : List String :=
  ["HUP", "INT", "QUIT", "ILL", "TRAP", "ABRT", "BUS", "FPE", "KILL", "USR1", "SEGV", "USR2",
    "PIPE", "ALRM", "TERM", "16", "CHLD", "CONT", "STOP", "TSTP", "TTIN", "TTOU", "URG", "XCPU",
    "XFSZ", "VTALRM", "PROF", "WINCH", "IO", "PWR", "SYS", "32", "33"]

/-- The name of a signal; zero stands for the end of a shell. -/
def name (signal : Nat) : Octets :=
  if signal = 0 then "EXIT".toList
  else if signal < 34 then ((firstNames[signal - 1]?).getD "").toList
  else if signal = 34 then "RTMIN".toList
  else if signal < 50 then "RTMIN+".toList ++ Octets.ofNat (signal - 34)
  else if signal < 64 then "RTMAX-".toList ++ Octets.ofNat (64 - signal)
  else "RTMAX".toList

/-- The signal of a number that is written in decimal digits. -/
def ofNumber? (text : Octets) : Option Nat :=
  (Octets.toNat? text).bind fun n => if n < limit then some n else none

/-- The signal of a number or a name, from a least signal on. -/
def ofText? (least : Nat) (text : Octets) : Option Nat :=
  match Octets.toNat? text with
  | some _ => ofNumber? text
  | none =>
    ((List.range limit).drop least).find? fun signal =>
      name signal == text.map Char.toUpper

/-- The descriptions of the first signals, from number one on. -/
def firstDescriptions : List String :=
  ["Hangup", "Interrupt", "Quit", "Illegal instruction", "Trace/breakpoint trap", "Aborted",
    "Bus error", "Floating point exception", "Killed", "User defined signal 1",
    "Segmentation fault", "User defined signal 2", "Broken pipe", "Alarm clock", "Terminated",
    "Stack fault", "Child exited", "Continued", "Stopped (signal)", "Stopped",
    "Stopped (tty input)", "Stopped (tty output)", "Urgent I/O condition",
    "CPU time limit exceeded", "File size limit exceeded", "Virtual timer expired",
    "Profiling timer expired", "Window changed", "I/O possible", "Power failure",
    "Bad system call"]

/-- What a shell says about a process that a signal ended. -/
def description (signal : Nat) : Octets :=
  match firstDescriptions[signal - 1]? with
  | some text => text.toList
  | none =>
    if signal < 34 then "Unknown signal ".toList ++ Octets.ofNat signal
    else "Real-time signal ".toList ++ Octets.ofNat (signal - 34)

end PhaseBench.Host.Signal
