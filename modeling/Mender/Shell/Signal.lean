import Mender.Text.Decimal

/-!
# Signals

Signals have numbers and names. A trap is set for a signal or for the end of the
shell, which counts as the signal zero.
-/

namespace Mender.Shell

structure Signal where
  number : Nat
  name : String
  /-- What a shell says of a program that the signal ended, if it says anything. -/
  epitaph? : Option String
  deriving DecidableEq, Repr

namespace Signal

/-- The end of the shell itself. -/
def exit : Signal := ⟨0, "EXIT", none⟩

/-- The signals with names and epitaphs of their own. -/
def common : List Signal :=
  [exit, ⟨1, "HUP", some "Hangup"⟩, ⟨2, "INT", none⟩, ⟨3, "QUIT", some "Quit"⟩,
   ⟨4, "ILL", some "Illegal instruction"⟩, ⟨5, "TRAP", some "Trace/breakpoint trap"⟩,
   ⟨6, "ABRT", some "Aborted"⟩, ⟨7, "BUS", some "Bus error"⟩,
   ⟨8, "FPE", some "Floating point exception"⟩, ⟨9, "KILL", some "Killed"⟩,
   ⟨10, "USR1", some "User defined signal 1"⟩, ⟨11, "SEGV", some "Segmentation fault"⟩,
   ⟨12, "USR2", some "User defined signal 2"⟩, ⟨13, "PIPE", none⟩,
   ⟨14, "ALRM", some "Alarm clock"⟩, ⟨15, "TERM", some "Terminated"⟩, ⟨16, "16", some "Stack fault"⟩,
   ⟨17, "CHLD", none⟩, ⟨18, "CONT", none⟩, ⟨19, "STOP", none⟩, ⟨20, "TSTP", none⟩,
   ⟨21, "TTIN", none⟩, ⟨22, "TTOU", none⟩, ⟨23, "URG", none⟩,
   ⟨24, "XCPU", some "CPU time limit exceeded"⟩, ⟨25, "XFSZ", some "File size limit exceeded"⟩,
   ⟨26, "VTALRM", some "Virtual timer expired"⟩, ⟨27, "PROF", some "Profiling timer expired"⟩,
   ⟨28, "WINCH", none⟩, ⟨29, "IO", some "I/O possible"⟩, ⟨30, "PWR", some "Power failure"⟩,
   ⟨31, "SYS", some "Bad system call"⟩, ⟨32, "32", some "Unknown signal 32"⟩,
   ⟨33, "33", some "Unknown signal 33"⟩]

/-- The name of the signal for real time with a number; they are counted from the first
one up to the middle, and then from the last one. -/
def realTimeName (n : Nat) : String :=
  if n = 0 then "RTMIN" else if n ≤ 15 then "RTMIN+" ++ Decimal.natText n
  else if n < 30 then "RTMAX-" ++ Decimal.natText (30 - n) else "RTMAX"

def all : List Signal :=
  common ++ (List.range 31).map fun n =>
    ⟨34 + n, realTimeName n, some ("Real-time signal " ++ Decimal.natText n)⟩

/-- The signal that a word names or numbers. -/
def ofWord? (word : String) : Option Signal :=
  match Decimal.nat? word.toList with
  | some n => all.find? (·.number = n)
  | none => all.find? (·.name = word.toUpper)

def ofNumber? (n : Nat) : Option Signal := all.find? (·.number = n)

/-- The signal that asks a program to end. -/
def term : Signal := ⟨15, "TERM", some "Terminated"⟩

/-- What comes to a program that writes where nobody reads. -/
def pipe : Signal := ⟨13, "PIPE", none⟩

/-- Whether a program can do nothing against a signal. -/
def isFinal (s : Signal) : Bool := s.name = "KILL" || s.name = "STOP"

/-- Whether a signal does nothing to a program that does not ask for it. -/
def isHarmless (s : Signal) : Bool := ["EXIT", "CHLD", "CONT", "URG", "WINCH"].contains s.name

/-- Whether a signal makes a program stand still. -/
def stops (s : Signal) : Bool := ["STOP", "TSTP", "TTIN", "TTOU"].contains s.name

end Signal

end Mender.Shell
