import Mender.Shell.State

/-!
# Copies of a shell

Parts of a script run in copies of the shell, and programs in processes of their own.
What they do to the rest of the state stays; of what is theirs only the status does.
Here are also the ways in which loops and functions catch what leaves them.
-/

namespace Mender.Shell.Act

variable {α : Type}

/-- Does something else at the end, however the act ends. -/
def andThen (act : Act α) (cleanup : Act Unit) : Act α := do
  let result ← ExceptT.lift act.run
  cleanup
  match result with
  | .ok a => return a
  | .error stop => throw stop

/-- Says that a signal ended a process, and takes that over as the status. -/
def bury (signal : Signal) : Act Unit := do
  if let some epitaph := signal.epitaph? then complain (epitaph ++ "\n")
  setStatus (128 + signal.number)

/-- Traps that a copy of the shell keeps: those that ignore a signal. -/
def ignoring (traps : List (Signal × String)) : List (Signal × String) := traps.filter (·.2.isEmpty)

/-- A number for another process. -/
def nextProcess : Act Nat := do
  let s ← get
  set { s with latest := s.latest + 1 }
  return s.latest + 1

/-- The signals that do not end a process with some context. -/
def caught (c : Context) : List Signal := c.deaf ++ c.traps.map (·.1)

/-- Runs an act in a process of its own, of which only the status stays. If the process is
that of the shell, a signal that ends it ends the shell. -/
def separately (inPlace : Bool) (enter : Context → Context) (act : Act Unit) : Act Unit := do
  let before ← context
  modifyContext enter
  if !inPlace then
    let process ← nextProcess
    modifyContext fun c => { c with process, parents := before.process :: before.parents }
  let result ← ExceptT.lift act.run
  let after ← context
  modifyContext fun _ => { before with status := after.status % 256 }
  match result with
  | .error (.ended signal) => if inPlace then throw (.ended signal) else bury signal
  | .error .overran =>
    modify fun s => { s with cutOff := s.cutOff ++ [(after.process, caught after)] }
    throw .overran
  | _ => return

/-- Runs an act in a copy of the shell. -/
def inCopy (act : Act Unit) : Act Unit :=
  separately false (fun c => { c with traps := ignoring c.traps, givesPlace := true }) act

/-- Runs an act in the process of a program, which has only the variables that it is given. -/
def asProgram (given : List (String × String)) (inPlace : Bool) (act : Act Unit) : Act Unit :=
  separately inPlace
    (fun c => { c with
      vars := given, exported := given.map (·.1), traps := []
      deaf := (ignoring c.traps).map (·.1) ++ c.deaf })
    act

/-- Runs a part behind which the shell goes on, so that no program takes its place. -/
def inside (act : Act Unit) : Act Unit := do
  let givesPlace := (← context).givesPlace
  modifyContext fun c => { c with givesPlace := false }
  andThen act (modifyContext fun c => { c with givesPlace })

/-- Runs the body of a function. -/
def catchFunction (act : Act Unit) : Act Unit := do
  match ← ExceptT.lift act.run with
  | .error .leaveFunction | .ok () => return
  | .error stop => throw stop

/-- Runs the body of a loop; answers whether the loop goes on. -/
def round (act : Act Unit) : Act Bool := do
  match ← ExceptT.lift act.run with
  | .ok () => return true
  | .error (.leaveLoops n) => if n ≤ 1 then return false else throw (.leaveLoops (n - 1))
  | .error (.nextRound n) => if n ≤ 1 then return true else throw (.nextRound (n - 1))
  | .error stop => throw stop

/-- Goes round as long as `more` answers with the status of another round; ends with
the status of the last one. -/
def rounds (more : Act (Bool × Option Nat)) (status : Nat) : Nat → Act Unit
  | 0 => hang
  | n + 1 => do
    match ← more with
    | (_, none) => setStatus status
    | (true, some status) => rounds more status n
    | (false, some status) => setStatus status

/-- Runs a loop, and counts it while it is under way. -/
def looping (act : Act Unit) : Act Unit := do
  let loops := (← context).loops
  modifyContext fun c => { c with loops := loops + 1 }
  andThen (inside act) (modifyContext fun c => { c with loops })

/-- Runs an act whose failure is asked for. -/
def asked (act : Act Unit) : Act Unit := do
  let minds := (← context).minds
  modifyContext fun c => { c with minds := false }
  andThen (inside act) (modifyContext fun c => { c with minds })

end Mender.Shell.Act
