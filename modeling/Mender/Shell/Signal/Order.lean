import Mender.Shell.Signal

/-!
# Orders to send signals

What the words of a command that sends signals ask for.
-/

namespace Mender.Shell

/-- What is asked of the command that sends signals. -/
inductive SignalOrder where
  /-- The names of all signals. -/
  | names
  /-- The name of the signal with a number, or of the one that led to a status. -/
  | nameOf (word : String)
  /-- A signal for some processes; with none it is only asked whether they are there. -/
  | send (signal? : Option Signal) (targets : List String)

namespace SignalOrder

def usage : String :=
  "Usage: kill [-s sigspec | -signum | -sigspec] [pid | job]... or\nkill -l [exitstatus]"

/-- The signal that a word names or numbers; the number zero stands for none. -/
def signalOf? (word : String) : Option (Option Signal) :=
  if word = "0" then some none
  else ((Signal.ofWord? word).filter (· ≠ Signal.exit)).map some

/-- The options in front of words: whether a list is asked for, which signal is given, and
the words behind them. -/
def options (budget : Nat) (lists : Bool) (signal? : Option (Option Signal))
    (words : List String) : Except String (Bool × Option (Option Signal) × List String) :=
  match budget, words with
  | budget + 1, word :: rest =>
    match word.toList with
    | ['-', '-'] => .ok (lists, signal?, rest)
    | '-' :: 'l' :: more =>
      options budget true signal? (if more.isEmpty then rest else String.ofList ('-' :: more) :: rest)
    | '-' :: 's' :: more =>
      let (value?, rest) :=
        if more.isEmpty then (rest.head?, rest.drop 1) else (some (String.ofList more), rest)
      match value? with
      | none => .error "No arg for -s option"
      | some value =>
        match signalOf? value with
        | none => .error ("invalid signal number or name: " ++ value)
        | some signal? => options budget lists (some signal?) rest
    | '-' :: letter :: _ => .error ("Illegal option -" ++ String.singleton letter)
    | _ => .ok (lists, signal?, words)
  | _, words => .ok (lists, signal?, words)

/-- What words ask for, or what is wrong with them. -/
def ofWords (words : List String) : Except String SignalOrder := do
  let size := (words.map (·.length)).foldl (· + ·) words.length
  let first := (words.headD "").toList
  let named? := if first.head? = some '-' then signalOf? (String.ofList (first.drop 1)) else none
  let (lists, signal?, targets) ←
    if named?.isSome then .ok (false, named?, words.drop 1) else options size false none words
  match lists, targets with
  | false, [] => .error usage
  | false, targets => .ok (.send (signal?.getD (some .term)) targets)
  | true, [] => .ok .names
  | true, word :: _ => if signal?.isSome then .error usage else .ok (.nameOf word)

/-- All signals, by name. -/
def listing : String :=
  "0\n" ++ String.join ((Signal.all.drop 1).map fun s => s.name ++ "\n")

/-- The name of the signal with a number, or of the one that led to a status. -/
def nameOf? (n : Nat) : Option String :=
  let n := if n > 128 then n - 128 else n
  if n = 0 then none else (Signal.ofNumber? n).map (·.name)

end SignalOrder

end Mender.Shell
