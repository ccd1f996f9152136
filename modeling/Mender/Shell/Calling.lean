import Mender.Shell.Builtin

/-!
# Calls

What the words of a command call: a function, a command of the shell itself, or a program.
-/

namespace Mender.Shell

/-- The words of a command behind the commands that only say how it is called. -/
structure Call where
  words : List String
  /-- Whether functions are passed over, and a mistake does not end the shell. -/
  isDirect : Bool
  /-- Whether programs are looked for where the system has its own. -/
  isStandard : Bool

namespace Call

/-- The words behind the options for a call, and whether the places of the system are meant;
nothing if something else is asked for. -/
def behindOptions? (isStandard : Bool) : List String → Option (Bool × List String)
  | [] => none
  | word :: rest =>
    match word.toList with
    | ['-', '-'] => if rest.isEmpty then none else some (isStandard, rest)
    | '-' :: c :: cs => if (c :: cs).all (· = 'p') then behindOptions? true rest else none
    | _ => some (isStandard, word :: rest)

/-- The call that words make where some functions are known. -/
def ofWords (functions : List String) (budget : Nat) (call : Call) : Call :=
  match budget, call.words with
  | budget + 1, "command" :: rest =>
    if functions.contains "command" && !call.isDirect then call
    else
      match behindOptions? call.isStandard rest with
      | some (isStandard, words) => ofWords functions budget ⟨words, true, isStandard⟩
      | none => call
  | _, _ => call

/-- The call that the words of a command make. -/
def of (c : Context) (words : List String) : Call :=
  ofWords (c.functions.map (·.1)) words.length ⟨words, false, false⟩

/-- Whether words as far as they are known take assignments as arguments. -/
def takesAssignments (c : Context) (words : List String) : Bool :=
  let call := of c words
  call.words.head?.any fun name =>
    declarations.contains name && (call.isDirect || (c.functions.lookup name).isNone)

/-- The function that is called, if it is one. -/
def function? (call : Call) (c : Context) : Option Command :=
  if call.isDirect then none else call.words.head?.bind fun name => c.functions.lookup name

/-- Whether a mistake in what is called ends the shell. -/
def isSpecial (call : Call) (c : Context) : Bool :=
  !call.isDirect && (call.function? c).isNone && call.words.head?.any specialBuiltins.contains

end Call

end Mender.Shell
