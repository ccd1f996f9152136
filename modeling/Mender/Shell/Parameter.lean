import Mender.Shell.State

/-!
# Parameters

The values of parameters, the parts that patterns take away from them, and the home
directory for which a tilde stands in words.
-/

namespace Mender.Shell

/-- Letters of options. -/
def optionLetters : List Char :=
  ['e', 'f', 'I', 'i', 'm', 'n', 's', 'x', 'v', 'V', 'E', 'C', 'a', 'b', 'u']

/-- The text of a parameter, if it is set. -/
def parameter? (name : String) : Act (Option String) := do
  let c ← Act.context
  match name with
  | "@" | "*" =>
    let joint := ((← Act.separators).head?.map String.singleton).getD ""
    return some (joint.intercalate c.args)
  | "#" => return some (Decimal.natText c.args.length)
  | "?" => return some (Decimal.natText c.status)
  | "$" => return some (Decimal.natText c.number)
  | "!" => return c.lastJob?.map Decimal.natText
  | "-" => return some (String.ofList (optionLetters.reverse.filter c.options.contains))
  | "0" => return some c.name
  | _ =>
    match Decimal.nat? name.toList with
    | some 0 => return some c.name
    | some n => return c.args[n - 1]?
    | none => Act.valueOf? name

/-- A value without what a pattern matches at one side. A value may be made of texts with
zeros between them; a pattern sees no more than one of them. -/
def trimmedValue (side : TrimSide) (longest : Bool) (pattern : Marked) (cs : List Char) :
    List Char :=
  let one := fun cs : List Char => cs.takeWhile (· ≠ '\x00')
  let inFirst := List.range ((one cs).length + 1)
  let inAll := (List.range (cs.length + 1)).reverse
  match side with
  | .front =>
    match (if longest then inAll else inFirst).find? fun n =>
        Glob.isMatch pattern (one (cs.take n)) with
    | some n => cs.drop n
    | none => cs
  | .back =>
    match (if longest then inFirst else inAll).find? fun n =>
        Glob.isMatch pattern (one (cs.drop n)) with
    | some n => cs.take n
    | none => cs

/-- Whether a use of a parameter is an error where unset ones are. -/
def Use.needsValue : Use → Bool
  | .value | .length | .trim .. => true
  | _ => false

namespace Word

/-- The home of a user. -/
def homeOf? (user : String) : Option String := if user = "root" then some "/root" else none

/-- Characters with the tilde in front, and in assignments those behind colons, replaced
by what they stand for; `ends` says whether the word ends behind them. -/
def tildeParts (home? : Option String) (inValue ends atStart : Bool) (budget : Nat)
    (cs : List Char) : Word :=
  match budget, cs with
  | 0, _ => [.text cs false]
  | _, [] => []
  | budget + 1, c :: rest =>
    let stops := fun c => c = '/' || (inValue && c = ':')
    if atStart && c = '~' then
      let user := rest.takeWhile (!stops ·)
      let after := rest.drop user.length
      let found? := if user.isEmpty then home? else homeOf? (String.ofList user)
      match if after.isEmpty && !ends then none else found? with
      | some home =>
        .text home.toList (!home.isEmpty) :: tildeParts home? inValue ends false budget after
      | none => .cons (.text (c :: user) false) (tildeParts home? inValue ends false budget after)
    else .cons (.text [c] false) (tildeParts home? inValue ends (inValue && c = ':') budget rest)

/-- A word with tildes replaced by what they stand for. -/
def withHome (home? : Option String) (inValue : Bool) (word : Word) : Word :=
  let replaced := fun (atStart ends : Bool) (cs : List Char) =>
    if cs.contains '~' then tildeParts home? inValue ends atStart (cs.length + 1) cs
    else [.text cs false]
  match word with
  | .text cs false :: rest =>
    let tail := if !inValue then rest
      else rest.flatMap fun
        | .text ds false => replaced false false ds
        | piece => [piece]
    replaced true rest.isEmpty cs ++ tail
  | _ =>
    if !inValue then word
    else word.flatMap fun
      | .text ds false => replaced false false ds
      | piece => [piece]

/-- The name and the value of a word that is an assignment. -/
def assignment? (word : Word) : Option (String × Word) :=
  match word with
  | .text cs false :: rest =>
    let isNameChar := fun c => c = '_' || Text.isAsciiLetter c || Text.isDigit c
    let key := cs.takeWhile isNameChar
    let isName := key.head?.any fun c => !Text.isDigit c
    match cs.drop key.length with
    | '=' :: value =>
      if isName then some (String.ofList key, if value.isEmpty then rest else .text value false :: rest)
      else none
    | _ => none
  | _ => none

end Word

end Mender.Shell
