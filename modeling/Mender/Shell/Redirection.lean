import Mender.Shell.State

/-!
# Redirections

What redirections do to the descriptors of a shell once their words are expanded.
-/

namespace Mender.Shell

/-- What the shell calls an error of a file that it opens. -/
def openingWords (creating : Bool) (e : SystemError) : String :=
  match e with
  | .notFound | .notDirectory => if creating then "Directory nonexistent" else "No such file"
  | e => e.words

namespace Act

/-- Whether a file is protected from being written anew. -/
def isProtected (path : String) : Act Bool := do
  if !(← hasOption 'C') then return false
  match (← disk).find path with
  | .ok (_, .file _ _) | .ok (_, .special (.command _)) => return true
  | _ => return false

/-- Lets a descriptor stand for what was opened; answers whether that worked. -/
def connect (descriptor : Nat) (failure : SystemError → String) :
    Except SystemError Channel → Act Bool
  | .ok channel => do
    setChannel descriptor (some channel)
    return true
  | .error e => do
    protest (failure e)
    return false

/-- Redirects a descriptor; answers whether that worked. -/
def redirectTo (descriptor : Nat) (kind : RedirectKind) (text : String) : Act Bool := do
  let creating := fun e => "cannot create " ++ text ++ ": " ++ openingWords true e
  match kind with
  | .read =>
    connect descriptor (fun e => "cannot open " ++ text ++ ": " ++ openingWords false e)
      (← openInput text)
  | .write =>
    if ← isProtected text then connect descriptor creating (.error .alreadyExists)
    else connect descriptor creating (← openOutput false false text)
  | .replace => connect descriptor creating (← openOutput false false text)
  | .append => connect descriptor creating (← openOutput true true text)
  | .update =>
    match ← openOutput true false text with
    | .ok channel =>
      if descriptor = 0 then connect descriptor creating (← openInput text)
      else connect descriptor creating (.ok channel)
    | .error e => connect descriptor creating (.error e)
  | .here =>
    setChannel descriptor (some (.source (← openSource (.ofStream (.ofBytes (ByteText.toBytes text))))))
    return true
  | .duplicate =>
    if text = "-" then
      setChannel descriptor none
      return true
    match text.toList with
    | [c] =>
      if Text.isDigit c then
        match ← channel? (Text.digitValue c) with
        | some channel => connect descriptor creating (.ok channel)
        | none => connect descriptor (fun e => text ++ ": " ++ e.words) (.error .badDescriptor)
      else fail "Syntax error: Bad fd number"
    | _ => fail "Syntax error: Bad fd number"

end Act

end Mender.Shell
