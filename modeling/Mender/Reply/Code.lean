import Mender.Text.CharClass
import Mender.Text.Pattern
import Mender.Text.Search

/-!
# Code in a reply

The code of a reply is what the first fence of the language holds, up to the
next three backticks, without the blanks around it. A reply without such a fence
is code itself where it starts as complete files do. Where the engine refuses the
pattern of a block, as it does beyond a size, no reply offers any code.
-/

namespace Mender.Reply

open Text

/-- What opens and closes a block of code. -/
def fence : List Char := ['\x60', '\x60', '\x60']

/-- A block that opens with the tag: blanks, the code between two marks, blanks and a fence. -/
def blockPattern (tag : List Char) : Pattern :=
  Pattern.ofText (fence ++ tag) ++ .many isBlank :: .mark :: .few (fun _ => true) :: .mark ::
    .many isBlank :: Pattern.ofText fence

/-- The inside of the first block that opens with the tag. -/
def fenced? (tag text : List Char) : Option (List Char) :=
  match (blockPattern tag).find? text with
  | some [code, rest] => some (code.take (code.length - rest.length))
  | _ => none

/-- The trimmed reply, where it starts with a prologue that is not empty. -/
def bare? (prologue text : List Char) : Option (List Char) :=
  let body := trim text
  if !prologue.isEmpty && startsWith prologue body then some body else none

/-- The code that a reply offers. -/
def code? (engine : Engine) (tag prologue : String) (reply : String) : Option String :=
  if engine.accepts (blockPattern tag.toList) then
    (fenced? tag.toList reply.toList <|> bare? prologue.toList reply.toList).map String.ofList
  else none

end Mender.Reply
