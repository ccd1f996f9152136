import Mender.Failure
import Mender.Json.Reader
import Mender.Json.Slots
import Mender.Text.CharClass

/-!
# The body of a reply

The service answers with a JSON record of content blocks. The text of a reply is
that of the first block of the type `text`, whatever the other blocks hold; a
blank text is no text.
-/

namespace Mender.Reply

/-- A part of the content. -/
structure Block where
  type : String
  text? : Option String
  deriving DecidableEq, Repr

namespace Block

/-- Reads a slot that may hold null. -/
def textSlot? : Option Json → Option (Option String)
  | none | some .null => some none
  | some j => j.text?.map some

def ofJson? (j : Json) : Option Block := do
  let [some type, text] ← j.slots? ["type", "text"] | none
  return { type := ← type.text?, text? := ← textSlot? text }

end Block

/-- The content blocks of a body. -/
def blocks? (body : String) : Option (List Block) := do
  let [some content] ← (← Json.ofText? body.toList).slots? ["content"] | none
  (← content.items?).mapM Block.ofJson?

/-- The text of the first block of the type `text`, unless it is blank. -/
def selectText? (blocks : List Block) : Option String :=
  ((blocks.find? (·.type = "text")).bind (·.text?)).filter (!·.isBlankText)

/-- The text of a reply. -/
def text (body : String) : Except Failure String :=
  match blocks? body with
  | none => .error ((Failure.ofCause (.malformed .reply body)).within "decode messages response")
  | some blocks =>
    match selectText? blocks with
    | some text => .ok text
    | none => .error (.other "messages response has no text content")

end Mender.Reply
