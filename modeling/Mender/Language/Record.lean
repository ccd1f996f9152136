import Mender.Json.Slots
import Mender.Language

/-!
# Languages as JSON records

A slot that is left out takes its default.
-/

namespace Mender.Language

def slots : List String := ["standard", "fence_tag", "prologue", "extension", "requirements"]

/-- The value of a slot, or the default where the slot is left out. -/
def slotOr {α : Type} (default : α) (read : Json → Option α) : Option Json → Option α
  | none => some default
  | some j => read j

def ofJson? (j : Json) : Option Language := do
  let [standard, fenceTag, prologue, extension, requirements] ← j.openSlots? slots | none
  return {
    standard := ← slotOr default.standard Json.text? standard
    fenceTag := ← slotOr default.fenceTag Json.text? fenceTag
    prologue := ← slotOr default.prologue Json.text? prologue
    extension := ← slotOr default.extension Json.text? extension
    requirements := ←
      slotOr default.requirements (fun j => j.items?.bind (·.mapM Json.text?)) requirements }

def toJson (l : Language) : Json :=
  .record
    [("standard", .text l.standard), ("fence_tag", .text l.fenceTag),
     ("prologue", .text l.prologue), ("extension", .text l.extension),
     ("requirements", .array (l.requirements.map Json.text))]

end Mender.Language
