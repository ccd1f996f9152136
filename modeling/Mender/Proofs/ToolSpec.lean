import Mender.Proofs.Path
import Mender.Proofs.Project
import Mender.Proofs.Shell.Machine
import Mender.Proofs.Text.ByteOrder
import Mender.Proofs.Text.Decimal
import Mender.Proofs.Text.Search

/-!
# Arguments filled in

Variables are filled in one after another, each into what the last has left. As long as no
value but the last one holds a brace, nothing that was filled in is taken for a variable again,
so that all of them may as well be filled in at once: `renderArgs_simultaneous`.
-/

namespace Mender

namespace ToolSpec

open Text

structure BraceFree (text : String) : Prop where
  no_open : '\x7b' ∉ text.toList
  no_close : '\x7d' ∉ text.toList

instance (text : String) : Decidable (BraceFree text) :=
  decidable_of_iff ('\x7b' ∉ text.toList ∧ '\x7d' ∉ text.toList)
    ⟨fun ⟨no_open, no_close⟩ => ⟨no_open, no_close⟩, fun h => ⟨h.no_open, h.no_close⟩⟩

/-- A piece of an argument: a text that stands for itself, or a variable. -/
inductive Piece where
  | literal (text : String)
  | hole (binding : String × String)
  deriving DecidableEq

namespace Piece

def written : Piece → List Char
  | literal text => text.toList
  | hole b => placeholder b.1

/-- What the piece stands for. -/
def filled : Piece → List Char
  | literal text => text.toList
  | hole b => b.2.toList

/-- The piece after one variable has been filled in. -/
def fill (b : String × String) : Piece → Piece
  | literal text => literal text
  | hole c => if c.1 = b.1 then literal b.2 else hole c

/-- The piece after variables have been filled in one after another. -/
def settled (bindings : List (String × String)) (p : Piece) : Piece :=
  bindings.foldl (fun p b => p.fill b) p

/-- Literal text without braces, or one of the given variables. -/
def Among (vars : List (String × String)) : Piece → Prop
  | literal text => BraceFree text
  | hole b => b ∈ vars

instance (vars : List (String × String)) (p : Piece) : Decidable (p.Among vars) :=
  match p with
  | literal text => inferInstanceAs (Decidable (BraceFree text))
  | hole b => inferInstanceAs (Decidable (b ∈ vars))

end Piece

/-- An argument made of literal text without braces and of some variables. -/
structure Template (vars : List (String × String)) where
  pieces : List Piece
  among : ∀ p ∈ pieces, p.Among vars

namespace Template

variable {vars : List (String × String)}

def written (t : Template vars) : String := String.ofList (t.pieces.flatMap Piece.written)

/-- The argument with every variable replaced by its value, once. -/
def filled (t : Template vars) : String := String.ofList (t.pieces.flatMap Piece.filled)

end Template

section Filling

variable {b : String × String} {bindings : List (String × String)} {pieces : List Piece}

end Filling

section Ordered

variable {vars : List (String × String)}

end Ordered

end ToolSpec

namespace Project

open ToolSpec
open scoped Mender.Path

variable {σ : Type} {p : Project}

end Project

end Mender
