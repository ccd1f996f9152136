/-!
# Commands of the shell

Words are built from pieces that are expanded when a command runs. Commands
combine by sequence, condition, loop and pipe, and may have their inputs and
outputs redirected.
-/

namespace Mender.Shell

/-- What a redirection does with a file descriptor. -/
inductive RedirectKind where
  | read
  | write
  /-- Writes even where files are protected. -/
  | replace
  | append
  /-- Reads and writes. -/
  | update
  /-- Another descriptor stands for this one. -/
  | duplicate
  /-- The word itself is read. -/
  | here
  deriving DecidableEq, Repr

/-- Which part of a value a pattern takes away. -/
inductive TrimSide where
  | front
  | back
  deriving DecidableEq, Repr

mutual

/-- A part of a word. -/
inductive Piece where
  | text (cs : List Char) (quoted : Bool)
  | parameter (name : String) (use : Use) (quoted : Bool)
  /-- What a command writes. -/
  | output (command : Command) (quoted : Bool)
  | arithmetic (expression : List Piece) (quoted : Bool)

/-- How the value of a parameter is used; with `colon` an empty value counts as unset. -/
inductive Use where
  | value
  | length
  | orElse (colon : Bool) (word : List Piece)
  | orAssign (colon : Bool) (word : List Piece)
  | orFail (colon : Bool) (word : List Piece)
  | instead (colon : Bool) (word : List Piece)
  | trim (side : TrimSide) (longest : Bool) (pattern : List Piece)
  /-- A use that the shell does not know. -/
  | unknown

inductive Redirect where
  | mk (descriptor : Nat) (kind : RedirectKind) (word : List Piece)

/-- Where an error message names a line, the command has the number of its first one. -/
inductive Command where
  | simple (line : Nat) (assignments : List (String × List Piece)) (words : List (List Piece))
      (redirects : List Redirect)
  | sequence (commands : List Command)
  | both (first second : Command)
  | either (first second : Command)
  | negation (command : Command)
  /-- The output of each command is the input of the next. -/
  | pipe (first second : Command)
  | background (command : Command)
  | subshell (line : Nat) (command : Command)
  | redirected (line : Nat) (command : Command) (redirects : List Redirect)
  | choice (condition yes no : Command)
  /-- Runs the body as long as the condition succeeds, or fails. -/
  | loop (whileFails : Bool) (condition body : Command)
  /-- Runs the body for each word, or for each argument. -/
  | forEach (line : Nat) (name : String) (words : Option (List (List Piece))) (body : Command)
  | select (line : Nat) (word : List Piece) (cases : List (List (List Piece) × Command))
  | define (name : String) (body : Command)

end

instance : Inhabited Command := ⟨.sequence []⟩

abbrev Word := List Piece

namespace Word

/-- Puts a piece in front of a word; texts that are quoted alike become one piece. -/
def cons (piece : Piece) (word : Word) : Word :=
  match piece, word with
  | .text a q, .text b r :: rest => if q = r then .text (a ++ b) q :: rest else piece :: word
  | _, _ => piece :: word

end Word

end Mender.Shell
