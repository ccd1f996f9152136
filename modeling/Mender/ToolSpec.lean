import Mender.Path
import Mender.Text.Search

/-!
# Tool specifications

A tool is a binary and a template of arguments. A key in braces stands for the
value of a variable. The variables are filled in one after another, in the order
of their keys, so that the value of one may hold the braces of a later one.
-/

namespace Mender

structure ToolSpec where
  /-- A relative path starts at the root of the project. -/
  binary : String
  args : List String
  deriving DecidableEq, Repr

namespace ToolSpec

open Text

/-- Where the binary is. -/
def binaryPath (spec : ToolSpec) (projectRoot : Path) : Path :=
  projectRoot.join (.ofText spec.binary)

/-- What stands for a variable in an argument. -/
def placeholder (key : String) : List Char := '\x7b' :: key.toList ++ ['\x7d']

/-- An argument with one variable filled in. -/
def fill (arg : List Char) (binding : String × String) : List Char :=
  replaceAll (placeholder binding.1) binding.2.toList arg

/-- Variables in the order of their keys, character by character. -/
def ordered (vars : List (String × String)) : List (String × String) :=
  vars.mergeSort fun a b => a.1 ≤ b.1

/-- An argument with all variables filled in. -/
def renderArg (vars : List (String × String)) (arg : String) : String :=
  String.ofList ((ordered vars).foldl fill arg.toList)

def renderArgs (spec : ToolSpec) (vars : List (String × String)) : List String :=
  spec.args.map (renderArg vars)

end ToolSpec

end Mender
