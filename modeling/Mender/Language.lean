/-!
# Languages

What a run has to know about the language of its target: how the prompt names
its standard, how code is fenced, how a complete file starts, which files of a
directory belong to it, and what the fixed code is required to be.
-/

namespace Mender

structure Language where
  standard : String
  fenceTag : String
  /-- How every complete file starts; empty where that is not said. -/
  prologue : String
  /-- The extension of the files of a directory, without the dot. -/
  extension : String
  requirements : List String
  deriving DecidableEq, Repr

namespace Language

def default : Language where
  standard := "PHP 8.4"
  fenceTag := "php"
  prologue := "<?php"
  extension := "php"
  requirements :=
    ["Use declare(strict_types=1);",
     "Use PHP 8.4 features where possible (constructor promotion, readonly, enums)"]

instance : Inhabited Language := ⟨default⟩

/-- The line in front of each file of a directory. -/
def fileMarker (path : String) : String := "// FILE: " ++ path

end Language

end Mender
