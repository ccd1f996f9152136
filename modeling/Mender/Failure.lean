import Mender.Path
import Mender.Text.Span

/-!
# Failures

A failure has a cause and, from the outermost to the innermost, what was being
done when it came up. Its message is the chain of both. What is wrong with a text
that cannot be read is worded by the reader of its form, and that wording is not
told here.
-/

namespace Mender

/-- Why the file system or the system's loader refuses an operation. -/
inductive SystemError where
  | notFound
  | accessDenied
  | badDescriptor
  | brokenPipe
  | busy
  | alreadyExists
  | notDirectory
  | isDirectory
  | directoryNotEmpty
  | invalidArgument
  | badExecutable
  | nameTooLong
  | tooManyLinks
  | argumentsTooLong
  | storageFull
  | readOnly
  /-- A path with a NUL character in it. -/
  | nulInPath
  /-- A program or an argument with a NUL character in it. -/
  | nulInArgument
  deriving DecidableEq, Repr

namespace SystemError

/-- What an error is called. -/
def words : SystemError → String
  | .notFound => "No such file or directory"
  | .accessDenied => "Permission denied"
  | .badDescriptor => "Bad file descriptor"
  | .brokenPipe => "Broken pipe"
  | .busy => "Device or resource busy"
  | .alreadyExists => "File exists"
  | .notDirectory => "Not a directory"
  | .isDirectory => "Is a directory"
  | .invalidArgument => "Invalid argument"
  | .nameTooLong => "File name too long"
  | .directoryNotEmpty => "Directory not empty"
  | .tooManyLinks => "Too many levels of symbolic links"
  | .badExecutable => "Exec format error"
  | .argumentsTooLong => "Argument list too long"
  | .storageFull => "No space left on device"
  | .readOnly => "Read-only file system"
  | .nulInPath => "file name contained an unexpected NUL byte"
  | .nulInArgument => "nul byte found in provided data"

/-- The number of an error that the system itself raises. -/
def number? : SystemError → Option Nat
  | .notFound => some 2
  | .argumentsTooLong => some 7
  | .badExecutable => some 8
  | .accessDenied => some 13
  | .badDescriptor => some 9
  | .busy => some 16
  | .alreadyExists => some 17
  | .notDirectory => some 20
  | .isDirectory => some 21
  | .invalidArgument => some 22
  | .storageFull => some 28
  | .readOnly => some 30
  | .brokenPipe => some 32
  | .nameTooLong => some 36
  | .directoryNotEmpty => some 39
  | .tooManyLinks => some 40
  | .nulInPath | .nulInArgument => none

def message (e : SystemError) : String :=
  match e.number? with
  | some n => e.words ++ " (os error " ++ Decimal.natText n ++ ")"
  | none => e.words

end SystemError

/-- What a text is read as. -/
inductive Form where
  | settings
  | worklist
  | reply
  deriving DecidableEq, Repr

/-- What the reader of a form says about a text that it cannot read. -/
abbrev Wording := Form → String → String

inductive Cause where
  | targetNotFound (path : Path)
  | missingBinary (name : String) (path : Path)
  /-- Content for a directory, which is never parted into its files again. -/
  | unsupportedWrite (path : Path)
  | processTimeout (command : String) (timeout : Span)
  | workdirMissing (path : Path)
  | invalidConfig (reason : String)
  | system (error : SystemError)
  /-- A text file that is not UTF-8. -/
  | notText
  | malformed (form : Form) (text : String)
  | other (text : String)
  deriving DecidableEq, Repr

namespace Cause

def message (wording : Wording) : Cause → String
  | .targetNotFound path => "target path does not exist: " ++ path.shown
  | .missingBinary name path => "required binary not found: " ++ name ++ " at " ++ path.shown
  | .unsupportedWrite path =>
    "writing to directory target " ++ path.shown ++
      " is not supported (target individual files)"
  | .processTimeout command timeout => command ++ " timed out after " ++ timeout.text
  | .workdirMissing path => "working directory does not exist: " ++ path.shown
  | .invalidConfig reason => "invalid config: " ++ reason
  | .system error => error.message
  | .notText => "stream did not contain valid UTF-8"
  | .malformed form text => wording form text
  | .other text => text

/-- Causes that are raised before anything is run or written. -/
def isConfiguration : Cause → Bool
  | .targetNotFound _ | .missingBinary _ _ | .invalidConfig _ => true
  | _ => false

end Cause

structure Failure where
  /-- What was being done, the outermost first. -/
  contexts : List String
  cause : Cause
  deriving DecidableEq, Repr

namespace Failure

def ofCause (cause : Cause) : Failure := ⟨[], cause⟩

def other (text : String) : Failure := ofCause (.other text)

/-- Says what was being done when the failure came up. -/
def within (doing : String) (f : Failure) : Failure := { f with contexts := doing :: f.contexts }

/-- The contexts and the cause, joined by colons. -/
def message (wording : Wording) (f : Failure) : String :=
  ": ".intercalate (f.contexts ++ [f.cause.message wording])

end Failure

end Mender
