import Mender.Shell.ByteText

/-!
# Programs on a disk

A path leads to a program if it names a command of the system, or an executable
file that says in its first line which program runs it.
-/

namespace Mender.Shell

/-- A command of the system, the name it is called by and its arguments. -/
structure Program where
  command : String
  name : String
  args : List String
  deriving DecidableEq, Repr

namespace Program

/-- Where programs are looked for that are called by name, unless a variable says so. -/
def standardPath : String := "/usr/local/sbin:/usr/local/bin:/usr/sbin:/usr/bin:/sbin:/bin"

/-- How many bytes of a file are looked at. -/
def headSize : Nat := 256

def isBlankByte (b : UInt8) : Bool := b = 32 || b = 9

/-- The first place from one to another whose byte has a property. -/
def placeOf? (bytes : Array UInt8) (p : UInt8 → Bool) (first last : Nat) : Option Nat :=
  ((List.range (last + 1)).drop first).find? fun i => bytes[i]?.any p

/-- The end of some bytes without the blanks in front of it. -/
def trimmedEnd (bytes : Array UInt8) : Nat → Nat
  | 0 => 0
  | n + 1 => if bytes[n]?.any isBlankByte then trimmedEnd bytes n else n + 1

/-- The text from a place on, up to an end or a zero. -/
def textBetween (bytes : Array UInt8) (start stop : Nat) : String :=
  ByteText.ofBytes ((bytes.extract start stop).toList.takeWhile (· ≠ 0))

/-- The program that the first line of a file names behind its mark, and one argument
that may follow. A line that does not end among the bytes that are looked at has to
leave no doubt where the name ends. -/
def interpreter? (data : Bytes) : Option (String × Option String) := do
  let head := data.take headSize
  let bytes := (head ++ List.replicate (headSize - head.length) 0).toArray
  if head.take 2 ≠ [35, 33] then none
  let last := headSize - 1
  let line := head.takeWhile fun b => b ≠ 10 && b ≠ 0
  let stop ←
    if head[line.length]? = some 10 then some line.length
    else do
      let start ← placeOf? bytes (!isBlankByte ·) 2 last
      let _ ← placeOf? bytes (fun b => isBlankByte b || b = 0) start last
      some last
  let stop := trimmedEnd bytes stop
  let start ← placeOf? bytes (!isBlankByte ·) 2 stop
  if start = stop then none
  let argument? := do
    let gap ← placeOf? bytes (fun b => isBlankByte b || b = 0) start stop
    if bytes[gap]? = some 0 then none
    let place ← placeOf? bytes (!isBlankByte ·) gap stop
    some (gap, textBetween bytes place stop)
  match argument? with
  | some (gap, argument) => some (textBetween bytes start gap, some argument)
  | none => some (textBetween bytes start stop, none)

/-- How many files may name each other as their programs. -/
def maxInterpreters : Nat := 5

/-- The program at a path. Files whose program is such a file again are followed as
often as `depth` says. -/
def followed (disk : Disk) (depth : Nat) (path : String) (args : List String) :
    Except SystemError Program := do
  match ← disk.find path with
  | (_, .special (.command command)) => return ⟨command, path, args⟩
  | (_, .file data true) =>
    match interpreter? data, depth with
    | none, _ => throw .badExecutable
    | some _, 0 => throw .tooManyLinks
    | some (name, argument?), depth + 1 =>
      if name.isEmpty then throw .accessDenied
      followed disk depth name (argument?.toList ++ path :: args)
  | _ => throw .accessDenied

/-- The program at a path. -/
def atPath (disk : Disk) (path : String) (args : List String) : Except SystemError Program :=
  followed disk maxInterpreters path args

/-- The paths at which a program of some name may be, in the order of the search. -/
def candidates (path name : String) : List String :=
  (path.splitOn ":").map fun directory =>
    if directory.isEmpty then name else directory ++ "/" ++ name

/-- Whether a search goes on behind an error. -/
def isPassedOver : SystemError → Bool
  | .notFound | .notDirectory => true
  | _ => false

/-- The program at a path. A file that does not say which program runs it is run by a
shell. -/
def atPathOrScript (disk : Disk) (path : String) (args : List String) :
    Except SystemError Program :=
  match atPath disk path args with
  | .error .badExecutable => .ok ⟨"sh", "/bin/sh", path :: args⟩
  | found => found

/-- A program found at a path is called by its name, unless another program runs it. -/
def called (name path : String) (program : Program) : Program :=
  if program.name = path then { program with name } else program

/-- The first program among some paths that can be run. -/
def firstOf (open_ : String → List String → Except SystemError Program) (name : String)
    (args : List String) (denied : Bool) : List String → Except SystemError Program
  | [] => .error (if denied then .accessDenied else .notFound)
  | path :: more =>
    match open_ path args with
    | .ok program => .ok (program.called name path)
    | .error .accessDenied => firstOf open_ name args true more
    | .error e => if isPassedOver e then firstOf open_ name args denied more else .error e

/-- The program that is called by a name or by a path; `open_` finds the one at a path. -/
def find (open_ : String → List String → Except SystemError Program) (path name : String)
    (args : List String) : Except SystemError Program :=
  if name.isEmpty then .error .notFound
  else if name.toList.contains '/' then open_ name args
  else firstOf open_ name args false (candidates path name)

/-- Paths from the first one on that leads to a program, or the last error that says more
than that nothing is there. -/
def fromFirst (disk : Disk) (e : SystemError) : List String → Except SystemError (List String)
  | [] => .error e
  | path :: more =>
    match disk.find path with
    | .error e' => fromFirst disk (if isPassedOver e' then e else e') more
    | .ok (_, .file _ true) | .ok (_, .special (.command _)) => .ok (path :: more)
    | .ok _ => fromFirst disk .accessDenied more

/-- The first program among some paths that a shell can run. -/
def firstRunnable (disk : Disk) (name : String) (args : List String) (e : SystemError) :
    List String → Except SystemError Program
  | [] => .error e
  | path :: more =>
    match atPathOrScript disk path args with
    | .ok program => .ok (program.called name path)
    | .error e' => firstRunnable disk name args (if isPassedOver e' then e else e') more

/-- The status of a command whose program cannot be run. -/
def refusalStatus : SystemError → Nat
  | .notFound | .notDirectory | .tooManyLinks | .nameTooLong => 127
  | _ => 126

/-- What a shell says of a program that cannot be run. -/
def refusalWords : SystemError → String
  | .notFound | .notDirectory => "not found"
  | e => e.words

/-- The longest argument that a program can be given, in bytes. -/
def maxArgumentBytes : Nat := 131071

/-- The program that a shell calls by a name or by a path, or the error and the status that
comes of it. If the shell has to look for it `first`, it only tries the paths from the
first one on that leads to a program. -/
def ofCall (disk : Disk) (first : Bool) (path name : String) (args : List String) :
    Except (SystemError × Nat) Program := do
  let tried := fun found : Except SystemError Program =>
    let found := if args.any (·.length > maxArgumentBytes) then
        found.bind fun _ => .error .argumentsTooLong else found
    found.mapError fun e => (e, refusalStatus e)
  if name.toList.contains '/' then tried (atPathOrScript disk name args)
  else
    let paths ←
      if first then (fromFirst disk .notFound (candidates path name)).mapError (·, 127)
      else pure (candidates path name)
    tried (firstRunnable disk name args .notFound paths)

/-- The path at which a program is found that is called by name. -/
def locate? (disk : Disk) (path name : String) : Option String :=
  (candidates path name).find? fun p =>
    match disk.find p with
    | .ok (_, .file _ true) | .ok (_, .special (.command _)) => true
    | _ => false

end Program

/-- The shells of the system. -/
def shellNames : List String := ["sh", "dash", "bash"]

end Mender.Shell
