import Mender.Shell.Utility.Streams

/-!
# Utilities for files

Programs that make, move, copy and take away files, links and directories.
-/

namespace Mender.Shell.Utility

open Text

/-- Says what could not be done with an operand. -/
def refuse (name doing path : String) (e : SystemError) : Act Unit :=
  complain name (doing ++ " " ++ Quoting.always path ++ ": " ++ e.words)

/-- Changes the disk; answers with what goes wrong. -/
def tryChange (step : Disk → Except SystemError Disk) : Act (Option SystemError) := do
  match step (← Act.disk) with
  | .ok d =>
    Act.setDisk d
    return none
  | .error e => return some e

/-- Works on each operand; answers whether all went well. -/
def forAll (paths : List String) (work : String → Act Bool) : Act Nat := do
  let mut status := 0
  for path in paths do
    if !(← work path) then status := 1
  return status

/-- The last name of a path, without slashes behind it. -/
def lastName (path : String) : String :=
  let cs := (path.toList.reverse.dropWhile (· = '/'))
  if cs.isEmpty then (if path.isEmpty then "" else "/")
  else String.ofList (cs.takeWhile (· ≠ '/')).reverse

/-- A name in a directory. -/
def inDirectory (directory name : String) : String :=
  if Path.endsInSlash directory then directory ++ name else directory ++ "/" ++ name

/-- Whether a name leads nowhere, which is no error where anything may be missing. -/
def isMissing (e : SystemError) : Bool := e = .notFound || e = .notDirectory

/-- Takes away what lies at a path and below it, and says so where that is asked for. -/
def removeTree (name : String) (loud : Bool) : (budget : Nat) → (path : String) → Act Bool
  | 0, _ => return false
  | budget + 1, path => do
    let d ← Act.disk
    match d.look path with
    | .ok (_, .directory) =>
      let names := (ByteText.namesIn d path).mergeSort
      let mut worked := true
      for n in names do
        if !(← removeTree name loud budget (inDirectory path n)) then worked := false
      if !worked then return false
      match ← tryChange (·.removeDirectory path) with
      | none =>
        if loud then Act.print ("removed directory " ++ Quoting.always path ++ "\n")
        return true
      | some e =>
        refuse name "cannot remove" path e
        return false
    | _ =>
      match ← tryChange (·.remove path) with
      | none =>
        if loud then Act.print ("removed " ++ Quoting.always path ++ "\n")
        return true
      | some e =>
        refuse name "cannot remove" path e
        return false

def rm : Utility := withOptions
    [flag 'd' "dir", flag 'f' "force", flag 'i' "", flag 'I' "", flag 'r' "recursive", flag 'R' "",
     flag 'v' "verbose", longFlag "one-file-system", longFlag "no-preserve-root",
     ⟨none, "preserve-root", .optional⟩, ⟨none, "interactive", .optional⟩] true 1 fun name o => do
  if o.operands.isEmpty then
    if o.has "f" then return 0
    return ← misused 1 name "missing operand"
  let deep := o.has "r" || o.has "R"
  forAll o.operands fun path => do
    let d ← Act.disk
    match d.look path with
    | .error e =>
      if o.has "f" && isMissing e then return true
      refuse name "cannot remove" path e
      return false
    | .ok (l, .directory) =>
      if deep then
        let last := lastName path
        if l = [] then
          complain name ("it is dangerous to operate recursively on " ++ Quoting.always path)
          complain name "use --no-preserve-root to override this failsafe"
          return false
        if last = "." || last = ".." then
          complain name ("refusing to remove '.' or '..' directory: skipping " ++ Quoting.always path)
          return false
        removeTree name (o.has "v") 64 path
      else if o.has "d" then removeTree name (o.has "v") 1 path
      else
        refuse name "cannot remove" path .isDirectory
        return false
    | .ok _ => removeTree name (o.has "v") 1 path

def unlink : Utility := withOptions [] true 1 fun name o => do
  match o.operands with
  | [] => misused 1 name "missing operand"
  | [path] =>
    match ← tryChange (·.remove path) with
    | none => return 0
    | some e =>
      refuse name "cannot unlink" path e
      return 1
  | _ :: extra :: _ => misused 1 name ("extra operand " ++ Quoting.word extra)

def touch : Utility := withOptions
    [flag 'a' "", flag 'c' "no-create", valued 'd' "date", flag 'f' "", flag 'h' "no-dereference",
     flag 'm' "", valued 'r' "reference", valued 't' "", longValued "time"] true 1 fun name o => do
  if let some model := o.value? "r" then
    if let .error e := (← Act.disk).find model then
      refuse name "failed to get attributes of" model e
      return 1
  if o.operands.isEmpty then return ← misused 1 name "missing file operand"
  forAll o.operands fun path => do
    let d ← Act.disk
    if path = "-" || d.pathExists path then return true
    if o.has "c" || o.has "h" then
      match d.find path with
      | .error e =>
        if isMissing e then return true
        refuse name "setting times of" path e
        return false
      | .ok _ => return true
    match ← Act.replaceFile path [] with
    | none => return true
    | some .isDirectory =>
      match d.find path with
      | .ok _ => return true
      | .error e =>
        refuse name "setting times of" path e
        return false
    | some e =>
      refuse name "cannot touch" path e
      return false

/-- The paths of the directories above a path, the topmost first. -/
def pathsAbove (path : String) : List String :=
  let cs := (path.toList.reverse.dropWhile (· = '/')).reverse
  (List.range cs.length).filterMap fun i =>
    if 0 < i && cs[i]? = some '/' && cs[i - 1]? ≠ some '/' then some (String.ofList (cs.take i)) else none

/-- Whether a text is a mode in digits. -/
def isOctalMode (cs : List Char) : Bool :=
  !cs.isEmpty && cs.all Printf.isOctal && cs.foldl (fun n c => 8 * n + digitValue c) 0 ≤ 0o7777

/-- Who may run a file: its owner, its group and others. -/
structure Runners where
  user : Bool
  group : Bool
  others : Bool
  deriving DecidableEq, Repr

/-- A clause of a mode, behind those whom it is for. -/
def modeClause? (who : List Char) (isDirectory : Bool) (budget : Nat) (r : Runners) (cs : List Char) :
    Option Runners :=
  match budget, cs with
  | 0, _ => none
  | _, [] => some r
  | budget + 1, sign :: rest =>
    if sign ≠ '+' && sign ≠ '-' && sign ≠ '=' then none
    else
      let copied := rest.head?.filter fun c => c = 'u' || c = 'g' || c = 'o'
      let letters := if copied.isSome then rest.take 1 else rest.takeWhile "rwxXst".toList.contains
      let some_ := r.user || r.group || r.others
      let runs := match copied with
        | some 'u' => r.user
        | some 'g' => r.group
        | some _ => r.others
        | none => letters.contains 'x' || (letters.contains 'X' && (isDirectory || some_))
      let isFor := fun c => who.isEmpty || who.contains 'a' || who.contains c
      let change := fun (c : Char) (before : Bool) =>
        if !isFor c then before
        else match sign with
          | '+' => before || runs
          | '-' => before && !runs
          | _ => runs
      modeClause? who isDirectory budget
        ⟨change 'u' r.user, change 'g' r.group, change 'o' r.others⟩ (rest.drop letters.length)

/-- Who may run a file after its mode is changed. -/
def changedMode? (mode : String) (isDirectory : Bool) (r : Runners) : Option Runners :=
  let cs := mode.toList
  if isOctalMode cs then
    let digits := (List.replicate (3 - cs.length) '0' ++ cs).reverse
    let runs := fun (i : Nat) => (digits[i]?).any fun c => digitValue c % 2 = 1
    some ⟨runs 2, runs 1, runs 0⟩
  else
    (splitOn ',' cs).foldlM (fun r clause =>
      let who := clause.takeWhile "ugoa".toList.contains
      let rest := clause.drop who.length
      if rest.isEmpty then none else modeClause? who isDirectory (rest.length + 1) r rest) r

/-- Makes one directory; answers whether that worked. -/
def makeOne (name : String) (loud : Bool) (path : String) : Act Bool := do
  match ← tryChange (·.makeDirectory path) with
  | none =>
    if loud then Act.print (name ++ ": created directory " ++ Quoting.always path ++ "\n")
    return true
  | some e =>
    refuse name "cannot create directory" path e
    return false

def mkdir : Utility := withOptions
    [valued 'm' "mode", flag 'p' "parents", flag 'v' "verbose", flag 'Z' ""] true 1 fun name o => do
  if o.operands.isEmpty then return ← misused 1 name "missing operand"
  if let some mode := o.value? "m" then
    if (changedMode? mode true ⟨true, true, true⟩).isNone then
      complain name ("invalid mode " ++ Quoting.word mode)
      return 1
  let loud := o.has "v"
  forAll o.operands fun path => do
    if !o.has "p" then makeOne name loud path
    else
      for above in pathsAbove path do
        let d ← Act.disk
        match d.look above with
        | .error .notFound => if !(← makeOne name loud above) then return false
        | .error e =>
          refuse name "cannot create directory" above e
          return false
        | .ok (_, .directory) => pure ()
        | .ok (_, entry) =>
          match d.find above with
          | .ok (_, .directory) => pure ()
          | .ok _ =>
            refuse name "cannot create directory" above
              (match entry with
                | .link _ => .alreadyExists
                | _ => .notDirectory)
            return false
          | .error e =>
            refuse name "cannot create directory" above (if e = .notFound then .alreadyExists else e)
            return false
      if (← Act.disk).isDirectory path then return true
      makeOne name loud path

def rmdir : Utility := withOptions
    [flag 'p' "parents", flag 'v' "verbose", longFlag "ignore-fail-on-non-empty"] true 1 fun name o => do
  if o.operands.isEmpty then return ← misused 1 name "missing operand"
  let one := fun (doing path : String) => do
    if o.has "v" then Act.print (name ++ ": removing directory, " ++ Quoting.always path ++ "\n")
    match ← tryChange (·.removeDirectory path) with
    | none => return true
    | some e =>
      if o.has "ignore-fail-on-non-empty" && e = .directoryNotEmpty then return true
      if e = .notDirectory && Path.endsInSlash path && (← Act.disk).isDirectory path then
        complain name (doing ++ " " ++ Quoting.always path ++ ": Symbolic link not followed")
      else refuse name doing path e
      return false
  forAll o.operands fun path => do
    if !(← one "failed to remove" path) then return false
    if o.has "p" then
      for above in (pathsAbove path).reverse do
        if !(← one "failed to remove directory" above) then return false
    return true

/-- Where operands go. -/
inductive Destination where
  | path (target : String)
  | directory (target : String)

/-- The operands of a program that brings files to others, and where they go; `seesLinks`
says that a link to a directory is none. -/
def destination (name : String) (o : Options) (seesLinks : Bool) :
    Act (Except Nat (List String × Destination)) := do
  let d ← Act.disk
  let isDirectory := fun path : String =>
    d.isDirectory path && !(seesLinks && match d.look path with
      | .ok (_, .link _) => true
      | _ => false)
  match o.value? "t", o.operands with
  | some target, sources =>
    if sources.isEmpty then return .error (← misused 1 name "missing file operand")
    if d.isDirectory target then return .ok (sources, .directory target)
    let words := match d.find target with
      | .error e => e.words
      | .ok _ => SystemError.notDirectory.words
    complain name ("target directory " ++ Quoting.always target ++ ": " ++ words)
    return .error 1
  | none, [] => return .error (← misused 1 name "missing file operand")
  | none, [only] =>
    return .error (← misused 1 name ("missing destination file operand after " ++ Quoting.always only))
  | none, operands =>
    let target := operands.getLastD ""
    let sources := operands.dropLast
    if o.has "T" then
      match sources with
      | [_] => return .ok (sources, .path target)
      | _ => return .error (← misused 1 name ("extra operand " ++ Quoting.word (operands[2]?.getD "")))
    if isDirectory target then return .ok (sources, .directory target)
    if sources.length = 1 then return .ok (sources, .path target)
    let words := match d.find target with
      | .error e => e.words
      | .ok _ => SystemError.notDirectory.words
    complain name ("target " ++ Quoting.always target ++ ": " ++ words)
    return .error 1

namespace Destination

/-- Where one operand goes. -/
def of (aim : Destination) (source : String) : String :=
  match aim with
  | .path target => target
  | .directory target => inDirectory target (lastName source)

end Destination

def twoNames (a b : String) : String := Quoting.always a ++ " and " ++ Quoting.always b

/-- Moves one file; answers whether that worked. -/
def moveOne (name : String) (o : Options) (source target : String) : Act Bool := do
  let d ← Act.disk
  match d.look source with
  | .error e =>
    refuse name "cannot stat" source e
    return false
  | .ok (l, entry) =>
    let fail := fun text : String => do
      complain name text
      return false
    match d.look target with
    | .error e =>
      if e ≠ .notFound && !(entry ≠ .directory && Path.endsInSlash target) then
        refuse name "cannot stat" target e
        return false
      finish d target entry
    | .ok (m, old) =>
      if o.has "n" && o.lastOf? ["n", "f", "i"] = some "n" then
        return ← fail ("not replacing " ++ Quoting.always target)
      let isSame := l = m || match d.find source, entry with
        | .ok (k, _), .link _ => k = m && old ≠ .directory
        | _, _ => false
      if isSame && entry = .directory then
        return ← fail ("cannot move " ++ Quoting.always source ++ " to a subdirectory of itself, " ++
          Quoting.always target)
      if isSame then return ← fail (twoNames source target ++ " are the same file")
      if entry ≠ .directory && old = .directory then
        return ← fail ("cannot overwrite directory " ++ Quoting.always target ++ " with non-directory")
      if entry = .directory && old ≠ .directory then
        return ← fail ("cannot overwrite non-directory " ++ Quoting.always target ++ " with directory " ++
          Quoting.always source)
      finish d target entry
where
  finish (d : Disk) (target : String) (entry : Entry) : Act Bool := do
    match d.rename source target with
    | .ok d =>
      Act.setDisk d
      if o.has "v" then
        Act.print ("renamed " ++ Quoting.always source ++ " -> " ++ Quoting.always target ++ "\n")
      return true
    | .error .directoryNotEmpty =>
      refuse name "cannot overwrite" target .directoryNotEmpty
      return false
    | .error .invalidArgument =>
      complain name ("cannot move " ++ Quoting.always source ++ " to a subdirectory of itself, " ++
        Quoting.always target)
      return false
    | .error e =>
      if target.isEmpty && entry ≠ .directory then
        complain name ("cannot overwrite directory " ++ Quoting.always target ++ " with non-directory")
      else
        complain name ("cannot move " ++ Quoting.always source ++ " to " ++ Quoting.always target ++ ": " ++
          e.words)
      return false

/-- Brings each operand to its place, but none to a place where another one went. -/
def bringAll (name : String) (sources : List String) (aim : Destination)
    (one : (source target : String) → Act Bool) : Act Nat := do
  let mut status := 0
  let mut done : List String := []
  for source in sources do
    let target := aim.of source
    if done.contains target && (← Act.disk).pathExists source then
      complain name ("will not overwrite just-created " ++ Quoting.always target ++ " with " ++
        Quoting.always source)
      status := 1
    else if ← one source target then done := target :: done
    else status := 1
  return status

def mv : Utility := withOptions
    [⟨none, "backup", .optional⟩, flag 'b' "", flag 'f' "force", flag 'i' "interactive",
     flag 'n' "no-clobber", valued 'S' "suffix", valued 't' "target-directory",
     flag 'T' "no-target-directory", flag 'u' "update", flag 'v' "verbose",
     longFlag "strip-trailing-slashes", flag 'Z' ""] true 1 fun name o => do
  match ← destination name o false with
  | .error status => return status
  | .ok (sources, aim) => bringAll name sources aim (moveOne name o)

/-- How files are copied. -/
structure Copying where
  name : String
  deep : Bool
  /-- Whether links on the way are copied as links. -/
  keepsLinks : Bool
  linksAtStart : Bool
  loud : Bool
  keepsOld : Bool
  forced : Bool
  symbolic : Bool

/-- Copies what a path leads to and what is below it; `top` is where copying began. -/
def copyTo (c : Copying) (top : String) (made : Location) :
    (budget : Nat) → (isStart : Bool) → (source target : String) → Act Bool
  | 0, _, _, _ => return false
  | budget + 1, isStart, source, target => do
    let d ← Act.disk
    let fail := fun text : String => do
      complain c.name text
      return false
    let seesLinks := if isStart then c.linksAtStart else c.keepsLinks
    match if seesLinks then d.look source else d.find source with
    | .error e =>
      refuse c.name "cannot stat" source e
      return false
    | .ok (l, entry) =>
      if entry = .directory && !c.deep then
        return ← fail ("-r not specified; omitting directory " ++ Quoting.always source)
      let old? := d.find target
      let say := if c.loud then
          Act.print (Quoting.always source ++ " -> " ++ Quoting.always target ++ "\n")
        else pure ()
      let isDangling := match d.look target, old? with
        | .ok (_, .link _), .error _ => true
        | _, _ => false
      match old? with
      | .error e =>
        if e ≠ .notFound && !isDangling then
          if !(e = .notDirectory && entry ≠ .directory && Path.endsInSlash target &&
              !d.pathExists (String.ofList (target.toList.reverse.dropWhile (· = '/')).reverse)) then
            refuse c.name "cannot stat" target e
            return false
      | .ok (m, old) =>
        if c.keepsOld && old ≠ .directory then return true
        let linkSame := match d.look target with
          | .ok (k, _) => k = l
          | _ => false
        if (l = m || linkSame) && entry ≠ .directory then
          return ← fail (twoNames source target ++ " are the same file")
        if entry ≠ .directory && old = .directory then
          return ← fail ("cannot overwrite directory " ++ Quoting.always target ++ " with non-directory")
        if entry = .directory && old ≠ .directory then
          return ← fail ("cannot overwrite non-directory " ++ Quoting.always target ++
            " with directory " ++ Quoting.always source)
      match entry with
      | .directory =>
        let first := made = [] && isStart
        match old? with
        | .ok _ => pure ()
        | .error _ =>
          match d.makeDirectory target with
          | .ok d =>
            Act.setDisk d
            say
          | .error e =>
            refuse c.name "cannot create directory" target e
            return false
        let d ← Act.disk
        let here := ((d.find target).toOption.map (·.1)).getD []
        let made := if first then here else made
        let mut worked := true
        for n in (ByteText.namesIn d source).mergeSort do
          let inner := inDirectory source n
          if (d.look inner).toOption.map (·.1) = some made then
            complain c.name ("cannot copy a directory, " ++ Quoting.always top ++ ", into itself, " ++
              Quoting.always target)
            worked := false
          else if !(← copyTo c top made budget false inner (inDirectory target n)) then worked := false
        return worked
      | .link text =>
        let d := (d.remove target).toOption.getD d
        match d.make target (.link text) with
        | .ok d =>
          Act.setDisk d
          say
          return true
        | .error e =>
          refuse c.name "cannot create symbolic link" target e
          return false
      | entry =>
        if isDangling && !c.symbolic then
          return ← fail ("not writing through dangling symlink " ++ Quoting.always target)
        if c.symbolic then
          match d.make target (.link source) with
          | .ok d =>
            Act.setDisk d
            return true
          | .error e =>
            refuse c.name "cannot create symbolic link" target e
            return false
        let (data, executable) := match entry with
          | .file data executable => (data, executable)
          | _ => ([], false)
        match ← Act.replaceFile target data with
        | some e =>
          refuse c.name "cannot create regular file" target (if e = .isDirectory then .notDirectory else e)
          return false
        | none =>
          let d ← Act.disk
          let d := match old?, d.find target with
            | .error _, .ok (m, .file data _) => d.put m (.file data executable)
            | _, _ => d
          Act.setDisk d
          say
          return true

def cp : Utility := withOptions
    [flag 'a' "archive", flag 'b' "", flag 'd' "", flag 'f' "force", flag 'i' "interactive",
     flag 'H' "", flag 'l' "link", flag 'L' "dereference", flag 'n' "no-clobber",
     flag 'P' "no-dereference", flag 'p' "", ⟨none, "preserve", .optional⟩,
     longValued "no-preserve", longFlag "parents", flag 'R' "recursive", flag 'r' "",
     longFlag "remove-destination", flag 's' "symbolic-link", valued 'S' "suffix",
     valued 't' "target-directory", flag 'T' "no-target-directory", flag 'u' "update",
     flag 'v' "verbose", flag 'x' "one-file-system", flag 'Z' "",
     longFlag "strip-trailing-slashes"] true 1 fun name o => do
  match ← destination name o false with
  | .error status => return status
  | .ok (sources, aim) =>
    let deep := o.has "r" || o.has "R" || o.has "a"
    let follows := o.lastOf? ["L", "H", "P", "d", "a"]
    let keepsLinks := match follows with
      | some "L" => false
      | some "H" => deep
      | some _ => true
      | none => deep
    let c : Copying :=
      { name, deep, keepsLinks, linksAtStart := keepsLinks && follows ≠ some "H", loud := o.has "v"
        keepsOld := o.has "n", forced := o.has "f", symbolic := o.has "s" }
    let mut seen : List String := []
    let mut unique : List String := []
    for source in sources do
      if seen.contains source && sources.length > 1 then
        complain name ("warning: source file " ++ Quoting.always source ++ " specified more than once")
      else unique := unique ++ [source]
      seen := source :: seen
    if o.has "parents" then
      let .directory directory := aim |
        complain name "with --parents, the destination must be a directory"
        return 1
      return ← forAll unique fun source => do
        for above in pathsAbove source do
          let place := inDirectory directory above
          if !(← Act.disk).isDirectory place then
            let _ ← tryChange (·.makeDirectory place)
        copyTo c source [] 64 true source (inDirectory directory source)
    bringAll name unique aim fun source target => copyTo c source [] 64 true source target

/-- The way from one place to another. -/
def wayFrom (base target : Location) : String :=
  let shared := ((base.zip target).takeWhile fun (a, b) => a = b).length
  let parts := List.replicate (base.length - shared) ".." ++
    (target.drop shared).map ByteText.ofPath
  if parts.isEmpty then "." else "/".intercalate parts

def ln : Utility := withOptions
    [flag 'b' "", flag 'f' "force", flag 'i' "interactive", flag 'L' "logical",
     flag 'n' "no-dereference", flag 'P' "physical", flag 'r' "relative", flag 's' "symbolic",
     valued 'S' "suffix", valued 't' "target-directory", flag 'T' "no-target-directory",
     flag 'v' "verbose", flag 'd' "", flag 'F' ""] true 1 fun name o => do
  let symbolic := o.has "s"
  let place ←
    match o.operands, o.value? "t" with
    | [only], none => pure (.ok ([only], Destination.directory "."))
    | _, _ => destination name o (o.has "n")
  match place with
  | .error status => return status
  | .ok (sources, aim) =>
    bringAll name sources aim fun source target => do
      let d ← Act.disk
      let fail := fun text : String => do
        complain name text
        return false
      let node? := if o.has "L" then d.find source else d.look source
      if !symbolic then
        match node? with
        | .error e =>
          refuse name "failed to access" source e
          return false
        | .ok (_, .directory) =>
          return ← fail (Quoting.ifNeeded source ++ ": hard link not allowed for directory")
        | .ok _ => pure ()
      if o.has "f" then
        let isSame : Bool := match d.find source, d.look target with
          | .ok (l, _), .ok (m, _) => l = m
          | _, _ => false
        if isSame then return ← fail (twoNames source target ++ " are the same file")
      let d := if o.has "f" then (d.remove target).toOption.getD d else d
      let text := if !o.has "r" then source
        else
          match d.walk .followed source, Path.parent? target with
          | .ok a, some above =>
            let l := match a.place with
              | .found l _ => l
              | .vacant l n => l ++ [n]
            match d.find (if above.bytes.isEmpty then "." else above) with
            | .ok (base, _) => wayFrom base l
            | .error _ => source
          | _, _ => source
      let entry := if symbolic then Entry.link text else ((node?.toOption.map (·.2)).getD .directory)
      match if symbolic && source.isEmpty then .error .notFound else d.make target entry with
      | .ok d =>
        Act.setDisk d
        if o.has "v" then
          Act.print (Quoting.always target ++ (if symbolic then " -> " else " => ") ++
            Quoting.always text ++ "\n")
        return true
      | .error e =>
        let what := if symbolic then "failed to create symbolic link " else "failed to create hard link "
        let other := if symbolic then (if source.isEmpty then " -> " ++ Quoting.always source else "")
          else if e = .alreadyExists then "" else " => " ++ Quoting.always source
        fail (what ++ Quoting.always target ++ other ++ ": " ++ e.words)

/-- Changes who may run what lies at a path. -/
def changeMode (name : String) (o : Options) (mode : String) (deep : Bool) :
    (budget : Nat) → (isStart : Bool) → (path : String) → Act Bool
  | 0, _, _ => return true
  | budget + 1, isStart, path => do
    let d ← Act.disk
    match d.look path, d.find path with
    | .error e, _ =>
      if !o.has "f" then refuse name "cannot access" path e
      return false
    | .ok (_, .link _), .error e =>
      if !isStart then return true
      if !o.has "f" then
        if e = .notFound then
          complain name ("cannot operate on dangling symlink " ++ Quoting.always path)
        else refuse name "cannot access" path e
      return false
    | .ok (_, .link _), .ok (_, .directory) => return true
    | _, .ok (l, .file data executable) =>
      if let some r := changedMode? mode false ⟨executable, executable, executable⟩ then
        Act.setDisk (d.put l (.file data (r.user || r.group || r.others)))
      return true
    | _, .ok (_, .directory) =>
      let mut worked := true
      if deep then
        for n in (ByteText.namesIn d path).mergeSort do
          if !(← changeMode name o mode deep budget false (inDirectory path n)) then worked := false
      return worked
    | _, _ => return true

def chmod : Utility := fun name words =>
  -- A mode may look like options.
  let isMode := fun w : String =>
    match w.toList with
    | '-' :: c :: cs => (c :: cs).all "rwxXstugoa,=+-01234567".toList.contains
    | _ => false
  let early := words.takeWhile (· ≠ "--")
  let modes := early.filter isMode
  let words := (early.filter (!isMode ·)) ++ words.drop early.length
  withOptions
    [flag 'c' "changes", flag 'f' "silent", longFlag "quiet", flag 'v' "verbose",
     flag 'R' "recursive", longValued "reference", longFlag "preserve-root",
     longFlag "no-preserve-root"] true 1 (fun name o => do
    let given := ",".intercalate modes
    let (mode?, paths) :=
      if !modes.isEmpty then (some given, o.operands)
      else if o.has "reference" then (some "", o.operands)
      else (o.operands.head?, o.operands.drop 1)
    match mode?, paths with
    | none, _ => misused 1 name "missing operand"
    | some mode, [] => misused 1 name ("missing operand after " ++ Quoting.word mode)
    | some mode, paths =>
      let model? := (o.value? "reference").map fun path => (path, fun d : Disk => d.find (ByteText.toPath path))
      let mut mode := mode
      if let some (path, find) := model? then
        match find (← Act.disk) with
        | .error e =>
          refuse name "failed to get attributes of" path e
          return 1
        | .ok (_, .file _ false) => mode := "644"
        | .ok _ => mode := "755"
      if (changedMode? mode false ⟨false, false, false⟩).isNone then
        return ← misused 1 name ("invalid mode: " ++ Quoting.word mode)
      forAll paths fun path => changeMode name o mode (o.has "R") 64 true path) name words

/-- Sets how long a file is. -/
def resized (size : Nat) (data : Bytes) : Bytes :=
  data.take size ++ List.replicate (size - data.length) 0

def truncate : Utility := withOptions
    [flag 'c' "no-create", flag 'o' "io-blocks", valued 'r' "reference", valued 's' "size"] true 1
    fun name o => do
  let some text := o.value? "s" |
    return ← misused 1 name "you must specify either '--size' or '--reference'"
  let cs := text.toList.dropWhile (· = ' ')
  let sign? := cs.head?.filter fun c => "+-<>/%".toList.contains c
  let some n := size? (if sign?.isSome then cs.drop 1 else cs) |
    complain name ("Invalid number: " ++ Quoting.word text)
    return 1
  if o.operands.isEmpty then return ← misused 1 name "missing file operand"
  forAll o.operands fun path => do
    let d ← Act.disk
    if o.has "c" && !d.pathExists path then return true
    let old := (d.read path).toOption.getD []
    let size := match sign? with
      | some '+' => old.length + n
      | some '-' => old.length - n
      | some '<' => min old.length n
      | some '>' => max old.length n
      | some '/' => if n = 0 then old.length else old.length / n * n
      | some '%' => if n = 0 then old.length else (old.length + n - 1) / n * n
      | _ => n
    match ← Act.replaceFile path (resized size old) with
    | none => return true
    | some e =>
      complain name ("cannot open " ++ Quoting.always path ++ " for writing: " ++ e.words)
      return false

/-- Letters for the end of a new name. -/
def freshLetters (size n : Nat) : String :=
  String.ofList ((List.range size).map fun i => Char.ofNat ('a'.toNat + n / Nat.pow 26 i % 26))

def mktemp : Utility := withOptions
    [flag 'd' "directory", flag 'u' "dry-run", flag 'q' "quiet", ⟨some 'p', "tmpdir", .required⟩,
     flag 't' "", longValued "suffix"] true 1 fun name o => do
  if 1 < o.operands.length then return ← misused 1 name "too many templates"
  let template := o.operands.headD "tmp.XXXXXXXXXX"
  let asked := template.toList
  let tail := asked.reverse.takeWhile (· ≠ 'X')
  let marks := ((asked.reverse.drop tail.length).takeWhile (· = 'X')).length
  if marks < 3 then
    complain name ("too few X's in template " ++ Quoting.always template)
    return 1
  let directory := ((o.value? "p").orElse fun _ =>
    if o.has "t" || o.operands.isEmpty then some "/tmp" else none)
  let directory := if o.operands.isEmpty || o.has "t" || o.has "p" then directory else none
  let nameOf : Nat → String := fun n =>
    let stem := asked.take (asked.length - tail.length - marks)
    let made := String.ofList stem ++ freshLetters marks n ++ String.ofList tail.reverse ++
      (o.value? "suffix").getD ""
    match directory with
    | some dir => inDirectory dir made
    | none => made
  let d ← Act.disk
  let path := nameOf (((List.range 1000).find? fun n =>
    match d.look (nameOf n) with
    | .ok _ => false
    | .error _ => true).getD 0)
  let made := if o.has "u" then .ok d
    else if o.has "d" then d.makeDirectory path else d.make path (.file [] false)
  match made with
  | .ok d =>
    Act.setDisk d
    Act.print (path ++ "\n")
    return 0
  | .error e =>
    if !o.has "q" then
      let what := if o.has "d" then "directory" else "file"
      let shown := match directory with
        | some dir => inDirectory dir template
        | none => template
      complain name ("failed to create " ++ what ++ " via template " ++ Quoting.always shown ++ ": " ++
        e.words)
    return 1

end Mender.Shell.Utility
