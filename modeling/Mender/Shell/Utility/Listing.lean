import Mender.Shell.Utility.Files
import Mender.Shell.Utility.Sorting

/-!
# Utilities for names

Programs that list directories and show what paths lead to.
-/

namespace Mender.Shell.Utility

open Text

def basename : Utility := withOptions
    [flag 'a' "multiple", valued 's' "suffix", flag 'z' "zero"] false 1 fun name o => do
  let cut := fun (suffix path : String) =>
    let last := lastName path
    if !suffix.isEmpty && last.endsWith suffix && last ≠ suffix then
      (last.dropEnd suffix.length).toString
    else last
  let ending := if o.has "z" then "\x00" else "\n"
  match o.operands with
  | [] => misused 1 name "missing operand"
  | path :: more =>
    if o.has "a" || o.has "s" then
      for p in o.operands do Act.print (cut ((o.value? "s").getD "") p ++ ending)
      return 0
    match more with
    | _ :: extra :: _ => misused 1 name ("extra operand " ++ Quoting.word extra)
    | _ =>
      Act.print (cut (more.headD "") path ++ ending)
      return 0

/-- A path without its last name. -/
def aboveName (path : String) : String :=
  let isSlash := fun c => c = '/'
  let cs := path.toList.reverse.dropWhile isSlash
  let above := (cs.dropWhile (!isSlash ·)).dropWhile isSlash
  if !above.isEmpty then String.ofList above.reverse
  else if path.startsWith "/" then "/"
  else "."

def dirname : Utility := withOptions [flag 'z' "zero"] false 1 fun name o => do
  if o.operands.isEmpty then return ← misused 1 name "missing operand"
  for path in o.operands do
    Act.print (aboveName path ++ if o.has "z" then "\x00" else "\n")
  return 0

/-- What has to be there of a path that is resolved. -/
inductive Existing where
  | all
  | allButLast
  | nothing
  deriving DecidableEq, Repr

/-- A path without links and dots, as far as it leads; what is behind that is taken as
it is. -/
def resolveLoosely (d : Disk) : (budget : Nat) → (path : List Path.Step) → (behind : Location) → Location
  | 0, _, behind => behind
  | budget + 1, steps, behind =>
    let path := "/" ++ "/".intercalate (steps.filterMap fun
      | .down n => some (ByteText.ofPath n)
      | .up => some ".."
      | .stay => none)
    match d.walk .followed path with
    | .ok ⟨.found l _, _, _⟩ => l ++ behind
    | .ok ⟨.vacant l n, _, _⟩ => l ++ n :: behind
    | .error _ =>
      match steps.getLast? with
      | some (.down n) => resolveLoosely d budget steps.dropLast (n :: behind)
      | some .up => (resolveLoosely d budget steps.dropLast []).dropLast ++ behind
      | _ => resolveLoosely d budget steps.dropLast behind

/-- The place that a path leads to. -/
def resolve (d : Disk) (needed : Existing) (path : String) : Except SystemError Location :=
  match needed with
  | .all => (d.find path).map (·.1)
  | .allButLast => do
    let a ← d.walk .followed path
    match a.place with
    | .found l e => if a.slash && e ≠ .directory then throw .notDirectory else return l
    | .vacant l n => return l ++ [n]
  | .nothing =>
    if path.isEmpty then .error .notFound
    else
      let start := if Path.isAbsolute path then [] else d.cwd.map Path.Step.down
      let steps := start ++ Path.steps path
      .ok (resolveLoosely d (2 * steps.length + 2) steps [])

def readlink : Utility := withOptions
    [flag 'f' "canonicalize", flag 'e' "canonicalize-existing", flag 'm' "canonicalize-missing",
     flag 'n' "no-newline", flag 'q' "quiet", flag 's' "silent", flag 'v' "verbose",
     flag 'z' "zero"] true 1 fun name o => do
  if o.operands.isEmpty then return ← misused 1 name "missing operand"
  let ending := if o.has "z" then "\x00"
    else if o.has "n" && o.operands.length = 1 then "" else "\n"
  forAll o.operands fun path => do
    let d ← Act.disk
    let shown : Except SystemError String := match o.lastOf? ["f", "e", "m"] with
      | some "f" => (resolve d .allButLast path).map ByteText.ofLocation
      | some "e" => (resolve d .all path).map ByteText.ofLocation
      | some _ => (resolve d .nothing path).map ByteText.ofLocation
      | none =>
        match d.look path with
        | .ok (_, .link target) => .ok (ByteText.ofPath target)
        | .ok _ => .error .invalidArgument
        | .error e => .error e
    match shown with
    | .ok text =>
      Act.print (text ++ ending)
      return true
    | .error e =>
      if o.has "v" then complain name (Quoting.ifNeeded path ++ ": " ++ e.words)
      return false

def realpath : Utility := withOptions
    [flag 'e' "canonicalize-existing", flag 'm' "canonicalize-missing", flag 'L' "logical",
     flag 'P' "physical", flag 'q' "quiet", flag 's' "strip", longFlag "no-symlinks",
     longValued "relative-to", longValued "relative-base", flag 'z' "zero"] true 1 fun name o => do
  if o.operands.isEmpty then return ← misused 1 name "missing operand"
  let lexical := o.has "s" || o.has "no-symlinks"
  let needed : Existing := if o.has "e" then .all else if o.has "m" then .nothing else .allButLast
  let placeOf := fun (d : Disk) (path : String) =>
    if lexical && !path.isEmpty then
      let start := if Path.isAbsolute path then [] else d.cwd
      .ok ((Path.steps path).foldl (fun (l : Location) step =>
        match step with
        | .down n => l ++ [n]
        | .up => l.dropLast
        | .stay => l) start)
    else resolve d needed path
  forAll o.operands fun path => do
    let d ← Act.disk
    match placeOf d path with
    | .error e =>
      if !o.has "q" then complain name (Quoting.ifNeeded path ++ ": " ++ e.words)
      return false
    | .ok l =>
      let shown : String := match (o.value? "relative-to").map (placeOf d) with
        | some (.ok base) => wayFrom base l
        | _ => ByteText.ofLocation l
      Act.print (shown ++ if o.has "z" then "\x00" else "\n")
      return true

/-- What kind of file an entry is. -/
def kindWords : Entry → String
  | .file [] _ => "regular empty file"
  | .file _ _ => "regular file"
  | .directory => "directory"
  | .link _ => "symbolic link"
  | .special (.command _) => "regular file"
  | .special _ => "character special file"

def sizeOf : Entry → Nat
  | .file data _ => data.length
  | .link target => target.bytes.length
  | .directory => 4096
  | .special _ => 0

/-- Who may do what with a file, in digits and in letters. -/
def modeTexts : Entry → String × String
  | .file _ true => ("755", "-rwxr-xr-x")
  | .file _ false => ("644", "-rw-r--r--")
  | .directory => ("755", "drwxr-xr-x")
  | .link _ => ("777", "lrwxrwxrwx")
  | .special (.command _) => ("755", "-rwxr-xr-x")
  | .special _ => ("666", "crw-rw-rw-")

/-- A format filled in for a file. -/
def statText (escapes : Bool) (path : String) (entry : Entry) : List Char → List Char
  | '%' :: c :: rest =>
    (match c with
      | 'n' => path
      | 'N' =>
        match entry with
        | .link target => Quoting.always path ++ " -> " ++ Quoting.always (ByteText.ofPath target)
        | _ => Quoting.always path
      | 's' => Decimal.natText (sizeOf entry)
      | 'F' => kindWords entry
      | 'a' => (modeTexts entry).1
      | 'A' => (modeTexts entry).2
      | 'U' | 'G' => "root"
      | 'u' | 'g' => "0"
      | 'h' => "1"
      | '%' => "%"
      | _ => "?").toList ++ statText escapes path entry rest
  | '\\' :: 'n' :: rest => if escapes then '\n' :: statText escapes path entry rest
    else '\\' :: 'n' :: statText escapes path entry rest
  | '\\' :: 't' :: rest => if escapes then '\t' :: statText escapes path entry rest
    else '\\' :: 't' :: statText escapes path entry rest
  | c :: rest => c :: statText escapes path entry rest
  | [] => []

def stat : Utility := withOptions
    [flag 'L' "dereference", flag 'f' "file-system", valued 'c' "format", longValued "printf",
     flag 't' "terse"] true 1 fun name o => do
  if o.operands.isEmpty then return ← misused 1 name "missing operand"
  forAll o.operands fun path => do
    let d ← Act.disk
    match if o.has "L" then d.find path else d.look path with
    | .error e =>
      refuse name (if o.has "L" then "cannot stat" else "cannot statx") path e
      return false
    | .ok (_, entry) =>
      match o.lastOf? ["c", "printf"] with
      | some "printf" =>
        Act.print (String.ofList (statText true path entry ((o.value? "printf").getD "").toList))
      | _ =>
        let format := (o.value? "c").getD "  File: %n\n  Size: %s\t%F"
        Act.print (String.ofList (statText false path entry format.toList) ++ "\n")
      return true

/-- A name in a listing and what it names. -/
structure Listed where
  name : String
  entry : Entry
  /-- What a link leads to. -/
  behind? : Option Entry

/-- How a listing is shown. -/
structure ListStyle where
  all : Bool
  almostAll : Bool
  noBackups : Bool
  ignored : List String
  deep : Bool
  follows : Bool
  long : Bool
  order : Option Char
  reversed : Bool
  inColumns : Bool
  withCommas : Bool
  marks : Option Char
  quoting : Option Char
  sizes : Bool

namespace ListStyle

def quote (s : ListStyle) (name : String) : String :=
  match s.quoting with
  | some 'Q' => "\"" ++ String.ofList (name.toList.flatMap fun c =>
      if c = '"' || c = '\\' then ['\\', c] else if Quoting.isShown c then [c] else Quoting.escape c) ++ "\""
  | some 'b' => String.ofList (name.toList.flatMap fun c =>
      if c = '\\' || c = ' ' then ['\\', c] else if Quoting.isShown c then [c] else Quoting.escape c)
  | some 'q' => String.ofList (name.toList.map fun c => if Quoting.isShown c then c else '?')
  | _ => name

/-- The mark behind a name that shows what it names. -/
def mark (s : ListStyle) (l : Listed) : String :=
  match s.marks, l.entry with
  | none, _ => ""
  | some _, .directory => "/"
  | some 'p', _ => ""
  | some _, .link _ => "@"
  | some 'F', .file _ true => "*"
  | some 'F', .special (.command _) => "*"
  | _, _ => ""

def shown (s : ListStyle) (l : Listed) : String := s.quote l.name ++ s.mark l

def extensionOf (name : String) : String :=
  let reversed := name.toList.reverse
  let tail := reversed.takeWhile (· ≠ '.')
  if tail.length = reversed.length then "" else String.ofList tail.reverse

/-- Whether one name stands in front of another. -/
def precedes (s : ListStyle) (a b : Listed) : Bool :=
  let byName := charOrder a.name.toList b.name.toList
  let order := match s.order with
    | some 'S' => (compare (sizeOf b.entry) (sizeOf a.entry)).then byName
    | some 'X' => (charOrder (extensionOf a.name).toList (extensionOf b.name).toList).then byName
    | some 'v' =>
      (versionOrder (a.name.length + b.name.length + 2) a.name.toList b.name.toList).then byName
    | _ => byName
  (if s.reversed then order.swap else order) ≠ .gt

def isShown (s : ListStyle) (name : String) : Bool :=
  (s.all || s.almostAll || !name.startsWith ".") && !(s.noBackups && name.endsWith "~") &&
    !s.ignored.any fun p => Glob.isMatch (p.toList.map (·, false)) name.toList

/-- How many blocks an entry takes. -/
def blocks (e : Entry) : Nat :=
  match e with
  | .file data _ => (data.length + 4095) / 4096 * 4
  | .directory => 4
  | _ => 0

/-- Shows names. -/
def print (s : ListStyle) (total : Bool) (names : List Listed) : Act Unit := do
  let names := if s.order = some 'U' || s.order = some 'f' then names else names.mergeSort s.precedes
  if s.long || s.sizes then
    if total then Act.print ("total " ++ Decimal.natText ((names.map (blocks ·.entry)).foldl (· + ·) 0) ++ "\n")
  let sizeWidth := (names.map fun l => (Decimal.natText (sizeOf l.entry)).length).foldl max 0
  let blockWidth := (names.map fun l => (Decimal.natText (blocks l.entry)).length).foldl max 0
  let texts := names.map fun l =>
    let front := if s.sizes then padLeft blockWidth (Decimal.natText (blocks l.entry)) ++ " " else ""
    let target := match l.entry with
      | .link t => if s.long then " -> " ++ s.quote (ByteText.ofPath t) else ""
      | _ => ""
    let links := if l.entry = .directory then "2" else "1"
    front ++
      (if s.long then (modeTexts l.entry).2 ++ " " ++ links ++ " root root " ++
        padLeft sizeWidth (Decimal.natText (sizeOf l.entry)) ++ " Jan  1 00:00 " else "") ++
      s.shown l ++ target
  if s.long then Act.print (String.join (texts.map (· ++ "\n")))
  else if s.withCommas then
    let (text, _) := texts.zipIdx.foldl (fun (text, column) (t, i) =>
      let size := t.length + if i + 1 < texts.length then 2 else 0
      if i = 0 then (t, size)
      else if column + size > 80 then (text ++ ",\n" ++ t, size)
      else (text ++ ", " ++ t, column + size)) ("", 0)
    if !texts.isEmpty then Act.print (text ++ "\n")
  else if s.inColumns && (texts.map fun t => t.length + 2).foldl (· + ·) 0 ≤ 80 then
    if !texts.isEmpty then Act.print ("  ".intercalate texts ++ "\n")
  else Act.print (String.join (texts.map (· ++ "\n")))

/-- What is in a directory. -/
def inside (s : ListStyle) (d : Disk) (path : String) (l : Location) : List Listed :=
  let children := ((d.children l).map fun (n, e) => (ByteText.ofPath n, e)).filter fun (n, _) => s.isShown n
  let listed := children.map fun (n, e) =>
    let behind? := match e with
      | .link _ => (d.find (inDirectory path n)).toOption.map (·.2)
      | _ => none
    ⟨n, if s.follows then behind?.getD e else e, behind?⟩
  if s.all then ⟨".", .directory, none⟩ :: ⟨"..", .directory, none⟩ :: listed else listed

/-- Shows directories under their names, each behind an empty line if something stands
in front. -/
def directories (s : ListStyle) (name : String) (titled : Bool) :
    (budget : Nat) → (begun : Bool) → List (String × Location) → Act Unit
  | 0, _, _ => return
  | _, _, [] => return
  | budget + 1, begun, (path, l) :: more => do
    let d ← Act.disk
    if titled then Act.print ((if begun then "\n" else "") ++ s.quote path ++ ":\n")
    let names := s.inside d path l
    s.print true names
    let below := if !s.deep then [] else
      (names.mergeSort s.precedes).filterMap fun n =>
        if n.entry = .directory && n.name ≠ "." && n.name ≠ ".." then
          some (inDirectory path n.name, l ++ [ByteText.toPath n.name])
        else none
    directories s name titled budget true (below ++ more)

end ListStyle

def listOptions : List OptionSpec :=
  [flag 'a' "all", flag 'A' "almost-all", flag 'b' "escape", flag 'B' "ignore-backups",
   flag 'd' "directory", flag 'F' "", ⟨none, "classify", .optional⟩, flag 'h' "human-readable",
   flag 'H' "dereference-command-line", flag 'i' "inode", valued 'I' "ignore",
   flag 'k' "kibibytes", flag 'L' "dereference", flag 'n' "numeric-uid-gid", flag 'N' "literal",
   flag 'G' "no-group", flag 'q' "hide-control-chars", flag 'Q' "quote-name", flag 'r' "reverse",
   flag 'R' "recursive", flag 's' "size", valued 'T' "tabsize", valued 'w' "width",
   ⟨none, "color", .optional⟩, longValued "sort", longValued "format", longValued "time",
   longValued "time-style", longValued "quoting-style", longValued "indicator-style",
   longFlag "group-directories-first", longFlag "full-time", longFlag "show-control-chars",
   longFlag "file-type", longFlag "author", longValued "block-size", longValued "hide"] ++
    flags "cCDfglmoptuUvxXSZ1"

def listStyle (o : Options) : ListStyle where
  all := o.lastOf? ["a", "A"] = some "a" || o.has "f"
  almostAll := o.has "A"
  noBackups := o.has "B"
  ignored := o.values "I" ++ o.values "hide"
  deep := o.has "R"
  follows := o.has "L"
  long := (o.lastOf? ["l", "g", "o", "n", "full-time", "1", "C", "x", "m"]).any fun k =>
    ["l", "g", "o", "n", "full-time"].contains k
  order := match o.lastOf? ["S", "X", "v", "U", "f", "t", "sort"] with
    | some "S" => some 'S'
    | some "X" => some 'X'
    | some "v" => some 'v'
    | some "U" => some 'U'
    | some "f" => some 'U'
    | some "sort" =>
      match o.value? "sort" with
      | some "none" => some 'U'
      | some "size" => some 'S'
      | some "extension" => some 'X'
      | some "version" => some 'v'
      | _ => none
    | _ => none
  reversed := o.has "r"
  inColumns := match o.lastOf? ["C", "x", "1", "l", "m"] with
    | some k => k = "C" || k = "x"
    | none => false
  withCommas := o.lastOf? ["C", "x", "1", "l", "m"] = some "m"
  marks := match o.lastOf? ["F", "p", "classify", "file-type"] with
    | some "p" => some 'p'
    | some "file-type" => some 't'
    | some _ => some 'F'
    | none => none
  quoting := match o.lastOf? ["Q", "b", "q", "N"] with
    | some "Q" => some 'Q'
    | some "b" => some 'b'
    | some "q" => some 'q'
    | _ => none
  sizes := o.has "s"

def ls : Utility := withOptions listOptions true 2 fun name o => do
  let s := listStyle o
  let d ← Act.disk
  let mut status := 0
  let mut files : List Listed := []
  let mut found : List (String × Location) := []
  for path in if o.operands.isEmpty then ["."] else o.operands do
    let followed := d.find path
    let looked := d.look path
    let seen := if s.follows || o.has "H" then followed
      else if o.has "d" || s.long || s.marks = some 'F' then looked
      else
        match followed with
        | .ok (l, .directory) => .ok (l, .directory)
        | _ => looked
    match seen with
    | .error e =>
      refuse name "cannot access" path e
      status := 2
    | .ok (l, .directory) =>
      if o.has "d" then files := files ++ [⟨path, .directory, none⟩]
      else found := found ++ [(path, l)]
    | .ok (_, entry) => files := files ++ [⟨path, entry, followed.toOption.map (·.2)⟩]
  if !files.isEmpty then s.print false files
  let sorted := (found.map fun (path, l) => (⟨path, .directory, none⟩, l)).mergeSort
    fun (a : Listed × Location) b => s.order = some 'U' || s.precedes a.1 b.1
  s.directories name (s.deep || o.operands.length > 1) 400 (!files.isEmpty)
    (sorted.map fun (n, l) => (n.name, l))
  return status

end Mender.Shell.Utility
