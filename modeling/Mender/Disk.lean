import Mender.Failure
import Mender.Path
import Mender.Text.Utf8

/-!
# Disks

A disk maps locations, which are rows of names from the root, to files,
directories, links and the few special files that programs rely on. Paths are
walked from the root or the working directory, links followed on the way, at
most forty of them.

Changes may be kept from being made, by rights that are missing or by a disk that
is full: a fault at a location says how. What is there can always be read and
walked through, no file has two names but through links, and nobody else works
on the disk.
-/

namespace Mender

/-- Files that the system provides. -/
inductive Special where
  /-- Empty to read, and swallows what is written. -/
  | null
  /-- Endless zero bytes. -/
  | zero
  /-- A descriptor of the program that opens it. -/
  | descriptor (n : Nat)
  /-- A command of the system. -/
  | command (name : String)
  deriving DecidableEq, Repr

inductive Entry where
  | file (data : Bytes) (executable : Bool)
  | directory
  | link (target : Path)
  | special (s : Special)
  deriving DecidableEq, Repr

/-- A place below the root, by the names on the way. -/
abbrev Location := List Path

def Location.path (l : Location) : Path :=
  ⟨Path.slash :: List.intercalate [Path.slash] (l.map Path.bytes)⟩

/-- What keeps the system from changing what lies at a location. -/
structure Fault where
  /-- How many bytes a file still takes there; nothing if it is not even opened. -/
  room? : Option Nat
  error : SystemError
  deriving DecidableEq, Repr

structure Disk where
  entries : List (Location × Entry)
  /-- Where relative paths start. -/
  cwd : Location
  faults : List (Location × Fault)
  deriving DecidableEq, Repr

namespace Disk

/-- What lies at a location; the root is always a directory. -/
def at? (d : Disk) (l : Location) : Option Entry :=
  if l = [] then some .directory else d.entries.lookup l

/-- Puts an entry at a location, in place of what was there. -/
def put (d : Disk) (l : Location) (e : Entry) : Disk :=
  { d with entries := (l, e) :: d.entries.filter (·.1 ≠ l) }

/-- Takes the entry at a location away. -/
def erase (d : Disk) (l : Location) : Disk :=
  { d with entries := d.entries.filter (·.1 ≠ l) }

/-- The names directly below a location and what they name. -/
def children (d : Disk) (l : Location) : List (Path × Entry) :=
  d.entries.filterMap fun (place, entry) =>
    match place.getLast? with
    | some name => if place.dropLast = l then some (name, entry) else none
    | none => none

def isDirectoryAt (d : Disk) (l : Location) : Bool := d.at? l = some .directory

theorem lookup_filter_ne {l m : Location} (h : l ≠ m) (entries : List (Location × Entry)) :
    (entries.filter (·.1 ≠ m)).lookup l = entries.lookup l := by
  induction entries with
  | nil => rfl
  | cons e rest ih =>
    obtain ⟨k, v⟩ := e
    by_cases hk : k = m
    · subst hk
      have : (l == k) = false := by simpa using h
      simpa [List.lookup_cons, this] using ih
    · by_cases hl : l = k
      · subst hl
        simp [hk]
      · have : (l == k) = false := by simpa using hl
        simpa [hk, List.lookup_cons, this] using ih

@[simp] theorem at?_put_self (d : Disk) {l : Location} (h : l ≠ []) (e : Entry) :
    (d.put l e).at? l = some e := by
  simp [at?, put, h]

theorem at?_put_of_ne (d : Disk) {l m : Location} (h : l ≠ m) (e : Entry) :
    (d.put m e).at? l = d.at? l := by
  have : (l == m) = false := by simpa using h
  by_cases root : l = []
  · simp [at?, root]
  · simpa [at?, put, root, List.lookup_cons, this] using lookup_filter_ne h d.entries

theorem at?_erase_of_ne (d : Disk) {l m : Location} (h : l ≠ m) :
    (d.erase m).at? l = d.at? l := by
  by_cases root : l = []
  · simp [at?, root]
  · simpa [at?, erase, root] using lookup_filter_ne h d.entries

/-- Where a walk ends: at an entry, or at a free name in a directory. -/
inductive Place where
  | found (l : Location) (e : Entry)
  | vacant (directory : Location) (name : Path)
  deriving DecidableEq, Repr

/-- The location of what a walk ends at. -/
def Place.location : Place → Location
  | .found l _ => l
  | .vacant directory name => directory ++ [name]

/-- What a walk makes of the last name of a path. -/
inductive LastName where
  /-- It leads on if it is a link. -/
  | followed
  /-- It leads on only if it is a link with a slash behind it. -/
  | seen
  /-- It is an entry of its directory, which never leads on. -/
  | listed
  /-- It is a file that may come to be, so no slash may stand behind it. -/
  | opened
  deriving DecidableEq, Repr

namespace LastName

/-- Whether a link in the last place is followed. -/
def follows (last : LastName) (slash : Bool) : Bool :=
  match last with
  | .followed | .opened => true
  | .seen => slash
  | .listed => false

end LastName

/-- The end of a walk. -/
structure Arrival where
  place : Place
  /-- Whether the last step was a name; dots and the root are none. -/
  named : Bool
  /-- Whether a slash stood behind the last name. -/
  slash : Bool
  deriving DecidableEq, Repr

/-- The longest name that a directory holds, in bytes. -/
def maxNameBytes : Nat := 255

/-- The longest path that is walked, in bytes. -/
def maxPathBytes : Nat := 4095

def maxLinks : Nat := 40

/-- Walks steps from a location; `slash` says whether one stands behind the last step,
and `links` how many links may still be followed. -/
def walkFrom (d : Disk) (last : LastName) (links : Nat) (here : Location)
    (steps : List Path.Step) (slash : Bool) : Except SystemError Arrival :=
  match steps with
  | [] => .ok ⟨.found here ((d.at? here).getD .directory), false, slash⟩
  | step :: rest =>
    if !d.isDirectoryAt here then .error .notDirectory
    else
      match step with
      | .stay => walkFrom d last links here rest slash
      | .up => walkFrom d last links here.dropLast rest slash
      | .down name =>
        let isLast := rest.isEmpty
        if isLast && slash && last = .opened then .error .isDirectory
        else if name.bytes.length > maxNameBytes then .error .nameTooLong
        else
          match d.at? (here ++ [name]) with
          | none => if isLast then .ok ⟨.vacant here name, true, slash⟩ else .error .notFound
          | some (.link target) =>
            if isLast && !last.follows slash then
              .ok ⟨.found (here ++ [name]) (.link target), true, slash⟩
            else
              match links with
              | 0 => .error .tooManyLinks
              | links + 1 =>
                let start := if target.isAbsolute then [] else here
                walkFrom d last links start (target.steps ++ rest)
                  (slash || (isLast && target.endsInSlash))
          | some e =>
            if isLast then .ok ⟨.found (here ++ [name]) e, true, slash⟩
            else walkFrom d last links (here ++ [name]) rest slash
termination_by (links, steps.length)

/-- Walks a path. A relative one starts in the working directory, if that is still there. -/
def walk (d : Disk) (last : LastName) (path : Path) : Except SystemError Arrival :=
  if path.bytes.contains 0 then .error .nulInPath
  else if path.bytes = [] then .error .notFound
  else if path.bytes.length > maxPathBytes then .error .nameTooLong
  else if path.isAbsolute then d.walkFrom last maxLinks [] path.steps path.endsInSlash
  else if d.isDirectoryAt d.cwd then d.walkFrom last maxLinks d.cwd path.steps path.endsInSlash
  else .error .notFound

/-- The entry at the end of a walk. Only a directory has a slash behind it. -/
def Arrival.entry (a : Arrival) : Except SystemError (Location × Entry) :=
  match a.place with
  | .vacant _ _ => .error .notFound
  | .found l e => if a.slash && e ≠ .directory then .error .notDirectory else .ok (l, e)

/-- The entry that a path leads to. -/
def find (d : Disk) (path : Path) : Except SystemError (Location × Entry) :=
  d.walk .followed path >>= Arrival.entry

/-- The entry that a path names; a link stands for itself. -/
def look (d : Disk) (path : Path) : Except SystemError (Location × Entry) :=
  d.walk .seen path >>= Arrival.entry

def pathExists (d : Disk) (path : Path) : Bool := (d.find path).isOk

def isDirectory (d : Disk) (path : Path) : Bool :=
  match d.find path with
  | .ok (_, .directory) => true
  | _ => false

/-- Whether a path leads to a regular file. -/
def isFile (d : Disk) (path : Path) : Bool :=
  match d.find path with
  | .ok (_, .file _ _) | .ok (_, .special (.command _)) => true
  | _ => false

/-- The path without links, dots and repeated slashes. -/
def canonical (d : Disk) (path : Path) : Except SystemError Path :=
  (d.find path).map (·.1.path)

/-- The bytes of a file. -/
def read (d : Disk) (path : Path) : Except SystemError Bytes := do
  match ← d.find path with
  | (_, .file data _) => return data
  | (_, .directory) => throw .isDirectory
  | _ => return []

/-- The content of a file of text. -/
def readText (d : Disk) (path : Path) : Except Cause String :=
  match d.read path with
  | .error e => .error (.system e)
  | .ok bytes =>
    match Utf8.decode? bytes with
    | some text => .ok text
    | none => .error .notText

/-- Replaces the bytes of a file, which comes into being where there is none, if nothing
keeps it from being changed. -/
def write (d : Disk) (path : Path) (data : Bytes) : Except SystemError Disk := do
  match (← d.walk .opened path).place with
  | .found l (.file _ executable) => return d.put l (.file data executable)
  | .found _ .directory => throw .isDirectory
  | .found _ (.special (.command _)) => throw .accessDenied
  | .found _ _ => return d
  | .vacant directory name => return d.put (directory ++ [name]) (.file data false)

/-- The fault at a location. -/
def fault? (d : Disk) (l : Location) : Option Fault := d.faults.lookup l

/-- The error with which the system refuses to open or to replace what lies at a location. -/
def refusal? (d : Disk) (l : Location) : Option SystemError :=
  (d.fault? l).bind fun fault => if fault.room?.isNone then some fault.error else none

/-- Replaces the bytes of a file as far as that can be done. A file that is not even
opened keeps its bytes; another one is emptied first, and keeps of the new bytes those
that it still takes. -/
def replace (d : Disk) (path : Path) (data : Bytes) : Except SystemError Unit × Disk :=
  let written := fun (answer : Except SystemError Unit) (kept : Bytes) =>
    match d.write path kept with
    | .ok d' => (answer, d')
    | .error e => (.error e, d)
  match (d.walk .opened path).toOption.bind fun a => d.fault? a.place.location with
  | none => written (.ok ()) data
  | some ⟨none, e⟩ => (.error e, d)
  | some ⟨some room, e⟩ =>
    if data.length ≤ room then written (.ok ()) data else written (.error e) (data.take room)

/-- Puts a new entry at a path at which there is none. -/
def make (d : Disk) (path : Path) (e : Entry) : Except SystemError Disk := do
  let a ← d.walk .listed path
  match a.place with
  | .found _ _ => throw .alreadyExists
  | .vacant directory name =>
    if a.slash && e ≠ .directory then throw .notFound
    else
      match d.fault? (directory ++ [name]) with
      | some fault => throw fault.error
      | none => return d.put (directory ++ [name]) e

/-- Makes one directory. -/
def makeDirectory (d : Disk) (path : Path) : Except SystemError Disk := d.make path .directory

/-- Makes a directory that may be there already. -/
def ensureDirectory (d : Disk) (path : Path) : Except SystemError Disk :=
  match d.makeDirectory path with
  | .ok d => .ok d
  | .error e => if d.isDirectory path then .ok d else .error e

/-- Makes a directory and those above it. The disk keeps what was made before a
failure. -/
def makeDirectories (d : Disk) (path : Path) : Except Cause Unit × Disk :=
  if path.bytes = [] then (.ok (), d)
  else
    match d.makeDirectory path with
    | .ok d => (.ok (), d)
    | .error .notFound =>
      match _up : Path.parent? path with
      | none => (.error (.other "failed to create whole tree"), d)
      | some parent =>
        match d.makeDirectories parent with
        | (.error e, d) => (.error e, d)
        | (.ok (), d) =>
          match d.ensureDirectory path with
          | .ok d => (.ok (), d)
          | .error e => (.error (.system e), d)
    | .error e => (if d.isDirectory path then .ok () else .error (.system e), d)
termination_by path.bytes.length
decreasing_by exact Path.length_parent? _up

/-- Moves what lies at and below a location to another one. -/
def relocate (d : Disk) (l m : Location) : Disk :=
  { d with entries := d.entries.map fun (place, entry) =>
      if l.isPrefixOf place then (m ++ place.drop l.length, entry) else (place, entry) }

/-- Moves an entry to another name, where it replaces a file, a link or an empty
directory, if nothing keeps it from being moved. -/
def move (d : Disk) (source target : Path) : Except SystemError Disk := do
  let a ← d.walk .listed source
  let b ← d.walk .listed target
  if !a.named || !b.named then throw .busy
  match a.place with
  | .vacant _ _ => throw .notFound
  | .found l e =>
    if e ≠ .directory && (a.slash || b.slash) then throw .notDirectory
    match b.place with
    | .vacant directory name =>
      let m := directory ++ [name]
      if l.isPrefixOf m then throw .invalidArgument
      return d.relocate l m
    | .found m old =>
      if l = m then return d
      if l.isPrefixOf m then throw .invalidArgument
      if m.isPrefixOf l then throw .directoryNotEmpty
      if e = .directory then
        if old ≠ .directory then throw .notDirectory
        if !(d.children m).isEmpty then throw .directoryNotEmpty
        return (d.erase m).relocate l m
      else
        if old = .directory then throw .isDirectory
        return (d.erase l).put m e

/-- The error with which the system refuses to replace what a path names. -/
def refusalAt? (d : Disk) (path : Path) : Option SystemError :=
  (d.walk .listed path).toOption.bind fun a => d.refusal? a.place.location

/-- Moves an entry to another name, unless one of the two may not be changed. -/
def rename (d : Disk) (source target : Path) : Except SystemError Disk :=
  match d.refusalAt? source <|> d.refusalAt? target with
  | some e => .error e
  | none => d.move source target

/-- Takes a file or link away. -/
def remove (d : Disk) (path : Path) : Except SystemError Disk := do
  let a ← d.walk .listed path
  match a.place with
  | .vacant _ _ => throw .notFound
  | .found _ .directory => throw .isDirectory
  | .found l _ => if a.slash then throw .notDirectory else return d.erase l

/-- Takes an empty directory away. -/
def removeDirectory (d : Disk) (path : Path) : Except SystemError Disk := do
  let a ← d.walk .listed path
  match a.place, a.named with
  | _, false =>
    match (Path.steps path).getLast? with
    | some .up => throw .directoryNotEmpty
    | some _ => throw .invalidArgument
    | none => throw .busy
  | .vacant _ _, _ => throw .notFound
  | .found l .directory, _ =>
    if (d.children l).isEmpty then return d.erase l else throw .directoryNotEmpty
  | .found _ _, _ => throw .notDirectory

/-- The names in a directory. -/
def names (d : Disk) (path : Path) : Except SystemError (List Path) := do
  match ← d.find path with
  | (l, .directory) => return (d.children l).map (·.1)
  | _ => throw .notDirectory

end Disk

end Mender
