import Mender.Text.Search
import Mender.Text.Utf8

/-!
# Paths

Paths are rows of bytes with slashes between names. The bytes need not be text; where they
have to be, what is no text is replaced. Joining, splitting and changing the extension work
on the bytes alone: nothing is looked up and nothing is normalised, but empty parts and
single dots at the end do not count as names.
-/

namespace Mender

/-- A path, or a name in one. -/
structure Path where
  bytes : Bytes
  deriving DecidableEq, Repr

namespace Path

open Text

/-- The path that a text spells. -/
def ofText (text : String) : Path := ⟨Utf8.encode text⟩

scoped instance : Coe String Path := ⟨ofText⟩

/-- The text of a path, unless its bytes are none. -/
def text? (path : Path) : Option String := Utf8.decode? path.bytes

/-- A path as it is shown, with U+FFFD for what is no text in it. -/
def shown (path : Path) : String := Utf8.decodeLossy path.bytes

/-- What stands between names. -/
def slash : UInt8 := 0x2f

def dot : UInt8 := 0x2e

def isAbsolute (path : Path) : Bool := path.bytes.head? = some slash

/-- A path below a base; an absolute path stands for itself. -/
def join (base path : Path) : Path :=
  if isAbsolute path then path
  else if base.bytes.isEmpty || base.bytes.getLast? = some slash then ⟨base.bytes ++ path.bytes⟩
  else ⟨base.bytes ++ slash :: path.bytes⟩

/-- Drops slashes and single dots at the end of a path whose bytes come last first; the
root and a single dot alone stay. -/
def stripEnd : Bytes → Bytes
  | a :: b :: rest =>
    if a = slash || (a = dot && b = slash) then stripEnd (b :: rest) else a :: b :: rest
  | short => short

theorem length_stripEnd (path : Bytes) : (stripEnd path).length ≤ path.length := by
  fun_induction stripEnd path with
  | case1 a b rest _ ih => exact Nat.le_succ_of_le ih
  | case2 | case3 => exact Nat.le_refl _

/-- The last name of a path and what comes before it, both last byte first. -/
def lastPart? (path : Path) : Option (Bytes × Bytes) :=
  let stripped := stripEnd path.bytes.reverse
  if stripped = [] || stripped.head? = some slash then none
  else some (stripped.takeWhile (· ≠ slash), stripped.dropWhile (· ≠ slash))

/-- The path without its last name. -/
def parent? (path : Path) : Option Path :=
  (lastPart? path).map fun (_, before) => ⟨(stripEnd before).reverse⟩

/-- The last name, unless it leads to another directory. -/
def fileName? (path : Path) : Option Path :=
  (lastPart? path).bind fun (name, _) =>
    if name = [dot] || name = [dot, dot] then none else some ⟨name.reverse⟩

/-- A name as its stem and its extension, which follows the last dot; a dot in
front starts no extension. -/
def splitName (name : Path) : Path × Option Path :=
  let reversed := name.bytes.reverse
  match reversed.dropWhile (· ≠ dot) with
  | [] => (name, none)
  | [_] => (name, none)
  | _ :: stem => (⟨stem.reverse⟩, some ⟨(reversed.takeWhile (· ≠ dot)).reverse⟩)

def extension? (path : Path) : Option Path := (fileName? path).bind fun n => (splitName n).2

/-- The path with another extension on its last name. -/
def withExtension (path extension : Path) : Path :=
  match fileName? path, lastPart? path with
  | some name, some (_, before) =>
    ⟨before.reverse ++ ((splitName name).1.bytes ++ dot :: extension.bytes)⟩
  | _, _ => path

theorem length_parent? {path parent : Path} (h : parent? path = some parent) :
    parent.bytes.length < path.bytes.length := by
  obtain ⟨⟨name, before⟩, parts, rfl⟩ := Option.map_eq_some_iff.mp h
  simp only [lastPart?, Bool.or_eq_true, decide_eq_true_eq, Option.ite_none_left_eq_some, not_or,
    Option.some.injEq, Prod.mk.injEq] at parts
  obtain ⟨⟨nonempty, inside⟩, -, rfl⟩ := parts
  have strip := length_stripEnd path.bytes.reverse
  generalize stripEnd path.bytes.reverse = bs at *
  have shorter : (bs.dropWhile (· ≠ slash)).length < bs.length := by
    obtain ⟨b, rest, rfl⟩ := List.exists_cons_of_ne_nil nonempty
    have first : b ≠ slash := by simpa using inside
    have dropped : (b :: rest).dropWhile (· ≠ slash) = rest.dropWhile (· ≠ slash) := by
      simp [first]
    rw [dropped]
    exact Nat.lt_succ_of_le (List.dropWhile_sublist _).length_le
  calc (stripEnd (bs.dropWhile (· ≠ slash))).reverse.length
      ≤ (bs.dropWhile (· ≠ slash)).length := by
        rw [List.length_reverse]
        exact length_stripEnd _
    _ < bs.length := shorter
    _ ≤ path.bytes.length := by simpa using strip

/-- A step from one directory to the next. -/
inductive Step where
  | stay
  | up
  | down (name : Path)
  deriving DecidableEq, Repr

namespace Step

/-- The step that a part of a path takes, if it is not empty. -/
def ofPart? (part : Bytes) : Option Step :=
  if part = [] then none
  else if part = [dot] then some .stay
  else if part = [dot, dot] then some .up
  else some (.down ⟨part⟩)

end Step

/-- The steps of a path. -/
def steps (path : Path) : List Step := (splitOn slash path.bytes).filterMap Step.ofPart?

/-- Whether the path says that it names a directory. -/
def endsInSlash (path : Path) : Bool := path.bytes.getLast? = some slash

end Path

end Mender
