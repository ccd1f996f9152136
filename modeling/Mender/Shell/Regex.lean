import Mender.Shell.ByteClass

/-!
# Regular expressions

An expression matches parts of a text. Of the matches that start at a place the
longest counts, and within it each part, from the left, takes as much as it can.
-/

namespace Mender.Shell

/-- A place between characters. -/
inductive Edge where
  | lineStart
  | lineEnd
  | textStart
  | textEnd
  | wordStart
  | wordEnd
  | wordEdge
  | noWordEdge
  deriving DecidableEq, Repr

inductive Regex where
  | never
  | empty
  | among (negated : Bool) (ranges : List ByteClass.Range)
  | edge (e : Edge)
  | follow (first second : Regex)
  | either (first second : Regex)
  | many (inner : Regex)
  /-- A part whose match is remembered under a number. -/
  | group (n : Nat) (inner : Regex)
  /-- What a part matched last. -/
  | back (n : Nat)
  deriving DecidableEq, Repr

namespace Regex

def one (c : Char) : Regex := .among false [(c, c)]

def ofText (cs : List Char) : Regex := cs.foldr (fun c r => .follow (one c) r) .empty

/-- An expression `n` times in a row. -/
def times (r : Regex) : Nat → Regex
  | 0 => .empty
  | 1 => r
  | n + 1 => .follow r (times r n)

/-- An expression at most `n` times in a row. -/
def upTo (r : Regex) : Nat → Regex
  | 0 => .empty
  | n + 1 => .either (.follow r (upTo r n)) .empty

def optional (r : Regex) : Regex := .either r .empty

def hasBack : Regex → Bool
  | .back _ => true
  | .follow a b | .either a b => a.hasBack || b.hasBack
  | .many a | .group _ a => a.hasBack
  | _ => false

/-- How many parts are remembered. -/
def groupCount : Regex → Nat
  | .follow a b | .either a b => max a.groupCount b.groupCount
  | .many a => a.groupCount
  | .group n a => max n a.groupCount
  | .back n => n
  | _ => 0

/-- The text that is searched, and how. -/
structure Subject where
  text : Array Char
  ignoreCase : Bool
  /-- Whether lines start and end inside the text. -/
  hasLines : Bool

namespace Subject

def isWordAt (s : Subject) (i : Nat) : Bool := s.text[i]?.any (ByteClass.isIn ByteClass.word)

def isWordBefore (s : Subject) (i : Nat) : Bool := 0 < i && s.isWordAt (i - 1)

def holds (s : Subject) (i : Nat) : Edge → Bool
  | .lineStart => i = 0 || (s.hasLines && s.text[i - 1]? = some '\n')
  | .lineEnd => i = s.text.size || (s.hasLines && s.text[i]? = some '\n')
  | .textStart => i = 0
  | .textEnd => i = s.text.size
  | .wordStart => s.isWordAt i && !s.isWordBefore i
  | .wordEnd => s.isWordBefore i && !s.isWordAt i
  | .wordEdge => s.isWordAt i != s.isWordBefore i
  | .noWordEdge => s.isWordAt i == s.isWordBefore i

/-- Whether the character at a place is among others. -/
def matchesAt (s : Subject) (negated : Bool) (ranges : List ByteClass.Range) (i : Nat) : Bool :=
  match s.text[i]? with
  | none => false
  | some c =>
    let isIn := ByteClass.isIn ranges c ||
      (s.ignoreCase && (ByteClass.isIn ranges c.toLower || ByteClass.isIn ranges c.toUpper))
    isIn != negated && !(negated && s.hasLines && c = '\n')

def same (s : Subject) (a b : Char) : Bool := a = b || (s.ignoreCase && a.toLower = b.toLower)

end Subject

/-- Two rising lists in one. -/
def union : List Nat → List Nat → List Nat
  | [], bs => bs
  | as, [] => as
  | a :: as, b :: bs =>
    if a < b then a :: union as (b :: bs)
    else if b < a then b :: union (a :: as) bs
    else a :: union as bs

/-- The places that repetition reaches by steps from the places waiting. -/
def closure (step : List Nat → List Nat) (seen : Array Bool) :
    (budget : Nat) → (waiting : List Nat) → Array Bool
  | 0, _ => seen
  | _, [] => seen
  | budget + 1, waiting =>
    let fresh := waiting.filter fun i => seen[i]? = some false
    closure step (fresh.foldl (fun seen i => seen.setIfInBounds i true) seen) budget
      (if fresh.isEmpty then [] else step fresh)

/-- The places in front of characters in a row that are among others. -/
def runsFrom (s : Subject) (negated : Bool) (ranges : List ByteClass.Range) :
    (budget : Nat) → (here : Option Nat) → (starts : List Nat) → List Nat
  | 0, _, starts => starts
  | budget + 1, none, i :: starts => i :: runsFrom s negated ranges budget (some i) starts
  | _, none, [] => []
  | budget + 1, some i, starts =>
    let starts := starts.dropWhile (· ≤ i)
    if s.matchesAt negated ranges i then
      (i + 1) :: runsFrom s negated ranges budget (some (i + 1)) (starts.dropWhile (· ≤ i + 1))
    else runsFrom s negated ranges budget none starts

/-- The places, rising, at which a match may end that starts at one of some places. Uses
no memory of parts. -/
def reach (s : Subject) : Regex → List Nat → List Nat
  | .never, _ | .back _, _ => []
  | .empty, is => is
  | .among negated ranges, is => (is.filter (s.matchesAt negated ranges)).map (· + 1)
  | .edge e, is => is.filter (s.holds · e)
  | .follow a b, is => reach s b (reach s a is)
  | .either a b, is => union (reach s a is) (reach s b is)
  | .many (.among negated ranges), is =>
    runsFrom s negated ranges (2 * s.text.size + 2 * is.length + 2) none is
  | .many a, is =>
    let seen := closure (reach s a) (Array.replicate (s.text.size + 1) false) (s.text.size + 2) is
    (List.range (s.text.size + 1)).filter fun i => seen[i]? = some true
  | .group _ a, is => reach s a is

/-- The end of a match under way, and what its parts matched, the latest first. -/
structure Path where
  here : Nat
  parts : List (Nat × Nat × Nat)
  deriving DecidableEq, Repr

/-- Leaves those paths away that end where an earlier one does. Where matches of parts
are looked at again, only equal paths are left away. -/
def distinct (exact : Bool) : List Path → List Path
  | [] => []
  | p :: ps =>
    p :: (distinct exact ps).filter fun q => if exact then p ≠ q else p.here ≠ q.here

/-- The longest first; of paths of one length the earlier one. -/
def sorted (exact : Bool) (paths : List Path) : List Path :=
  distinct exact (paths.mergeSort fun p q => p.here ≥ q.here)

/-- All paths of a repetition, from those waiting. -/
def repeats (exact : Bool) (step : Path → List Path) (seen : List Path) :
    (budget : Nat) → (waiting : List Path) → List Path
  | 0, _ => seen.reverse
  | _, [] => seen.reverse
  | budget + 1, p :: waiting =>
    if seen.any fun q => if exact then p = q else p.here = q.here then
      repeats exact step seen budget waiting
    else
      repeats exact step (p :: seen) budget
        ((step p).filter (fun q => p.here < q.here) ++ waiting)

/-- The paths of a match from the end of another, the longest first. -/
def paths (s : Subject) (exact : Bool) : Regex → Path → List Path
  | .never, _ => []
  | .empty, p => [p]
  | .among negated ranges, p =>
    if s.matchesAt negated ranges p.here then [{ p with here := p.here + 1 }] else []
  | .edge e, p => if s.holds p.here e then [p] else []
  | .follow a b, p => sorted exact ((paths s exact a p).flatMap (paths s exact b))
  | .either a b, p => sorted exact (paths s exact a p ++ paths s exact b p)
  | .many a, p =>
    let size := s.text.size + 2
    sorted exact (repeats exact (paths s exact a) [] (size * size) [p])
  | .group n a, p =>
    (paths s exact a p).map fun q =>
      { q with parts := (n, p.here, q.here) :: q.parts.filter (·.1 ≠ n) }
  | .back n, p =>
    match p.parts.lookup n with
    | none => []
    | some (start, stop) =>
      let old := (s.text.extract start stop).toList
      let new := (s.text.extract p.here (p.here + (stop - start))).toList
      if old.length = new.length && (old.zip new).all fun (a, b) => s.same a b then
        [{ p with here := p.here + old.length }]
      else []

/-- Where a match starts and ends, and what its parts matched. -/
structure Match where
  start : Nat
  stop : Nat
  parts : List (Nat × Nat × Nat)
  deriving DecidableEq, Repr

/-- The ends of the matches that start at a place, the longest first. -/
def stopsAt (r : Regex) (s : Subject) (start : Nat) : List Nat :=
  if r.hasBack then (paths s true r ⟨start, []⟩).map (·.here)
  else (reach s r [start]).reverse

/-- The first place at which a match starts whose end is accepted, and the longest such
end. -/
def search? (r : Regex) (s : Subject) (accepts : Nat → Nat → Bool) :
    (budget start : Nat) → Option (Nat × Nat)
  | 0, _ => none
  | budget + 1, start =>
    if start > s.text.size then none
    else
      match (r.stopsAt s start).find? (accepts start) with
      | some stop => some (start, stop)
      | none => search? r s accepts budget (start + 1)

/-- The parts of a match whose ends are known. -/
def withParts (r : Regex) (s : Subject) (start stop : Nat) : Match :=
  if r.groupCount = 0 then ⟨start, stop, []⟩
  else
    match (paths s r.hasBack r ⟨start, []⟩).find? (·.here = stop) with
    | some p => ⟨start, stop, p.parts⟩
    | none => ⟨start, stop, []⟩

/-- The first match from a place on. -/
def find? (r : Regex) (s : Subject) (start : Nat) : Option Match :=
  (r.search? s (fun _ _ => true) (s.text.size + 1) start).map fun (start, stop) =>
    r.withParts s start stop

/-- Whether there is a match at all. -/
def isMatch (r : Regex) (s : Subject) : Bool :=
  if r.hasBack then (r.search? s (fun _ _ => true) (s.text.size + 1) 0).isSome
  else !(reach s r (List.range (s.text.size + 1))).isEmpty

end Regex

end Mender.Shell
