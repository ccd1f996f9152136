import Mender.Disk

/-!
# Streams

What can be read from an input: some bytes, and behind them perhaps bytes that are
repeated for ever, or nothing that would ever end.
-/

namespace Mender.Shell

structure Stream where
  bytes : Bytes
  /-- What is repeated behind the bytes. -/
  cycle : Bytes
  /-- Whether a reader waits for ever behind the bytes. -/
  stalls : Bool
  deriving DecidableEq, Repr

namespace Stream

def ofBytes (bytes : Bytes) : Stream := ⟨bytes, [], false⟩

def empty : Stream := ofBytes []

/-- Whether a reader never comes to the end. -/
def isEndless (s : Stream) : Bool := s.stalls || !s.cycle.isEmpty

/-- The first bytes, at most `n`. -/
def take (s : Stream) (n : Nat) : Bytes :=
  let short := s.bytes.take n
  let missing := n - short.length
  if s.cycle.isEmpty || missing = 0 then short
  else
    let rounds := missing / s.cycle.length + 1
    short ++ ((List.replicate rounds s.cycle).flatten).take missing

/-- What follows the first `n` bytes. -/
def drop (s : Stream) (n : Nat) : Stream :=
  if n ≤ s.bytes.length || s.cycle.isEmpty then { s with bytes := s.bytes.drop n }
  else
    let turn := (n - s.bytes.length) % s.cycle.length
    { s with bytes := [], cycle := s.cycle.drop turn ++ s.cycle.take turn }

/-- Whether at least `n` bytes can be read without waiting for ever. -/
def hasAtLeast (s : Stream) (n : Nat) : Bool := !s.cycle.isEmpty || n ≤ s.bytes.length

def map (f : UInt8 → UInt8) (s : Stream) : Stream :=
  { s with bytes := s.bytes.map f, cycle := s.cycle.map f }

def filter (p : UInt8 → Bool) (s : Stream) : Stream :=
  { bytes := s.bytes.filter p, cycle := s.cycle.filter p
    stalls := s.stalls || (!s.cycle.isEmpty && (s.cycle.filter p).isEmpty) }

end Stream

/-- An input of a shell. -/
structure Source where
  stream : Stream
  /-- How many bytes come, and when, in order. What is not listed is there already. -/
  arrivals : List (Nat × Nat)
  /-- When it is clear that nothing more comes. -/
  ends : Nat
  /-- The file behind it, and the place up to which that was read. -/
  file? : Option (Location × Nat)
  /-- Whether it is a directory, from which nothing can be read. -/
  isDirectory : Bool
  deriving DecidableEq, Repr

/-- When the first `n` bytes of some arrivals are there. -/
def arrivalOf (n : Nat) : List (Nat × Nat) → Nat
  | [] => 0
  | (size, time) :: rest => if n = 0 then 0 else if n ≤ size then time else arrivalOf (n - size) rest

/-- The arrivals behind the first `n` bytes. -/
def arrivalsBehind (n : Nat) : List (Nat × Nat) → List (Nat × Nat)
  | [] => []
  | (size, time) :: rest =>
    if n < size then (size - n, time) :: rest else arrivalsBehind (n - size) rest

namespace Source

def ofStream (stream : Stream) : Source := ⟨stream, [], 0, none, false⟩

def ofFile (l : Location) (data : Bytes) : Source := ⟨.ofBytes data, [], 0, some (l, 0), false⟩

def directory : Source := ⟨.empty, [], 0, none, true⟩

/-- What is left in an input; the file behind it may have changed. -/
def content (s : Source) (disk : Disk) : Stream :=
  match s.file? with
  | none => s.stream
  | some (l, position) =>
    match disk.at? l with
    | some (.file data _) => .ofBytes (data.drop position)
    | _ => s.stream

/-- The input behind `n` bytes more. -/
def advance (s : Source) (n : Nat) : Source :=
  { s with stream := s.stream.drop n, arrivals := arrivalsBehind n s.arrivals
           file? := s.file?.map fun (l, position) => (l, position + n) }

/-- How many bytes have come by a time. -/
def countBy (s : Source) (time : Nat) : Nat :=
  ((s.arrivals.takeWhile (·.2 ≤ time)).map (·.1)).foldl (· + ·) 0

end Source

end Mender.Shell
