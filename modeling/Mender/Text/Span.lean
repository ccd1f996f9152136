import Mender.Text.Decimal

/-!
# Spans of time

A span is a number of nanoseconds. It is written in the largest unit that it
reaches, with as many places as it needs.
-/

namespace Mender

/-- A span of time. -/
structure Span where
  nanos : Nat
  deriving DecidableEq, Repr

namespace Span

def ofSeconds (n : Nat) : Span := ⟨n * 1000000000⟩

def ofMillis (n : Nat) : Span := ⟨n * 1000000⟩

/-- The digits of a number, filled up with zeros in front. -/
def padded (width n : Nat) : List Char :=
  List.replicate (width - (Decimal.digits n).length) '0' ++ Decimal.digits n

/-- A number of units of `10 ^ places` nanoseconds, zeros at the end left out. -/
def inUnit (places nanos : Nat) : List Char :=
  let fraction := ((padded places (nanos % Nat.pow 10 places)).reverse.dropWhile (· = '0')).reverse
  Decimal.digits (nanos / Nat.pow 10 places) ++ if fraction.isEmpty then [] else '.' :: fraction

def text (s : Span) : String :=
  if s.nanos ≥ Nat.pow 10 9 then String.ofList (inUnit 9 s.nanos) ++ "s"
  else if s.nanos ≥ Nat.pow 10 6 then String.ofList (inUnit 6 s.nanos) ++ "ms"
  else if s.nanos ≥ Nat.pow 10 3 then String.ofList (inUnit 3 s.nanos) ++ "µs"
  else Decimal.natText s.nanos ++ "ns"

end Span

end Mender
