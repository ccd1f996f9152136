import Mender.Json.Basic

/-!
# TOML values

A document is a table. Integers keep their value whatever its size, decimal
fractions their digits, dates and times their text. Records are read from tables
by key, and from arrays by position.
-/

namespace Mender

inductive Toml where
  | string (s : String)
  | integer (n : Int)
  | float (n : Numeral)
  /-- An infinity, or what is no number, by its name. -/
  | unbounded (name : List Char)
  | boolean (b : Bool)
  /-- A date, a time or both, as it is written. -/
  | moment (text : List Char)
  | array (items : List Toml)
  | table (fields : List (String × Toml))

namespace Numeral

/-- Whether the nearest binary floating-point number of 64 bits is finite. -/
def roundsFinite (n : Numeral) : Bool :=
  let digits := (Decimal.digits n.whole ++ n.fraction).dropWhile (· = '0')
  let power : Int := n.exponent.getD 0 - n.fraction.length
  let size : Int := digits.length + power
  let bound := Nat.pow 2 1024 - Nat.pow 2 970
  if digits.isEmpty || size ≤ 308 then true
  else if size > 310 then false
  else if power ≥ 0 then Decimal.value digits * Nat.pow 10 power.toNat < bound
  else Decimal.value digits < bound * Nat.pow 10 (-power).toNat

end Numeral

namespace Toml

mutual

/-- Whether every number in a value has one of the common machine types. -/
def isSound : Toml → Bool
  | .integer n => -Int.pow 2 127 ≤ n && n < Int.pow 2 128
  | .float n => n.roundsFinite
  | .array items => itemsSound items
  | .table fields => fieldsSound fields
  | _ => true

def itemsSound : List Toml → Bool
  | [] => true
  | item :: items => item.isSound && itemsSound items

def fieldsSound : List (String × Toml) → Bool
  | [] => true
  | (_, value) :: fields => value.isSound && fieldsSound fields

end

/-- The values of named slots: of a table by key, of an array in order; what lies
beyond the slots of an array is not looked at. A date has none of them. -/
def slots? (names : List String) : Toml → Option (List (Option Toml))
  | .table fields =>
    if fieldsSound (fields.filter fun f => !names.contains f.1) then
      some (names.map fun name => List.lookup name fields)
    else none
  | .array items =>
    some ((items.take names.length).map some ++
      List.replicate (names.length - items.length) none)
  | .moment _ => some (names.map fun _ => none)
  | _ => none

def text? : Toml → Option String
  | .string s => some s
  | _ => none

def items? : Toml → Option (List Toml)
  | .array items => some items
  | _ => none

def texts? (t : Toml) : Option (List String) := t.items?.bind (·.mapM text?)

/-- A natural number below a bound. -/
def natBelow? (bound : Nat) : Toml → Option Nat
  | .integer (.ofNat n) => if n < bound then some n else none
  | _ => none

def uint32? (t : Toml) : Option UInt32 := (t.natBelow? UInt32.size).map UInt32.ofNat

def uint64? (t : Toml) : Option UInt64 := (t.natBelow? UInt64.size).map UInt64.ofNat

/-- An integer of 64 bits with a sign. -/
def int64? : Toml → Option Int
  | .integer n => if -Int.pow 2 63 ≤ n && n < Int.pow 2 63 then some n else none
  | _ => none

/-- The value of a slot, or the default where the slot is left out. -/
def slotOr {α : Type} (default : α) (read : Toml → Option α) : Option Toml → Option α
  | none => some default
  | some t => read t

end Toml

end Mender
