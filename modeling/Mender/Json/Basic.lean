import Mender.Text.Decimal

/-!
# JSON values

A value keeps what its text says: numerals digit by digit, fields in the order
written, repeated keys included. A string is `none` where an escape leaves half
of a surrogate pair, which is legal syntax without being text.
-/

namespace Mender

/-- A number as written: a whole part, the digits after the point, if there is a
point, and a power of ten, if there is one. -/
structure Numeral where
  negative : Bool
  whole : Nat
  fraction : List Char
  exponent : Option Int
  deriving DecidableEq, Repr

namespace Numeral

def ofNat (n : Nat) : Numeral := ⟨false, n, [], none⟩

def ofInt (i : Int) : Numeral := ⟨i < 0, i.natAbs, [], none⟩

/-- The value of a numeral without sign, point and power. -/
def nat? (n : Numeral) : Option Nat :=
  if n.negative || !n.fraction.isEmpty || n.exponent.isSome then none else some n.whole

@[simp] theorem nat?_ofNat (n : Nat) : (ofNat n).nat? = some n := rfl

/-- A number rounded to 53 significant bits, a tie to the even neighbour. -/
def roundBinary (n : Nat) : Nat :=
  let drop := n.log2 + 1 - 53
  let unit := Nat.pow 2 drop
  let low := n / unit
  let twice := 2 * (n % unit)
  if twice > unit || (twice = unit && low % 2 = 1) then (low + 1) * unit else low * unit

/-- The leading digits that fit a 64-bit word, and how many digits were left out. -/
def significand (digits : List Char) : Nat × Nat :=
  digits.foldl (fun (kept, dropped) c =>
    let longer := 10 * kept + Text.digitValue c
    if dropped = 0 && longer < UInt64.size then (longer, 0) else (kept, dropped + 1)) (0, 0)

/-- Whether the number stays below the binary floating-point range of 64 bits.
The leading digits and the power of ten are rounded before they are multiplied. -/
def isFinite (n : Numeral) : Bool :=
  let (kept, dropped) := significand (Decimal.digits n.whole ++ n.fraction)
  let power : Int := n.exponent.getD 0 + dropped - n.fraction.length
  kept = 0 || power < 0 ||
    (power ≤ 308 && roundBinary (roundBinary kept * roundBinary (Nat.pow 10 power.toNat)) < Nat.pow 2 1024)

def text (n : Numeral) : List Char :=
  (if n.negative then ['-'] else []) ++ Decimal.digits n.whole ++
    (if n.fraction.isEmpty then [] else '.' :: n.fraction) ++
    (match n.exponent with
     | none => []
     | some (.ofNat e) => 'e' :: Decimal.digits e
     | some (.negSucc e) => 'e' :: '-' :: Decimal.digits (e + 1))

end Numeral

inductive Json where
  | null
  | bool (b : Bool)
  | number (n : Numeral)
  | string (s : Option String)
  | array (items : List Json)
  | object (fields : List (Option String × Json))

namespace Json

def text (s : String) : Json := .string (some s)

def nat (n : Nat) : Json := .number (.ofNat n)

def int (i : Int) : Json := .number (.ofInt i)

/-- An object with distinct keys. -/
def record (fields : List (String × Json)) : Json :=
  .object (fields.map fun (key, value) => (some key, value))

mutual

/-- How deep arrays and objects are nested. -/
def depth : Json → Nat
  | .array items => depthOfItems items + 1
  | .object fields => depthOfFields fields + 1
  | _ => 0

def depthOfItems : List Json → Nat
  | [] => 0
  | item :: items => max item.depth (depthOfItems items)

def depthOfFields : List (Option String × Json) → Nat
  | [] => 0
  | (_, value) :: fields => max value.depth (depthOfFields fields)

end

mutual

/-- All strings and keys are text and all numbers are in range. -/
def isSound : Json → Bool
  | .number n => n.isFinite
  | .string s => s.isSome
  | .array items => itemsSound items
  | .object fields => fieldsSound fields
  | _ => true

def itemsSound : List Json → Bool
  | [] => true
  | item :: items => item.isSound && itemsSound items

def fieldsSound : List (Option String × Json) → Bool
  | [] => true
  | (key, value) :: fields => key.isSome && value.isSound && fieldsSound fields

end

/-- The deepest nesting of a value that is kept. -/
def maxDepth : Nat := 127

/-- Whether a value can be held in memory as a whole. -/
def isStorable (j : Json) : Bool := j.depth ≤ maxDepth && j.isSound

/-- The value of the last field with the given key. -/
def field? (key : String) : Json → Option Json
  | .object fields => (fields.reverse.find? fun f => f.1 = some key).map (·.2)
  | _ => none

def items? : Json → Option (List Json)
  | .array items => some items
  | _ => none

def text? : Json → Option String
  | .string s => s
  | _ => none

def bool? : Json → Option Bool
  | .bool b => some b
  | _ => none

def nat? : Json → Option Nat
  | .number n => n.nat?
  | _ => none

/-- The order of keys by code points, which is also the order of their bytes. -/
def keyBefore (a b : String) : Bool := a.toList < b.toList

/-- Puts a field into fields in key order; a field of the same key gives way. -/
def insertField (key : String) (value : Json) : List (String × Json) → List (String × Json)
  | [] => [(key, value)]
  | (k, v) :: rest =>
    if k = key then (key, value) :: rest
    else if keyBefore key k then (key, value) :: (k, v) :: rest
    else (k, v) :: insertField key value rest

/-- The fields in key order, the last of each key. -/
def sortedFields? : Json → Option (List (String × Json))
  | .object fields =>
    some (fields.foldl (fun sorted (key, value) =>
      match key with
      | some key => insertField key value sorted
      | none => sorted) [])
  | _ => none

end Json

end Mender
