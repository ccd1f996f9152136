import Mender.Json.Basic

/-!
# Records in JSON

A record with named slots is an object whose keys name them, in any order and
with other keys between, or an array of the slots in order. A slot may be named
once only.
-/

namespace Mender.Json

/-- The value of a named slot, `none` where it is absent; fails on a repetition. -/
def slot? (fields : List (Option String × Json)) (name : String) : Option (Option Json) :=
  match fields.filter fun f => f.1 = some name with
  | [] => some none
  | [f] => some (some f.2)
  | _ => none

/-- The named slots of an object, in the order of the names. -/
def objectSlots? (names : List String) (fields : List (Option String × Json)) :
    Option (List (Option Json)) :=
  if fields.all fun f => f.1.isSome then names.mapM (slot? fields) else none

/-- The slots of a record that is written in full when it is an array. -/
def slots? (names : List String) : Json → Option (List (Option Json))
  | .object fields => objectSlots? names fields
  | .array items => if items.length = names.length then some (items.map some) else none
  | _ => none

/-- The slots of a record whose last slots may be left out of an array. -/
def openSlots? (names : List String) : Json → Option (List (Option Json))
  | .object fields => objectSlots? names fields
  | .array items =>
    if items.length ≤ names.length then
      some (items.map some ++ List.replicate (names.length - items.length) none)
    else none
  | _ => none

/-- A natural number below a bound. -/
def natBelow? (bound : Nat) (j : Json) : Option Nat := j.nat?.filter (· < bound)

def uint32? (j : Json) : Option UInt32 := (j.natBelow? UInt32.size).map UInt32.ofNat

/-- A count, which fits 64 bits. -/
def count? (j : Json) : Option Nat := j.natBelow? UInt64.size

/-- One of several names, or an object of that name with nothing in it. -/
def choice? : Json → Option String
  | .string s => s
  | .object [(key, .null)] => key
  | _ => none

end Mender.Json
