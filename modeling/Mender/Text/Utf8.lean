/-!
# UTF-8

Bytes become text by maximal subparts: a well-formed sequence is one character,
and each longest beginning of a sequence that cannot go on is one broken unit.
The strict reading refuses broken units, the lenient reading writes U+FFFD for
each of them.
-/

namespace Mender

/-- The content of a file or a stream. -/
abbrev Bytes := List UInt8

namespace Utf8

/-- The bytes of a text. -/
def encode (s : String) : Bytes := s.toList.flatMap String.utf8EncodeChar

/-- A begun sequence: the range of the next byte, the bits so far, and how many
bytes are missing after the next one. -/
structure Begun where
  low : UInt8
  high : UInt8
  bits : Nat
  more : Nat

/-- The sequence that a lead byte begins. -/
def lead? (b : UInt8) : Option Begun :=
  if 0xc2 ≤ b && b ≤ 0xdf then some ⟨0x80, 0xbf, b.toNat % 32, 0⟩
  else if b = 0xe0 then some ⟨0xa0, 0xbf, b.toNat % 16, 1⟩
  else if b = 0xed then some ⟨0x80, 0x9f, b.toNat % 16, 1⟩
  else if 0xe1 ≤ b && b ≤ 0xef then some ⟨0x80, 0xbf, b.toNat % 16, 1⟩
  else if b = 0xf0 then some ⟨0x90, 0xbf, b.toNat % 8, 2⟩
  else if 0xf1 ≤ b && b ≤ 0xf3 then some ⟨0x80, 0xbf, b.toNat % 8, 2⟩
  else if b = 0xf4 then some ⟨0x80, 0x8f, b.toNat % 8, 2⟩
  else none

/-- The first byte of a unit: the units it completes and the sequence it begins. -/
def first (b : UInt8) : List (Option Char) × Option Begun :=
  if b < 0x80 then ([some (Char.ofNat b.toNat)], none)
  else
    match lead? b with
    | some begun => ([], some begun)
    | none => ([none], none)

/-- The next byte after a begun sequence, if there is one. -/
def next (begun? : Option Begun) (b : UInt8) : List (Option Char) × Option Begun :=
  match begun? with
  | none => first b
  | some begun =>
    if begun.low ≤ b && b ≤ begun.high then
      let bits := begun.bits * 64 + b.toNat % 64
      match begun.more with
      | 0 => ([some (Char.ofNat bits)], none)
      | more + 1 => ([], some ⟨0x80, 0xbf, bits, more⟩)
    else
      let (units, begun?) := first b
      (none :: units, begun?)

/-- The units of the bytes that follow a begun sequence. -/
def unitsFrom (begun? : Option Begun) : Bytes → List (Option Char)
  | [] => if begun?.isSome then [none] else []
  | b :: rest =>
    let (units, begun?) := next begun? b
    units ++ unitsFrom begun? rest

/-- Adds a byte to the units found so far, the latest unit first. -/
def feed (found : List (Option Char) × Option Begun) (b : UInt8) :
    List (Option Char) × Option Begun :=
  let (units, begun?) := next found.2 b
  (units.reverse ++ found.1, begun?)

/-- The units found, once the bytes end: a begun sequence is broken. -/
def ended : List (Option Char) × Option Begun → List (Option Char)
  | (found, none) => found.reverse
  | (found, some _) => (none :: found).reverse

/-- The units of a byte sequence: characters, and `none` for each broken one. -/
def units (bytes : Bytes) : List (Option Char) := ended (bytes.foldl feed ([], none))

theorem ended_foldl_feed (bytes : Bytes) (found : List (Option Char)) (begun? : Option Begun) :
    ended (bytes.foldl feed (found, begun?)) = found.reverse ++ unitsFrom begun? bytes := by
  induction bytes generalizing found begun? with
  | nil => cases begun? <;> simp [ended, unitsFrom]
  | cons b rest ih =>
    rw [List.foldl_cons]
    show ended (rest.foldl feed ((next begun? b).1.reverse ++ found, (next begun? b).2)) = _
    rw [ih]
    simp [unitsFrom]

theorem units_eq_unitsFrom (bytes : Bytes) : units bytes = unitsFrom none bytes :=
  ended_foldl_feed bytes [] none

/-- The text of well-formed bytes. -/
def decode? (bytes : Bytes) : Option String :=
  ((units bytes).mapM id).map String.ofList

/-- The text of any bytes, with U+FFFD for each broken unit. -/
def decodeLossy (bytes : Bytes) : String :=
  String.ofList ((units bytes).map (·.getD '\uFFFD'))

end Utf8

end Mender
