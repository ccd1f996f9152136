import Mathlib
import Mender.Text.Utf8

/-!
# Text that was written is read back

Each character is written as one lead byte and up to three more, each of which
carries six bits. Reading them puts the bits together again, so the bytes of a text
are always well-formed and name that text only.
-/

namespace Mender.Utf8

/-- The byte that carries six bits behind a lead byte. -/
def tailByte (bits : Nat) : UInt8 := UInt8.ofNat (bits % 64 + 0x80)

theorem tailByte_bits (bits : Nat) : (tailByte bits).toNat % 64 = bits % 64 := by
  have small : bits % 64 < 64 := Nat.mod_lt _ (by decide)
  rw [tailByte, UInt8.toNat_ofNat_of_lt' (by simp [UInt8.size]; omega)]
  omega

theorem tailByte_between {bits low high : Nat} (least : low ≤ bits % 64 + 0x80)
    (most : bits % 64 + 0x80 ≤ high) (byte : high < 256) :
    (UInt8.ofNat low ≤ tailByte bits && tailByte bits ≤ UInt8.ofNat high) = true := by
  simp only [tailByte, Bool.and_eq_true, decide_eq_true_eq, UInt8.le_iff_toNat_le]
  rw [UInt8.toNat_ofNat_of_lt' (by simp [UInt8.size]; omega),
    UInt8.toNat_ofNat_of_lt' (by simp [UInt8.size]; omega),
    UInt8.toNat_ofNat_of_lt' (by simp [UInt8.size]; omega)]
  exact ⟨least, most⟩

/-- A further byte of a sequence adds its six bits. -/
theorem unitsFrom_tailByte {low high bits k : Nat} (more : Nat) (rest : Bytes)
    (least : low ≤ k % 64 + 0x80) (most : k % 64 + 0x80 ≤ high) (byte : high < 256) :
    unitsFrom (some ⟨UInt8.ofNat low, UInt8.ofNat high, bits, more⟩) (tailByte k :: rest) =
      match more with
      | 0 => some (Char.ofNat (bits * 64 + k % 64)) :: unitsFrom none rest
      | more + 1 => unitsFrom (some ⟨0x80, 0xbf, bits * 64 + k % 64, more⟩) rest := by
  rw [unitsFrom, next]
  dsimp only
  rw [if_pos (tailByte_between least most byte), tailByte_bits]
  cases more <;> rfl

theorem unitsFrom_anyTail {bits k : Nat} (more : Nat) (rest : Bytes) :
    unitsFrom (some ⟨0x80, 0xbf, bits, more⟩) (tailByte k :: rest) =
      match more with
      | 0 => some (Char.ofNat (bits * 64 + k % 64)) :: unitsFrom none rest
      | more + 1 => unitsFrom (some ⟨0x80, 0xbf, bits * 64 + k % 64, more⟩) rest :=
  unitsFrom_tailByte more rest (Nat.le_add_left 0x80 _)
    (Nat.add_le_add_right (Nat.le_of_lt_succ (Nat.mod_lt k (by decide))) 0x80) (by decide)

deriving instance DecidableEq for Begun

theorem lead_two : ∀ k < 32, 2 ≤ k →
    lead? (UInt8.ofNat (k + 0xc0)) = some ⟨UInt8.ofNat 0x80, UInt8.ofNat 0xbf, k, 0⟩ := by
  decide

/-- The ranges of the second byte keep out overlong sequences and surrogates. -/
theorem lead_three : ∀ k < 16,
    lead? (UInt8.ofNat (k + 0xe0)) = some ⟨UInt8.ofNat (if k = 0 then 0xa0 else 0x80),
      UInt8.ofNat (if k = 13 then 0x9f else 0xbf), k, 1⟩ := by
  decide

/-- The ranges of the second byte keep out overlong sequences and what is beyond Unicode. -/
theorem lead_four : ∀ k < 5,
    lead? (UInt8.ofNat (k + 0xf0)) = some ⟨UInt8.ofNat (if k = 0 then 0x90 else 0x80),
      UInt8.ofNat (if k = 4 then 0x8f else 0xbf), k, 2⟩ := by
  decide

theorem unitsFrom_lead {b : UInt8} {begun : Begun} (h : lead? b = some begun) (high : 0x80 ≤ b)
    (rest : Bytes) : unitsFrom none (b :: rest) = unitsFrom (some begun) rest := by
  rw [unitsFrom, next, first, if_neg (UInt8.not_lt.mpr high), h]
  rfl

theorem unitsFrom_one {v : Nat} (most : v ≤ 0x7f) (rest : Bytes) :
    unitsFrom none (UInt8.ofNat v :: rest) = some (Char.ofNat v) :: unitsFrom none rest := by
  have byte : (UInt8.ofNat v).toNat = v :=
    UInt8.toNat_ofNat_of_lt' (by simp [UInt8.size]; omega)
  have small : UInt8.ofNat v < 0x80 := by
    rw [UInt8.lt_iff_toNat_lt, byte]
    exact Nat.lt_succ_of_le most
  rw [unitsFrom, next, first, if_pos small, byte]
  rfl

theorem unitsFrom_two {v : Nat} (least : 0x80 ≤ v) (most : v ≤ 0x7ff) (rest : Bytes) :
    unitsFrom none (UInt8.ofNat (v / 64 % 32 + 0xc0) :: tailByte v :: rest) =
      some (Char.ofNat v) :: unitsFrom none rest := by
  have bits : v / 64 % 32 * 64 + v % 64 = v := by omega
  have high : ∀ k < 32, (0x80 : UInt8) ≤ UInt8.ofNat (k + 0xc0) := by decide
  rw [unitsFrom_lead (lead_two _ (by omega) (by omega)) (high _ (by omega)),
    unitsFrom_tailByte 0 rest (by omega) (by omega) (by omega)]
  simp only [bits]

theorem unitsFrom_three {v : Nat} (least : 0x800 ≤ v) (most : v ≤ 0xffff)
    (no_surrogate : v < 0xd800 ∨ 0xdfff < v) (rest : Bytes) :
    unitsFrom none (UInt8.ofNat (v / 4096 % 16 + 0xe0) :: tailByte (v / 64) :: tailByte v :: rest) =
      some (Char.ofNat v) :: unitsFrom none rest := by
  have bits : (v / 4096 % 16 * 64 + v / 64 % 64) * 64 + v % 64 = v := by omega
  have high : ∀ k < 16, (0x80 : UInt8) ≤ UInt8.ofNat (k + 0xe0) := by decide
  rw [unitsFrom_lead (lead_three _ (by omega)) (high _ (by omega)),
    unitsFrom_tailByte 1 _ (by split <;> omega) (by split <;> omega) (by split <;> omega)]
  simp only [unitsFrom_anyTail, bits]

theorem unitsFrom_four {v : Nat} (least : 0x10000 ≤ v) (most : v < 0x110000) (rest : Bytes) :
    unitsFrom none (UInt8.ofNat (v / 262144 % 8 + 0xf0) :: tailByte (v / 4096) ::
        tailByte (v / 64) :: tailByte v :: rest) =
      some (Char.ofNat v) :: unitsFrom none rest := by
  have bits : ((v / 262144 % 8 * 64 + v / 4096 % 64) * 64 + v / 64 % 64) * 64 + v % 64 = v := by
    omega
  have high : ∀ k < 8, (0x80 : UInt8) ≤ UInt8.ofNat (k + 0xf0) := by decide
  rw [unitsFrom_lead (lead_four _ (by omega)) (high _ (by omega)),
    unitsFrom_tailByte 2 _ (by split <;> omega) (by split <;> omega) (by split <;> omega)]
  simp only [unitsFrom_anyTail, bits]

theorem utf8EncodeChar_eq (c : Char) :
    String.utf8EncodeChar c =
      if c.toNat ≤ 0x7f then [UInt8.ofNat c.toNat]
      else if c.toNat ≤ 0x7ff then [UInt8.ofNat (c.toNat / 64 % 32 + 0xc0), tailByte c.toNat]
      else if c.toNat ≤ 0xffff then
        [UInt8.ofNat (c.toNat / 4096 % 16 + 0xe0), tailByte (c.toNat / 64), tailByte c.toNat]
      else
        [UInt8.ofNat (c.toNat / 262144 % 8 + 0xf0), tailByte (c.toNat / 4096),
          tailByte (c.toNat / 64), tailByte c.toNat] := rfl

theorem unitsFrom_encodeChar (c : Char) (rest : Bytes) :
    unitsFrom none (String.utf8EncodeChar c ++ rest) = some c :: unitsFrom none rest := by
  have valid : c.toNat < 0xd800 ∨ (0xdfff < c.toNat ∧ c.toNat < 0x110000) := c.valid
  have read : unitsFrom none (String.utf8EncodeChar c ++ rest) =
      some (Char.ofNat c.toNat) :: unitsFrom none rest := by
    rw [utf8EncodeChar_eq]
    split
    · next one => exact unitsFrom_one one rest
    split
    · next one two => exact unitsFrom_two (by omega) two rest
    split
    · next two three => exact unitsFrom_three (by omega) three (by omega) rest
    · next three => exact unitsFrom_four (by omega) (by omega) rest
  rw [read, Char.ofNat_toNat]

theorem unitsFrom_encode (cs : List Char) :
    unitsFrom none (cs.flatMap String.utf8EncodeChar) = cs.map some := by
  induction cs with
  | nil => rfl
  | cons c cs ih => rw [List.flatMap_cons, unitsFrom_encodeChar, ih, List.map_cons]

/-- Bytes are a text if all of their units are characters. -/
theorem decode?_eq_some_iff {bytes : Bytes} {text : String} :
    decode? bytes = some text ↔ units bytes = text.toList.map some := by
  have all (us : List (Option Char)) (cs : List Char) :
      us.mapM id = some cs ↔ us = cs.map some := by
    induction us generalizing cs with
    | nil => cases cs <;> simp
    | cons u us ih => cases u <;> cases cs <;> simp [Option.bind_eq_some_iff, ih, and_comm]
  rw [decode?, Option.map_eq_some_iff]
  constructor
  · rintro ⟨cs, read, rfl⟩
    rw [(all _ _).mp read, String.toList_ofList]
  · intro read
    exact ⟨text.toList, (all _ _).mpr read, String.ofList_toList⟩

/-- The bytes of a text name that text. -/
theorem decode?_encode (s : String) : decode? (encode s) = some s := by
  rw [decode?_eq_some_iff, units_eq_unitsFrom, encode, unitsFrom_encode]

theorem decodeLossy_of_decode? {bytes : Bytes} {text : String} (h : decode? bytes = some text) :
    decodeLossy bytes = text := by
  rw [decodeLossy, decode?_eq_some_iff.mp h]
  simp

theorem decodeLossy_encode (s : String) : decodeLossy (encode s) = s :=
  decodeLossy_of_decode? (decode?_encode s)

theorem encode_injective : Function.Injective encode := by
  intro s s' same
  have read := congrArg decode? same
  rw [decode?_encode, decode?_encode] at read
  exact Option.some.inj read

theorem encode_append (s s' : String) : encode (s ++ s') = encode s ++ encode s' := by
  simp [encode]

/-- The line break at the end of a text is its last byte. -/
theorem encode_line_ne (text : String) {bytes : Bytes} (other : bytes.getLast? ≠ some 0x0a) :
    encode (text ++ "\n") ≠ bytes := by
  rintro rfl
  have newline : encode "\n" = [0x0a] := by decide
  rw [encode_append, newline, List.getLast?_concat] at other
  exact other rfl

theorem le_ofNat {n : Nat} (high : 0x80 ≤ n) (byte : n < 256) : 0x80 ≤ UInt8.ofNat n := by
  rw [UInt8.le_iff_toNat_le, UInt8.toNat_ofNat_of_lt' (by simpa [UInt8.size] using byte)]
  exact high

/-- The bytes of all other characters are above those of ASCII. -/
theorem high_of_mem_utf8EncodeChar {b : UInt8} {c : Char} (other : ¬c.toNat ≤ 0x7f)
    (mem : b ∈ String.utf8EncodeChar c) : 0x80 ≤ b := by
  have tail (bits : Nat) : 0x80 ≤ tailByte bits := le_ofNat (by omega) (by omega)
  rw [utf8EncodeChar_eq, if_neg other] at mem
  split at mem
  · rcases List.mem_pair.mp mem with rfl | rfl
    exacts [le_ofNat (by omega) (by omega), tail _]
  split at mem
  · rcases List.mem_cons.mp mem with rfl | mem
    · exact le_ofNat (by omega) (by omega)
    · rcases List.mem_pair.mp mem with rfl | rfl <;> exact tail _
  · rcases List.mem_cons.mp mem with rfl | mem
    · exact le_ofNat (by omega) (by omega)
    · rcases List.mem_cons.mp mem with rfl | mem
      · exact tail _
      · rcases List.mem_pair.mp mem with rfl | rfl <;> exact tail _

/-- An ASCII byte stands for one character, and for that alone. -/
theorem mem_utf8EncodeChar_iff {b : UInt8} (ascii : b < 0x80) {c : Char} :
    b ∈ String.utf8EncodeChar c ↔ c = Char.ofNat b.toNat := by
  have small : b.toNat < 0x80 := UInt8.lt_iff_toNat_lt.mp ascii
  have named : (Char.ofNat b.toNat).toNat = b.toNat := by
    rw [Char.toNat_ofNat, if_pos (Or.inl (by omega))]
  by_cases one : c.toNat ≤ 0x7f
  · rw [utf8EncodeChar_eq, if_pos one, List.mem_singleton]
    constructor
    · rintro rfl
      rw [UInt8.toNat_ofNat_of_lt' (by simp [UInt8.size]; omega), Char.ofNat_toNat]
    · rintro rfl
      rw [named, UInt8.ofNat_toNat]
  · constructor
    · exact fun mem => absurd ascii (UInt8.not_lt.mpr (high_of_mem_utf8EncodeChar one mem))
    · rintro rfl
      exact absurd small (by omega)

theorem mem_encode_iff {b : UInt8} (ascii : b < 0x80) {s : String} :
    b ∈ encode s ↔ Char.ofNat b.toNat ∈ s.toList := by
  simp only [encode, List.mem_flatMap, mem_utf8EncodeChar_iff ascii, exists_eq_right]

/-- A byte that goes on with a sequence is no ASCII character. -/
theorem low_of_lead? {b : UInt8} {begun : Begun} (h : lead? b = some begun) :
    0x80 ≤ begun.low := by
  unfold lead? at h
  repeat' split at h
  all_goals cases h
  all_goals dsimp only
  all_goals decide

theorem low_of_next {begun? : Option Begun} {b : UInt8} {begun : Begun}
    (h : (next begun? b).2 = some begun) : 0x80 ≤ begun.low := by
  have fresh (h : (first b).2 = some begun) : 0x80 ≤ begun.low := by
    unfold first at h
    split at h
    · cases h
    · split at h
      · next lead =>
        cases h
        exact low_of_lead? lead
      · cases h
  cases begun? with
  | none => exact fresh h
  | some before =>
    unfold next at h
    dsimp only at h
    split at h
    · split at h
      · cases h
      · cases h
        exact UInt8.le_refl 0x80
    · exact fresh h

/-- An ASCII character ends what was begun, and is read as it is. -/
theorem exists_unitsFrom_ascii {begun? : Option Begun} (h : ∀ begun ∈ begun?, 0x80 ≤ begun.low)
    {b : UInt8} (ascii : b < 0x80) (front : Bytes) :
    ∃ units, ∀ rest, unitsFrom begun? (front ++ b :: rest) =
      units ++ some (Char.ofNat b.toNat) :: unitsFrom none rest := by
  induction front generalizing begun? with
  | nil =>
    have fresh : first b = ([some (Char.ofNat b.toNat)], none) := by rw [first, if_pos ascii]
    cases begun? with
    | none => exact ⟨[], fun rest => by simp [unitsFrom, next, fresh]⟩
    | some begun =>
      have low : ¬begun.low ≤ b := UInt8.not_le.mpr (UInt8.lt_of_lt_of_le ascii (h begun rfl))
      exact ⟨[none], fun rest => by simp [unitsFrom, next, low, fresh]⟩
  | cons c front ih =>
    have low : ∀ begun ∈ (next begun? c).2, 0x80 ≤ begun.low := fun _ going => low_of_next going
    obtain ⟨units, read⟩ := ih low
    refine ⟨(next begun? c).1 ++ units, fun rest => ?_⟩
    rw [List.cons_append, unitsFrom, List.append_assoc, ← read]

/-- Bytes that end in an ASCII character are decoded as if nothing stood behind them. -/
theorem exists_decodeLossy_ascii {bytes : Bytes} {b : UInt8} (last : bytes.getLast? = some b)
    (ascii : b < 0x80) :
    ∃ text, ∀ more, (decodeLossy (bytes ++ more)).toList =
      text ++ Char.ofNat b.toNat :: (decodeLossy more).toList := by
  obtain ⟨front, rfl⟩ := List.getLast?_eq_some_iff.mp last
  have fresh : ∀ begun ∈ (none : Option Begun), 0x80 ≤ begun.low := by
    intro begun going
    cases going
  obtain ⟨units, read⟩ := exists_unitsFrom_ascii fresh ascii front
  refine ⟨units.map (·.getD '\uFFFD'), fun more => ?_⟩
  simp only [decodeLossy, units_eq_unitsFrom, String.toList_ofList]
  rw [List.append_assoc, List.singleton_append, read, List.map_append]
  rfl

end Mender.Utf8
