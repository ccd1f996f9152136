import Mender.Proofs.Text.Utf8

/-!
# The order of encoded text

A greater character has a greater lead byte, or the same one and then greater bits in the bytes
behind it. So texts are in the order of the bytes that encode them.
-/

namespace Mender.Utf8

section Bytes

variable {m n : Nat} (small : m < 256) (small' : n < 256)

include small small'

theorem ofNat_lt_ofNat_iff : UInt8.ofNat m < UInt8.ofNat n ↔ m < n := by
  rw [UInt8.lt_iff_toNat_lt, UInt8.toNat_ofNat_of_lt' small, UInt8.toNat_ofNat_of_lt' small']

theorem ofNat_eq_ofNat_iff : UInt8.ofNat m = UInt8.ofNat n ↔ m = n := by
  rw [← UInt8.toNat_inj, UInt8.toNat_ofNat_of_lt' small, UInt8.toNat_ofNat_of_lt' small']

end Bytes

theorem tailByte_lt_iff {v w : Nat} : tailByte v < tailByte w ↔ v % 64 < w % 64 := by
  rw [tailByte, tailByte, ofNat_lt_ofNat_iff (by omega) (by omega)]
  omega

theorem tailByte_eq_iff {v w : Nat} : tailByte v = tailByte w ↔ v % 64 = w % 64 := by
  rw [tailByte, tailByte, ofNat_eq_ofNat_iff (by omega) (by omega)]
  omega

/-- Of two numbers the first six bits that differ decide. -/
theorem bits_of_lt {v w : Nat} (h : v < w) :
    v / 262144 < w / 262144 ∨ v / 262144 = w / 262144 ∧
      (v / 4096 % 64 < w / 4096 % 64 ∨ v / 4096 % 64 = w / 4096 % 64 ∧
        (v / 64 % 64 < w / 64 % 64 ∨ v / 64 % 64 = w / 64 % 64 ∧ v % 64 < w % 64)) := by
  have split (m n : Nat) (less : m < n) :
      m / 64 < n / 64 ∨ m / 64 = n / 64 ∧ m % 64 < n % 64 := by omega
  rw [show 262144 = 64 * 64 * 64 from rfl, show 4096 = 64 * 64 from rfl]
  simp only [← Nat.div_div_eq_div_mul]
  rcases split v w h with low | low
  · rcases split _ _ low with middle | middle
    · rcases split _ _ middle with high | high
      · exact .inl high
      · exact .inr ⟨high.1, .inl high.2⟩
    · exact .inr ⟨congrArg (· / 64) middle.1, .inr ⟨congrArg (· % 64) middle.1, .inl middle.2⟩⟩
  · simp [low]

/-- The bytes of a character decide, whatever follows them. -/
theorem utf8EncodeChar_lt {c d : Char} (h : c < d) (rest rest' : Bytes) :
    String.utf8EncodeChar c ++ rest < String.utf8EncodeChar d ++ rest' := by
  have less : c.toNat < d.toNat := h
  have valid : d.toNat < 0xd800 ∨ (0xdfff < d.toNat ∧ d.toNat < 0x110000) := d.valid
  have top (n : Nat) (below : n < 0x110000) : n / 262144 % 8 = n / 262144 :=
    Nat.mod_eq_of_lt (by omega)
  rw [utf8EncodeChar_eq, utf8EncodeChar_eq, top c.toNat (by omega), top d.toNat (by omega)]
  generalize c.toNat = v, d.toNat = w at *
  have bits := bits_of_lt less
  -- a character of more bytes has the greater lead byte
  split_ifs
  all_goals
    simp only [List.cons_append, List.nil_append, List.cons_lt_cons_iff, tailByte_lt_iff,
      tailByte_eq_iff]
    repeat rw [ofNat_lt_ofNat_iff (by omega) (by omega)]
    repeat rw [ofNat_eq_ofNat_iff (by omega) (by omega)]
    omega

theorem flatMap_utf8EncodeChar_lt {cs ds : List Char} (h : cs < ds) :
    cs.flatMap String.utf8EncodeChar < ds.flatMap String.utf8EncodeChar := by
  induction ds generalizing cs with
  | nil => cases h
  | cons d ds ih =>
    rw [List.flatMap_cons]
    cases cs with
    | nil =>
      rw [List.flatMap_nil, utf8EncodeChar_eq]
      split_ifs <;> exact List.nil_lt_cons _ _
    | cons c cs =>
      rw [List.flatMap_cons]
      obtain less | ⟨rfl, less⟩ := List.cons_lt_cons_iff.mp h
      · exact utf8EncodeChar_lt less _ _
      · exact List.append_left_lt (ih less)

/-- Texts are in the order of their bytes. -/
theorem encode_lt_encode_iff {a b : String} : encode a < encode b ↔ a < b := by
  constructor
  · intro less
    by_contra other
    rcases lt_or_eq_of_le (not_lt.mp other) with greater | rfl
    · exact List.lt_asymm (flatMap_utf8EncodeChar_lt greater) less
    · exact List.lt_irrefl _ less
  · exact flatMap_utf8EncodeChar_lt

end Mender.Utf8
