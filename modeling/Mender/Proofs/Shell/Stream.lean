import Mathlib
import Mender.Shell.Stream

/-!
# Reading streams in pieces

`byteAt?` says what stands where in a stream. The first bytes are those at the first places, and
what is left behind them has the others, so that it makes no difference whether bytes are read at
once or one piece after the other.
-/

namespace Mender.Shell.Stream

variable {s : Stream} {m n i : Nat}

/-- The byte at a place, if the stream is that long. -/
def byteAt? (s : Stream) (i : Nat) : Option UInt8 :=
  if i < s.bytes.length then s.bytes[i]? else s.cycle[(i - s.bytes.length) % s.cycle.length]?

theorem getElem?_flatten_replicate {α : Type} (row : List α) {count : Nat}
    (inside : i < count * row.length) :
    (List.replicate count row).flatten[i]? = row[i % row.length]? := by
  induction count generalizing i with
  | zero => simp at inside
  | succ count ih =>
    rw [List.replicate_succ, List.flatten_cons]
    by_cases here : i < row.length
    · rw [List.getElem?_append_left here, Nat.mod_eq_of_lt here]
    · have behind : row.length ≤ i := Nat.le_of_not_lt here
      rw [Nat.succ_mul] at inside
      rw [List.getElem?_append_right behind, ih (by omega), ← Nat.mod_eq_sub_mod behind]

theorem take_of_finite (finite : s.cycle = []) (n : Nat) : s.take n = s.bytes.take n := by
  simp [take, finite]

theorem take_of_short (short : n ≤ s.bytes.length) : s.take n = s.bytes.take n := by
  have enough : n - (s.bytes.take n).length = 0 := by
    rw [List.length_take]
    omega
  unfold take
  dsimp only
  rw [enough]
  simp

/-- Behind its bytes a stream goes round as often as it takes. -/
theorem take_of_cycle (endless : s.cycle ≠ []) (long : s.bytes.length < n) :
    s.take n = s.bytes ++ ((List.replicate ((n - s.bytes.length) / s.cycle.length + 1)
      s.cycle).flatten).take (n - s.bytes.length) := by
  have all : s.bytes.take n = s.bytes := List.take_of_length_le long.le
  have missing : n - s.bytes.length ≠ 0 := by omega
  simp [take, all, endless, missing]

theorem drop_of_finite (finite : s.cycle = []) (n : Nat) :
    s.drop n = { s with bytes := s.bytes.drop n } := by
  simp [drop, finite]

theorem drop_of_short (short : n ≤ s.bytes.length) :
    s.drop n = { s with bytes := s.bytes.drop n } := by
  simp [drop, short]

/-- Behind the bytes of a stream its cycle is left, from some place on. -/
theorem drop_of_cycle (endless : s.cycle ≠ []) (long : s.bytes.length < n) :
    s.drop n = { s with bytes := [], cycle := s.cycle.rotate (n - s.bytes.length) } := by
  have turns : 0 < s.cycle.length := List.length_pos_iff.mpr endless
  have few : (n - s.bytes.length) % s.cycle.length ≤ s.cycle.length := (Nat.mod_lt _ turns).le
  have past : ¬n ≤ s.bytes.length := Nat.not_le_of_lt long
  rw [← List.rotate_mod, List.rotate_eq_drop_append_take few]
  simp [drop, endless, past]

theorem getElem?_take (s : Stream) (n i : Nat) :
    (s.take n)[i]? = if i < n then s.byteAt? i else none := by
  unfold byteAt?
  by_cases finite : s.cycle = []
  · rw [take_of_finite finite, List.getElem?_take, finite]
    by_cases here : i < s.bytes.length
    · rw [if_pos here]
    · rw [if_neg here, List.getElem?_eq_none (Nat.le_of_not_lt here)]
      rfl
  by_cases short : n ≤ s.bytes.length
  · rw [take_of_short short, List.getElem?_take]
    by_cases early : i < n
    · rw [if_pos early, if_pos early, if_pos (early.trans_le short)]
    · rw [if_neg early, if_neg early]
  have long : s.bytes.length < n := Nat.lt_of_not_le short
  rw [take_of_cycle finite long]
  by_cases here : i < s.bytes.length
  · rw [List.getElem?_append_left here, if_pos (here.trans long), if_pos here]
  have turns : 0 < s.cycle.length := List.length_pos_iff.mpr finite
  have room := Nat.lt_mul_div_succ (n - s.bytes.length) turns
  rw [Nat.mul_comm] at room
  rw [List.getElem?_append_right (Nat.le_of_not_lt here), List.getElem?_take, if_neg here]
  by_cases early : i < n
  · have inside : i - s.bytes.length < n - s.bytes.length := by omega
    rw [if_pos early, if_pos inside, getElem?_flatten_replicate _ (inside.trans room)]
  · have outside : ¬i - s.bytes.length < n - s.bytes.length := by omega
    rw [if_neg early, if_neg outside]

theorem byteAt?_drop (s : Stream) (n i : Nat) : (s.drop n).byteAt? i = s.byteAt? (n + i) := by
  unfold byteAt?
  by_cases short : n ≤ s.bytes.length
  · have behind : i < s.bytes.length - n ↔ n + i < s.bytes.length := by omega
    have place : i - (s.bytes.length - n) = n + i - s.bytes.length := by omega
    rw [drop_of_short short]
    simp only [List.length_drop, List.getElem?_drop, behind, place]
  have long : s.bytes.length < n := Nat.lt_of_not_le short
  have late : ¬n + i < s.bytes.length := by omega
  rw [if_neg late]
  by_cases finite : s.cycle = []
  · have gone : s.bytes.drop n = [] := List.drop_of_length_le long.le
    rw [drop_of_finite finite, gone]
    simp [finite]
  · have turns : 0 < s.cycle.length := List.length_pos_iff.mpr finite
    have place : i + (n - s.bytes.length) = n + i - s.bytes.length := by omega
    rw [drop_of_cycle finite long]
    simp only [List.length_nil, Nat.not_lt_zero, if_false, Nat.sub_zero, List.length_rotate]
    rw [List.getElem?_rotate (Nat.mod_lt _ turns), Nat.mod_add_mod, place]

theorem length_take_of_cycle (endless : s.cycle ≠ []) (n : Nat) : (s.take n).length = n := by
  have turns : 0 < s.cycle.length := List.length_pos_iff.mpr endless
  refine Nat.le_antisymm (List.getElem?_eq_none_iff.mp ?_) (Nat.le_of_not_lt fun less => ?_)
  · rw [getElem?_take, if_neg (Nat.lt_irrefl n)]
  · have nothing : (s.take n)[(s.take n).length]? = none := List.getElem?_eq_none le_rfl
    rw [getElem?_take, if_pos less, byteAt?] at nothing
    split at nothing
    · next inside => simp [inside] at nothing
    · have there := List.getElem?_eq_none_iff.mp nothing
      exact absurd (Nat.mod_lt _ turns) (Nat.not_lt_of_le there)

/-- What is read at once is what is read in two pieces. -/
theorem take_add (s : Stream) (m n : Nat) : s.take (m + n) = s.take m ++ (s.drop m).take n := by
  by_cases finite : s.cycle = []
  · let left : Stream := { s with bytes := s.bytes.drop m }
    have later : left.take n = (s.bytes.drop m).take n := take_of_finite (s := left) finite n
    rw [take_of_finite finite, take_of_finite finite, drop_of_finite finite, List.take_add, later]
  · refine List.ext_getElem? fun i => ?_
    have size := length_take_of_cycle finite m
    by_cases first : i < m
    · rw [List.getElem?_append_left (by omega), getElem?_take, getElem?_take, if_pos first,
        if_pos (by omega : i < m + n)]
    · have place : m + (i - m) = i := by omega
      have inside : i - m < n ↔ i < m + n := by omega
      rw [List.getElem?_append_right (by omega), size, getElem?_take, getElem?_take, byteAt?_drop,
        place]
      simp only [inside]

/-- What a reader takes whose pieces have these sizes. -/
def pieces (s : Stream) : List Nat → List Bytes
  | [] => []
  | n :: sizes => s.take n :: (s.drop n).pieces sizes

/-- The sizes of the pieces do not matter to what is read. -/
theorem flatten_pieces (s : Stream) (sizes : List Nat) :
    (s.pieces sizes).flatten = s.take sizes.sum := by
  induction sizes generalizing s with
  | nil => simp [pieces, take]
  | cons n sizes ih => rw [pieces, List.flatten_cons, ih, List.sum_cons, take_add]

end Mender.Shell.Stream
