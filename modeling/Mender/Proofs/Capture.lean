import Mathlib
import Mender.Invocation

/-!
# Outputs read in pieces

A reader brings an output in pieces, each of them as large as it likes up to its buffer, and
then nothing, which is the end. However the output is cut into pieces, the bytes that are kept
of it are its first ones, up to the limit, and all others are counted.
-/

namespace Mender.Capture

variable {limit : Nat} {stream : Bytes} {pieces : List Bytes}

theorem kept_foldl_add (limit : Nat) (pieces : List Bytes) (c : Capture) :
    (pieces.foldl (add limit) c).kept = c.kept ++ pieces.flatten.take (limit - c.kept.length) := by
  induction pieces generalizing c with
  | nil => simp
  | cons piece pieces ih =>
    rw [List.foldl_cons, ih, List.flatten_cons, List.take_append]
    simp only [add, List.append_assoc, List.length_append, List.length_take]
    congr 3
    omega

/-- The pieces in which an output is read do not matter to what is kept. -/
theorem kept_ofPieces (limit : Nat) (pieces : List Bytes) :
    (ofPieces limit pieces).kept = pieces.flatten.take limit := by
  rw [ofPieces, kept_foldl_add]
  rfl

theorem length_kept_le (limit : Nat) (pieces : List Bytes) :
    (ofPieces limit pieces).kept.length ≤ limit := by
  rw [kept_ofPieces]
  exact List.length_take_le limit _

/-- How many bytes have been read. -/
def size (c : Capture) : Nat := c.kept.length + c.dropped

/-- No byte of a piece is lost or counted twice, on whichever side of the limit it lies. -/
theorem size_add (limit : Nat) (c : Capture) (piece : Bytes) :
    (c.add limit piece).size = c.size + piece.length := by
  simp only [size, add, List.length_append, List.length_take]
  omega

theorem size_foldl_add (limit : Nat) (pieces : List Bytes) (c : Capture) :
    (pieces.foldl (add limit) c).size = c.size + pieces.flatten.length := by
  induction pieces generalizing c with
  | nil => simp
  | cons piece pieces ih =>
    rw [List.foldl_cons, ih, size_add, List.flatten_cons, List.length_append]
    omega

theorem size_ofPieces (limit : Nat) (pieces : List Bytes) :
    (ofPieces limit pieces).size = pieces.flatten.length := by
  rw [ofPieces, size_foldl_add]
  exact Nat.zero_add _

/-- What is captured depends on the bytes alone, and not on the pieces. -/
theorem ofPieces_eq (limit : Nat) (pieces : List Bytes) :
    ofPieces limit pieces = ⟨pieces.flatten.take limit, pieces.flatten.length - limit⟩ := by
  have kept := kept_ofPieces limit pieces
  have size := size_ofPieces limit pieces
  rw [Capture.size, kept, List.length_take] at size
  have dropped : (ofPieces limit pieces).dropped = pieces.flatten.length - limit := by omega
  rw [← kept, ← dropped]

/-- How many bytes a read brings at most. -/
def bufferBytes : Nat := 8192

/-- The pieces are what a reader may bring of the stream: none is empty, for that would be the
end, and each fits the buffer. -/
structure Splits (stream : Bytes) (pieces : List Bytes) : Prop where
  whole : pieces.flatten = stream
  nonempty : ∀ piece ∈ pieces, piece ≠ []
  fits : ∀ piece ∈ pieces, piece.length ≤ bufferBytes

/-- Reads on until a read brings nothing. The reads that would come after it are left. -/
def drain (limit : Nat) (c : Capture) : List Bytes → Capture × List Bytes
  | [] => (c, [])
  | piece :: later => if piece.isEmpty then (c, later) else drain limit (c.add limit piece) later

/-- Reading takes the whole stream in and stops at its end. -/
theorem drain_eq (nonempty : ∀ piece ∈ pieces, piece ≠ []) (c : Capture) (later : List Bytes) :
    drain limit c (pieces ++ [] :: later) = (pieces.foldl (add limit) c, later) := by
  induction pieces generalizing c with
  | nil => rfl
  | cons piece pieces ih =>
    rw [List.forall_mem_cons] at nonempty
    rw [List.cons_append, drain, if_neg (by simpa using nonempty.1), ih nonempty.2]
    rfl

/-- However a reader splits the stream, all of it is read, its start is kept up to the limit,
and every other byte is counted. -/
theorem ofPieces_of_splits (splits : Splits stream pieces) (limit : Nat) :
    (∀ later, drain limit empty (pieces ++ [] :: later) = (ofPieces limit pieces, later)) ∧
      (ofPieces limit pieces).kept = stream.take (min limit stream.length) ∧
      (ofPieces limit pieces).kept.length = min limit stream.length ∧
      (ofPieces limit pieces).kept.length + (ofPieces limit pieces).dropped = stream.length ∧
      ∀ others, Splits stream others → ofPieces limit others = ofPieces limit pieces := by
  obtain ⟨rfl, nonempty, -⟩ := splits
  have kept := kept_ofPieces limit pieces
  refine ⟨drain_eq nonempty empty, ?_, ?_, size_ofPieces limit pieces, ?_⟩
  · rw [kept, List.take_eq_take_min]
  · rw [kept, List.length_take]
  · rintro others ⟨same, -, -⟩
    rw [ofPieces_eq, ofPieces_eq, same]

/-- The second of three pieces straddles the limit, and the third lies beyond it. -/
theorem ofPieces_of_splits_straddling :
    Splits [1, 2, 3, 4, 5, 6] [[1, 2], [3, 4, 5], [6]] ∧
      ofPieces 4 [[1, 2], [3, 4, 5], [6]] = ⟨[1, 2, 3, 4], 2⟩ ∧
      drain 4 empty [[1, 2], [3, 4, 5], [6], []] = (⟨[1, 2, 3, 4], 2⟩, []) ∧
      ofPieces 4 [[1, 2, 3, 4], [5, 6]] = ⟨[1, 2, 3, 4], 2⟩ := by
  have splits : Splits [1, 2, 3, 4, 5, 6] [[1, 2], [3, 4, 5], [6]] := ⟨rfl, by decide, by decide⟩
  have others : Splits [1, 2, 3, 4, 5, 6] [[1, 2, 3, 4], [5, 6]] := ⟨rfl, by decide, by decide⟩
  have captured : ofPieces 4 [[1, 2], [3, 4, 5], [6]] = ⟨[1, 2, 3, 4], 2⟩ := rfl
  obtain ⟨drained, -, -, -, same⟩ := ofPieces_of_splits splits 4
  refine ⟨splits, captured, ?_, ?_⟩
  · rw [← captured]
    exact drained []
  · rw [← captured]
    exact same _ others

end Mender.Capture
