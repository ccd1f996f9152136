import Mender.Finding.AnalyzerReport
import Mender.Proofs.Json.Cut

/-!
# Reports that are cut

Of a report that is longer than what is kept of it only the beginning is read. The findings
in it are not read one by one: a report without its end is no report, so either all of
them are found or none.
-/

namespace Mender

namespace Utf8

/-- The units of the first bytes are the first units, and perhaps a broken one where the cut
goes through a character. -/
theorem unitsFrom_take (begun? : Option Begun) (bytes : Bytes) (n : Nat) :
    ∃ kept tail, unitsFrom begun? (bytes.take n) = kept ++ tail ∧
      kept <+: unitsFrom begun? bytes ∧ (tail = [] ∨ tail = [none]) := by
  induction bytes generalizing begun? n with
  | nil => exact ⟨unitsFrom begun? [], [], by simp, List.prefix_refl _, .inl rfl⟩
  | cons b rest ih =>
    cases n with
    | zero =>
      refine ⟨[], unitsFrom begun? [], rfl, List.nil_prefix, ?_⟩
      cases begun? with
      | none => exact .inl rfl
      | some => exact .inr rfl
    | succ n =>
      obtain ⟨kept, tail, parts, inside, broken⟩ := ih (next begun? b).2 n
      refine ⟨(next begun? b).1 ++ kept, tail, ?_, ?_, broken⟩
      · rw [List.take_succ_cons, unitsFrom, List.append_assoc, ← parts]
      · rw [unitsFrom]
        exact (List.prefix_append_right_inj _).mpr inside

theorem decodeLossy_take (bytes : Bytes) (n : Nat) :
    ∃ kept tail, (decodeLossy (bytes.take n)).toList = kept ++ tail ∧
      kept <+: (decodeLossy bytes).toList ∧ (tail = [] ∨ tail = ['\uFFFD']) := by
  obtain ⟨kept, tail, parts, inside, broken⟩ := unitsFrom_take none bytes n
  refine ⟨kept.map (·.getD '\uFFFD'), tail.map (·.getD '\uFFFD'), ?_, ?_, ?_⟩
  · rw [decodeLossy, String.toList_ofList, units_eq_unitsFrom, parts, List.map_append]
  · rw [decodeLossy, String.toList_ofList, units_eq_unitsFrom]
    exact inside.map _
  · rcases broken with rfl | rfl
    · exact .inl rfl
    · exact .inr rfl

end Utf8

namespace AnalyzerReport

/-- The text of a report, without the blanks around it. -/
def body (output : Bytes) : List Char := Text.trim (Utf8.decodeLossy output).toList

theorem parse_congr {output output' : Bytes} (same : body output = body output') :
    parse output = parse output' := by
  unfold parse ofText
  rw [← body, same, body]

theorem parse_of_unread {output : Bytes} (unread : Json.ofText? (body output) = none) :
    parse output = [] := by
  unfold parse ofText
  rw [← body, Json.stored?, unread]
  rfl

/-- Only an object reports anything. -/
theorem exists_object_of_parse {output : Bytes} (found : parse output ≠ []) :
    ∃ fields, Json.ofText? (body output) = some (.object fields) := by
  unfold parse ofText at found
  split at found
  · next report read =>
    obtain ⟨read, -⟩ := Option.filter_eq_some_iff.mp read
    cases report with
    | object fields => exact ⟨fields, read⟩
    | null | bool | number | string | array => exact absurd rfl found
  · exact absurd rfl found

/-- What is found in the first bytes of a report is all that is in it, where no more than
blanks are cut off, and otherwise nothing. -/
theorem parse_take {output : Bytes} (found : parse output ≠ []) (limit : Nat) :
    parse (output.take limit) =
      if body (output.take limit) = body output then parse output else [] := by
  split
  · next same => exact parse_congr same
  · next other =>
    apply parse_of_unread
    cases read : Json.ofText? (body (output.take limit)) with
    | none => rfl
    | some report =>
      obtain ⟨fields, whole⟩ := exists_object_of_parse found
      obtain ⟨kept, tail, parts, inside, broken⟩ := Utf8.decodeLossy_take output limit
      rw [body, parts] at read
      have same := Json.trim_eq_of_cut whole inside broken read
      rw [← parts] at same
      exact absurd same other

end AnalyzerReport

end Mender
