import Mathlib
import Mender.Finding.AnalyzerReport
import Mender.Finding.TestReport

/-!
# How many findings there can be

Every finding costs its report some characters of its own: an element of a JSON array is
read from tokens of its own, and each marker of a failed test spells out a word. So the
number of findings is at most the number of bytes that they are read from.
-/

namespace Mender

namespace Utf8

theorem length_first (b : UInt8) : (first b).1.length + (first b).2.toList.length ≤ 1 := by
  unfold first
  split
  · simp
  · cases lead? b <;> simp

theorem length_next (begun? : Option Begun) (b : UInt8) :
    (next begun? b).1.length + (next begun? b).2.toList.length ≤ begun?.toList.length + 1 := by
  have single := length_first b
  cases begun? with
  | none => exact single.trans (by simp)
  | some begun =>
    unfold next
    dsimp only
    split
    · split <;> simp
    · simp only [List.length_cons, Option.toList_some, List.length_nil]
      omega

/-- A sequence that was begun counts as the unit that may still come of it. -/
theorem length_unitsFrom (begun? : Option Begun) (bytes : Bytes) :
    (unitsFrom begun? bytes).length ≤ begun?.toList.length + bytes.length := by
  induction bytes generalizing begun? with
  | nil => cases begun? <;> simp [unitsFrom]
  | cons b rest ih =>
    have here := length_next begun? b
    have later := ih (next begun? b).2
    rw [unitsFrom, List.length_append, List.length_cons]
    omega

theorem length_decodeLossy (bytes : Bytes) : (decodeLossy bytes).toList.length ≤ bytes.length := by
  have bound := length_unitsFrom none bytes
  rw [decodeLossy, String.toList_ofList, List.length_map, units_eq_unitsFrom]
  simpa using bound

end Utf8

theorem Text.length_trim (cs : List Char) : (trim cs).length ≤ cs.length := by
  unfold trim trimRight trimLeft
  rw [List.length_reverse]
  exact (List.dropWhile_sublist _).length_le.trans
    ((List.length_reverse).le.trans (List.dropWhile_sublist _).length_le)

namespace Json

mutual

/-- How many values there are in a value, itself included. -/
def size : Json → Nat
  | .array items => sizeOfItems items + 1
  | .object fields => sizeOfFields fields + 1
  | _ => 1

def sizeOfItems : List Json → Nat
  | [] => 0
  | item :: items => item.size + sizeOfItems items

def sizeOfFields : List (Option String × Json) → Nat
  | [] => 0
  | (_, value) :: fields => value.size + sizeOfFields fields

end

theorem size_pos (j : Json) : 0 < j.size := by
  cases j <;> simp [size]

theorem sizeOfItems_eq (items : List Json) : sizeOfItems items = (items.map size).sum := by
  induction items with
  | nil => rfl
  | cons item items ih => rw [sizeOfItems, ih, List.map_cons, List.sum_cons]

theorem sizeOfFields_eq (fields : List (Option String × Json)) :
    sizeOfFields fields = (fields.map (·.2.size)).sum := by
  induction fields with
  | nil => rfl
  | cons field fields ih => rw [sizeOfFields, ih, List.map_cons, List.sum_cons]

theorem length_le_size {j : Json} {items : List Json} (h : j.items? = some items) :
    items.length ≤ j.size := by
  cases j <;> cases h
  have each : items.length ≤ sizeOfItems items := by
    induction items with
    | nil => simp [sizeOfItems]
    | cons item items ih =>
      have := item.size_pos
      rw [sizeOfItems, List.length_cons]
      omega
  rw [size]
  omega

theorem size_field?_le {j value : Json} {key : String} (h : j.field? key = some value) :
    value.size ≤ j.size := by
  cases j <;> try cases h
  next fields =>
  obtain ⟨field, found, rfl⟩ := Option.map_eq_some_iff.mp h
  have mem : field ∈ fields := List.mem_reverse.mp (List.mem_of_find?_eq_some found)
  have part : field.2.size ≤ (fields.map (·.2.size)).sum :=
    List.le_sum_of_mem (List.mem_map_of_mem mem)
  rw [size, sizeOfFields_eq]
  omega

theorem sum_insertField_le (key : String) (value : Json) (fields : List (String × Json)) :
    ((insertField key value fields).map (·.2.size)).sum ≤
      value.size + (fields.map (·.2.size)).sum := by
  induction fields with
  | nil => simp [insertField]
  | cons field rest ih =>
    obtain ⟨k, v⟩ := field
    unfold insertField
    split
    · simp
    split
    · simp
    · simp only [List.map_cons, List.sum_cons]
      omega

/-- A field is put in at the cost of its value, or is left out. -/
theorem sum_foldl_insertField_le (fields : List (Option String × Json))
    (sorted : List (String × Json)) :
    ((fields.foldl (fun sorted (key, value) =>
      match key with
      | some key => insertField key value sorted
      | none => sorted) sorted).map (·.2.size)).sum ≤
        (sorted.map (·.2.size)).sum + sizeOfFields fields := by
  induction fields generalizing sorted with
  | nil => simp [sizeOfFields]
  | cons field fields ih =>
    obtain ⟨key, value⟩ := field
    rw [List.foldl_cons, sizeOfFields]
    cases key with
    | none => exact (ih sorted).trans (by omega)
    | some key =>
      have put := sum_insertField_le key value sorted
      exact (ih (insertField key value sorted)).trans (by omega)

theorem sum_sortedFields?_le {j : Json} {sorted : List (String × Json)}
    (h : j.sortedFields? = some sorted) : (sorted.map (·.2.size)).sum ≤ j.size := by
  cases j <;> try cases h
  next fields =>
  have folded := sum_foldl_insertField_le fields []
  rw [size]
  exact folded.trans (by simp)

namespace Frame

def size : Frame → Nat
  | .items done => sizeOfItems done + 1
  | .fields done _ => sizeOfFields done + 1

end Frame

namespace State

def stackSize (stack : List Frame) : Nat := (stack.map Frame.size).sum

/-- How many values have been begun. -/
def size : State → Nat
  | .value stack => stackSize stack
  | .firstItem stack => stackSize stack + 1
  | .firstKey stack => stackSize stack + 1
  | .key done stack => sizeOfFields done + 1 + stackSize stack
  | .colon done _ stack => sizeOfFields done + 1 + stackSize stack
  | .after v stack => v.size + stackSize stack

theorem size_begin_le {stack : List Frame} {t : Token} {s : State} (h : begin stack t = some s) :
    s.size ≤ stackSize stack + 1 := by
  unfold begin at h
  split at h <;> cases h <;> simp [size, Json.size, Nat.add_comm]

/-- A token begins one value at most. -/
theorem size_step_le {s s' : State} {t : Token} (h : step s t = some s') :
    s'.size ≤ s.size + 1 := by
  unfold step at h
  split at h
  · exact size_begin_le h
  · cases h
    simp [size, Json.size, sizeOfItems, Nat.add_comm]
  · refine (size_begin_le h).trans ?_
    simp [size, stackSize, Frame.size, sizeOfItems, Nat.add_comm]
  all_goals
    cases h <;>
    simp [size, stackSize, Frame.size, Json.size, sizeOfItems, sizeOfFields, sizeOfItems_eq,
      sizeOfFields_eq] <;> omega

theorem size_foldlM_le {tokens : List Token} {s s' : State}
    (h : tokens.foldlM step s = some s') : s'.size ≤ s.size + tokens.length := by
  induction tokens generalizing s with
  | nil =>
    cases h
    exact Nat.le_refl _
  | cons t tokens ih =>
    obtain ⟨next, stepped, rest⟩ := Option.bind_eq_some_iff.mp h
    have here := size_step_le stepped
    have later := ih rest
    rw [List.length_cons]
    omega

end State

theorem size_ofTokens?_le {tokens : List Token} {j : Json} (h : ofTokens? tokens = some j) :
    j.size ≤ tokens.length := by
  obtain ⟨s, ran, result⟩ := Option.bind_eq_some_iff.mp h
  have bound := State.size_foldlM_le ran
  unfold State.result? at result
  split at result
  · cases result
    simpa [State.size, State.stackSize] using bound
  · cases result

theorem length_tokens?_le {text : List Char} {tokens : List Token}
    (h : tokens? text = some tokens) : tokens.length ≤ text.length := by
  fun_induction tokens? text generalizing tokens with
  | case1 =>
    cases h
    simp
  | case2 c rest blank ih => exact (ih h).trans (by simp)
  | case3 => cases h
  | case4 c rest ink t after read ih =>
    obtain ⟨later, found, rfl⟩ := Option.map_eq_some_iff.mp h
    have consumed := length_token read
    have bound := ih found
    simp only [List.length_cons]
    omega

/-- A value is not read from fewer characters than there are values in it. -/
theorem size_ofText?_le {text : List Char} {j : Json} (h : ofText? text = some j) :
    j.size ≤ text.length := by
  obtain ⟨tokens, cut, read⟩ := Option.bind_eq_some_iff.mp h
  exact (size_ofTokens?_le read).trans (length_tokens?_le cut)

end Json

namespace AnalyzerReport

theorem length_fileFindings_le (file : String) (entry : Json) :
    (fileFindings file entry).length ≤ entry.size := by
  rw [fileFindings, List.length_map]
  cases messages : (entry.field? "messages").bind Json.items? with
  | none => exact Nat.zero_le _
  | some items =>
    obtain ⟨value, found, listed⟩ := Option.bind_eq_some_iff.mp messages
    exact (Json.length_le_size listed).trans (Json.size_field?_le found)

theorem length_findings_le (report : Json) : (findings report).length ≤ report.size := by
  unfold findings
  cases files : (report.field? "files").bind Json.sortedFields? with
  | none => exact Nat.zero_le _
  | some sorted =>
    obtain ⟨value, found, listed⟩ := Option.bind_eq_some_iff.mp files
    rw [Option.getD_some, List.length_flatMap]
    calc (sorted.map fun field => (fileFindings field.1 field.2).length).sum
        ≤ (sorted.map (·.2.size)).sum :=
          List.sum_le_sum fun field _ => length_fileFindings_le field.1 field.2
      _ ≤ value.size := Json.sum_sortedFields?_le listed
      _ ≤ report.size := Json.size_field?_le found

/-- There are at most as many findings as the analyzer wrote bytes. -/
theorem length_parse_le (output : Bytes) : (parse output).length ≤ output.length := by
  unfold parse ofText
  split
  · next report read =>
    calc (findings report).length
        ≤ report.size := length_findings_le report
      _ ≤ (Text.trim (Utf8.decodeLossy output).toList).length :=
        Json.size_ofText?_le (Option.filter_eq_some_iff.mp read).1
      _ ≤ (Utf8.decodeLossy output).toList.length := Text.length_trim _
      _ ≤ output.length := Utf8.length_decodeLossy output
  · exact Nat.zero_le _

end AnalyzerReport

namespace TestReport

theorem length_failuresFrom_le (name? : Option (List Char)) (segment text : List Char) :
    failedWord.length * (failuresFrom name? segment text).length ≤
      failedWord.length * name?.toList.length + text.length := by
  fun_induction failuresFrom name? segment text with
  | case1 name? segment text name rest found ih =>
    have word := length_marker? found
    simp only [List.length_append, Option.length_toList, Option.isSome_map, Option.isSome_some]
      at ih ⊢
    simp only [failedWord, List.length_cons, List.length_nil, if_true] at *
    omega
  | case2 name? => cases name? <;> simp
  | case3 name? segment c cs found ih =>
    rw [List.length_cons]
    omega

/-- There is one failure, or for each of them a word of its own was written. -/
theorem length_parse_le (success : Bool) (output : Bytes) :
    failedWord.length * (parse success output).length ≤ max failedWord.length output.length := by
  unfold parse
  cases success with
  | true => simp
  | false =>
    unfold ofText
    rw [if_neg Bool.false_ne_true]
    split
    · exact Nat.le_max_left _ _
    · have bound := length_failuresFrom_le none [] (Utf8.decodeLossy output).toList
      have written := Utf8.length_decodeLossy output
      simp only [Option.toList_none, List.length_nil, Nat.mul_zero, Nat.zero_add] at bound
      exact bound.trans (written.trans (Nat.le_max_right _ _))

end TestReport

end Mender
