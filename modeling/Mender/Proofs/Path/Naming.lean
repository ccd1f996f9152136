import Mender.Proofs.Disk.Linkless
import Mender.Proofs.Path

/-!
# The last name of a path

A path with a file name is in two parts, the directory that it lies in and the name. Its steps
are those of the directory, then the step down to the name. Another extension changes nothing
but the name, and if there is a dot in the extension, the name does change.
-/

namespace Mender.Path

open Text

variable {path parent name extension : Path}

/-- From the end of a row that ends by a name, nothing is dropped. -/
theorem Plain.stripEnd_eq (plain : Plain name) (before : Bytes) :
    stripEnd (name.bytes.reverse ++ before) = name.bytes.reverse ++ before := by
  have no_slash : slash ∉ name.bytes.reverse := by simpa using plain.no_slash
  have not_empty : name.bytes.reverse ≠ [] := by simpa using plain.not_empty
  have not_stay : name.bytes.reverse ≠ [dot] := by
    simpa [List.reverse_eq_iff] using plain.not_stay
  generalize name.bytes.reverse = reversed at *
  match reversed with
  | [] => exact absurd rfl not_empty
  | [b] =>
    have ink : b ≠ slash := by simpa [eq_comm] using no_slash
    have no_dot : b ≠ dot := by simpa using not_stay
    unfold stripEnd
    cases before <;> simp [ink, no_dot]
  | b :: b' :: rest =>
    obtain ⟨first, second⟩ : b ≠ slash ∧ b' ≠ slash := by
      simp only [List.mem_cons, not_or] at no_slash
      exact ⟨Ne.symm no_slash.1, Ne.symm no_slash.2.1⟩
    simp [stripEnd, first, second]

/-- The last part of a path that ends by a name is the name. -/
theorem Plain.lastPart?_eq (plain : Plain name) {before : Bytes}
    (kind : before = [] ∨ ∃ rest, before = slash :: rest)
    (bytes : path.bytes.reverse = name.bytes.reverse ++ before) :
    lastPart? path = some (name.bytes.reverse, before) := by
  have inside : ∀ b ∈ name.bytes.reverse, (decide (b ≠ slash)) = true := by
    intro b mem
    exact decide_eq_true fun slashed => plain.no_slash (slashed ▸ List.mem_reverse.mp mem)
  have ends : ∀ b, before.head? = some b → (decide (b ≠ slash)) = false := by
    intro b first
    rcases kind with rfl | ⟨rest, rfl⟩
    · cases first
    · cases first
      rfl
  obtain ⟨taken, dropped⟩ := span_append inside ends
  have not_empty : name.bytes.reverse ≠ [] := by simpa using plain.not_empty
  have kept : ¬(decide (name.bytes.reverse ++ before = []) ||
      decide ((name.bytes.reverse ++ before).head? = some slash)) = true := by
    obtain ⟨b, bs, reversed⟩ := List.exists_cons_of_ne_nil not_empty
    rw [reversed] at inside ⊢
    simpa using inside b List.mem_cons_self
  unfold lastPart?
  dsimp only
  rw [bytes, plain.stripEnd_eq, if_neg kept, taken, dropped]

theorem Plain.fileName?_of_lastPart? (plain : Plain name) {before : Bytes}
    (h : lastPart? path = some (name.bytes.reverse, before)) : fileName? path = some name := by
  have no_dots : ¬(name.bytes.reverse = [dot] ∨ name.bytes.reverse = [dot, dot]) := by
    rw [List.reverse_eq_iff, List.reverse_eq_iff]
    exact not_or.mpr ⟨plain.not_stay, plain.not_up⟩
  rw [fileName?, h, Option.bind_some]
  dsimp only
  rw [if_neg (by simpa using no_dots), List.reverse_reverse]

theorem Plain.fileName?_eq (plain : Plain name) : fileName? name = some name :=
  plain.fileName?_of_lastPart? (plain.lastPart?_eq (.inl rfl) (by simp))

/-- The path is a name in a directory. -/
structure Parts (path parent name : Path) : Prop where
  above : parent? path = some parent
  last : fileName? path = some name

/-- The parts as the bytes of the path have them, last byte first. -/
theorem exists_lastPart? (h : fileName? path = some name) :
    ∃ before, lastPart? path = some (name.bytes.reverse, before) ∧
      (before = [] ∨ ∃ rest, before = slash :: rest) ∧ Plain name := by
  obtain ⟨⟨reversed, before⟩, parts, found⟩ := Option.bind_eq_some_iff.mp h
  obtain ⟨-, nonempty, no_slash, kind⟩ := parts_of_lastPart? parts
  dsimp only at found
  split at found
  · cases found
  · next no_dots =>
    obtain ⟨not_stay, not_up⟩ : reversed ≠ [dot] ∧ reversed ≠ [dot, dot] := by
      simpa using no_dots
    obtain rfl := Option.some.inj found
    refine ⟨before, by simpa using parts, kind, ?_⟩
    constructor
    · simpa using no_slash
    · simpa using nonempty
    · simpa [List.reverse_eq_iff] using not_stay
    · simpa [List.reverse_eq_iff] using not_up

/-- A path with a file name lies in a directory. -/
theorem exists_parts (h : fileName? path = some name) : ∃ parent, Parts path parent name := by
  obtain ⟨before, parts, -, -⟩ := exists_lastPart? h
  exact ⟨_, Option.map_eq_some_iff.mpr ⟨_, parts, rfl⟩, h⟩

theorem Parts.plain (h : Parts path parent name) : Plain name := by
  obtain ⟨_, -, -, plain⟩ := exists_lastPart? h.last
  exact plain

/-- A path takes the steps of its directory and the step down to its name, and stays at most
otherwise. -/
theorem Parts.steps_eq (h : Parts path parent name) :
    ∃ m n, steps path =
      steps parent ++ (List.replicate m .stay ++ .down name :: List.replicate n .stay) := by
  obtain ⟨before, parts, -, plain⟩ := exists_lastPart? h.last
  obtain ⟨m, n, whole⟩ := steps_of_lastPart? parts
  have above := h.above
  rw [parent?, parts] at above
  obtain rfl := Option.some.inj above
  refine ⟨m, n, whole.trans ?_⟩
  rw [List.reverse_reverse, plain.ofPart?_eq, Option.toList_some, List.append_assoc]
  rfl

/-- A name without an extension, or a stem and what follows the last dot. -/
theorem splitName_cases (name : Path) :
    splitName name = (name, none) ∨
      ∃ stem e : Path, stem.bytes ≠ [] ∧ dot ∉ e.bytes ∧
        name.bytes = stem.bytes ++ dot :: e.bytes ∧ splitName name = (stem, some e) := by
  unfold splitName
  dsimp only
  split
  · exact .inl rfl
  · exact .inl rfl
  · next b stem nonempty behind =>
    obtain rfl : b = dot := by
      have first := List.head?_dropWhile_not (fun b => decide (b ≠ dot)) name.bytes.reverse
      rw [behind] at first
      simpa using first
    have whole := @List.takeWhile_append_dropWhile _ (fun b => decide (b ≠ dot)) name.bytes.reverse
    have dotless : dot ∉ name.bytes.reverse.takeWhile fun b => decide (b ≠ dot) := by
      intro mem
      simpa using List.mem_takeWhile_imp mem
    rw [behind] at whole
    refine .inr ⟨_, _, ?_, ?_, ?_, rfl⟩
    · simpa using nonempty
    · simpa using dotless
    · generalize name.bytes.reverse.takeWhile (fun b => decide (b ≠ dot)) = front at whole ⊢
      rw [← List.reverse_inj, ← whole]
      simp

theorem Plain.bytes_withExtension (plain : Plain name) (extension : Path) :
    (withExtension name extension).bytes = (splitName name).1.bytes ++ dot :: extension.bytes := by
  rw [withExtension, plain.fileName?_eq, plain.lastPart?_eq (.inl rfl) (List.append_nil _).symm]
  rfl

/-- A name with another extension is another name, if there is a dot in the extension. -/
theorem Plain.withExtension_ne (plain : Plain name) (dotted : dot ∈ extension.bytes) :
    withExtension name extension ≠ name := by
  intro same
  replace same := congrArg Path.bytes same
  rw [plain.bytes_withExtension] at same
  rcases splitName_cases name with bare | ⟨stem, e, -, dotless, parts, split⟩
  · rw [bare] at same
    simpa using congrArg List.length same
  · rw [split, parts] at same
    have ending : extension.bytes = e.bytes := by simpa using same
    exact dotless (ending ▸ dotted)

theorem Plain.withExtension (plain : Plain name) (no_slash : slash ∉ extension.bytes)
    (nonempty : extension.bytes ≠ []) : Plain (withExtension name extension) := by
  have stem : (splitName name).1.bytes ≠ [] ∧ slash ∉ (splitName name).1.bytes := by
    rcases splitName_cases name with bare | ⟨stem, e, stem_nonempty, -, parts, split⟩
    · rw [bare]
      exact ⟨plain.not_empty, plain.no_slash⟩
    · have inside := plain.no_slash
      rw [parts] at inside
      rw [split]
      exact ⟨stem_nonempty, fun mem => inside (by simp [mem])⟩
  obtain ⟨stem_nonempty, stem_no_slash⟩ := stem
  have bytes := plain.bytes_withExtension extension
  have long : 2 < (Path.withExtension name extension).bytes.length := by
    have front := List.length_pos_iff.mpr stem_nonempty
    have back := List.length_pos_iff.mpr nonempty
    rw [bytes, List.length_append, List.length_cons]
    omega
  constructor
  · rw [bytes, List.mem_append, List.mem_cons]
    exact not_or.mpr ⟨stem_no_slash, not_or.mpr ⟨by decide, no_slash⟩⟩
  · intro text
    simp [text] at long
  · intro text
    simp [text] at long
  · intro text
    simp [text] at long

/-- Another extension changes the name and not the directory. -/
theorem Parts.withExtension (h : Parts path parent name) (no_slash : slash ∉ extension.bytes)
    (nonempty : extension.bytes ≠ []) :
    Parts (withExtension path extension) parent (withExtension name extension) := by
  obtain ⟨before, parts, kind, plain⟩ := exists_lastPart? h.last
  have bytes : (Path.withExtension path extension).bytes.reverse =
      (Path.withExtension name extension).bytes.reverse ++ before := by
    rw [plain.bytes_withExtension, Path.withExtension, h.last, parts]
    simp
  have renamed := plain.withExtension no_slash nonempty
  have last := renamed.lastPart?_eq kind bytes
  have above := h.above
  rw [parent?, parts] at above
  refine ⟨?_, renamed.fileName?_of_lastPart? last⟩
  rw [parent?, last]
  exact above

end Mender.Path
