import Mathlib.Data.List.Basic
import Mender.Shell.Fields

/-!
# What patterns of file names match

`Fits` says by the items of a pattern which texts it matches. The matcher takes these texts, a
pattern without marks matches one text only, and a field stands for files that are there and
whose names fit.
-/

namespace Mender.Shell

namespace Glob

/-- A text is what the items stand for, one after the other. -/
inductive Fits : List Item → List Char → Prop
  | done : Fits [] []
  | one (c : Char) {items text} (more : Fits items text) : Fits (.one c :: items) (c :: text)
  | any (c : Char) {items text} (more : Fits items text) : Fits (.any :: items) (c :: text)
  | many (front : List Char) {items text} (more : Fits items text) :
    Fits (.many :: items) (front ++ text)
  | among {c negated ranges items text} (taken : ByteClass.isIn ranges c = !negated)
    (more : Fits items text) : Fits (.among negated ranges :: items) (c :: text)

variable {items : List Item} {text rest : List Char} {pattern : Marked}

theorem mem_tails_iff : rest ∈ tails text ↔ rest <:+ text := by
  induction text with
  | nil => simp [tails]
  | cons c text ih => rw [tails, List.mem_cons, ih, List.suffix_cons_iff]

theorem matchItems_iff : matchItems items text = true ↔ Fits items text := by
  induction items generalizing text with
  | nil =>
    rw [matchItems, List.isEmpty_iff]
    exact ⟨fun h => h ▸ .done, fun h => by cases h; rfl⟩
  | cons item items ih =>
    cases item with
    | many =>
      rw [matchItems, List.any_eq_true]
      constructor
      · rintro ⟨rest, mem, taken⟩
        obtain ⟨front, rfl⟩ := mem_tails_iff.mp mem
        exact .many front (ih.mp taken)
      · intro h
        cases h with
        | many front more => exact ⟨_, mem_tails_iff.mpr ⟨front, rfl⟩, ih.mpr more⟩
    | one d =>
      cases text with
      | nil => exact ⟨nofun, nofun⟩
      | cons c text =>
        rw [matchItems, Bool.and_eq_true, decide_eq_true_eq, ih]
        constructor
        · rintro ⟨rfl, more⟩
          exact .one c more
        · intro h
          cases h with
          | one _ more => exact ⟨rfl, more⟩
    | any =>
      cases text with
      | nil => exact ⟨nofun, nofun⟩
      | cons c text =>
        rw [matchItems, ih]
        constructor
        · exact .any c
        · intro h
          cases h with
          | any _ more => exact more
    | among negated ranges =>
      cases text with
      | nil => exact ⟨nofun, nofun⟩
      | cons c text =>
        rw [matchItems, Bool.and_eq_true, bne_iff_ne, ← Bool.eq_not, ih]
        constructor
        · rintro ⟨taken, more⟩
          exact .among taken more
        · intro h
          cases h with
          | among taken more => exact ⟨taken, more⟩

/-- The matcher takes the texts that fit, and no others. -/
theorem isMatch_iff : isMatch pattern text = true ↔ Fits (Glob.items 0 pattern) text :=
  matchItems_iff

theorem fits_ones_iff {chars : List Char} : Fits (chars.map .one) text ↔ text = chars := by
  constructor
  · intro h
    induction chars generalizing text with
    | nil =>
      cases h
      rfl
    | cons c chars ih =>
      cases h with
      | one _ more => rw [ih more]
  · rintro rfl
    induction text with
    | nil => exact .done
    | cons c text ih => exact .one c ih

/-- The items of a pattern without marks. -/
theorem items_of_not_isPattern (plain : isPattern pattern = false) :
    Glob.items 0 pattern = (plainText pattern).toList.map .one := by
  unfold isPattern at plain
  rw [plainText, String.toList_ofList]
  generalize Glob.items 0 pattern = items at plain ⊢
  induction items with
  | nil => rfl
  | cons item items ih =>
    rw [List.any_cons, Bool.or_eq_false_iff] at plain
    cases item with
    | one c => exact congrArg (.one c :: ·) (ih plain.2)
    | _ => cases plain.1

/-- A pattern without marks matches the text that it stands for. -/
theorem isMatch_of_not_isPattern (plain : isPattern pattern = false) :
    isMatch pattern text = true ↔ text = (plainText pattern).toList := by
  rw [isMatch_iff, items_of_not_isPattern plain, fits_ones_iff]

/-- Quoted characters stand for themselves. -/
theorem items_of_quoted (quoted : ∀ c ∈ pattern, c.2 = true) :
    Glob.items 0 pattern = (pattern.map Prod.fst).map .one := by
  induction pattern with
  | nil => rfl
  | cons c pattern ih =>
    obtain ⟨c, mark⟩ := c
    obtain ⟨here, later⟩ := List.forall_mem_cons.mp quoted
    obtain rfl : mark = true := here
    simp only [Glob.items, if_true, ih later, List.map_cons]

/-- A pattern that is quoted matches its own text and nothing else. -/
theorem isMatch_quoted (quoted : ∀ c ∈ pattern, c.2 = true) :
    isMatch pattern text = true ↔ text = pattern.map Prod.fst := by
  rw [isMatch_iff, items_of_quoted quoted, fits_ones_iff]

end Glob

/-- A text has, with the slashes in front of each, a name for every part that fits it. -/
inductive Names : List (Nat × Marked) → List Char → Prop
  | done : Names [] []
  | part (slashes : Nat) {name : Marked} {chars rest : List Char} {parts : List (Nat × Marked)}
    (fits : Glob.Fits (Glob.items 0 name) chars) (more : Names parts rest) :
    Names ((slashes, name) :: parts) (List.replicate slashes '/' ++ chars ++ rest)

variable {disk : Disk} {field : Marked} {path : String}

/-- What is found below a base is there, and its names fit the parts of the pattern. -/
theorem names_of_mem_pathsBelow {base : String} {parts : List (Nat × Marked)}
    (h : path ∈ pathsBelow disk base parts) :
    (disk.look path).isOk = true ∧
      ∃ rest, path.toList = base.toList ++ rest ∧ Names parts rest := by
  induction parts generalizing base with
  | nil =>
    rw [pathsBelow] at h
    split at h
    · next there =>
      obtain rfl := List.mem_singleton.mp h
      exact ⟨there, [], (List.append_nil _).symm, .done⟩
    · cases h
  | cons part parts ih =>
    obtain ⟨slashes, name⟩ := part
    have found {chars : List Char} (fits : Glob.Fits (Glob.items 0 name) chars)
        (below : path ∈ pathsBelow disk
          (base ++ String.ofList (List.replicate slashes '/') ++ String.ofList chars) parts) :
        (disk.look path).isOk = true ∧
          ∃ rest, path.toList = base.toList ++ rest ∧ Names ((slashes, name) :: parts) rest := by
      obtain ⟨there, rest, shape, more⟩ := ih below
      refine ⟨there, _, ?_, .part slashes fits more⟩
      simpa using shape
    rw [pathsBelow] at h
    dsimp only at h
    split at h
    · next plain =>
      have plain : Glob.isPattern name = false := by simpa using plain
      have fits := Glob.isMatch_iff.mp ((Glob.isMatch_of_not_isPattern plain).mpr rfl)
      refine found fits ?_
      rwa [String.ofList_toList]
    · obtain ⟨n, mem, below⟩ := List.mem_flatMap.mp h
      have fits := Glob.isMatch_iff.mp (List.mem_filter.mp mem).2
      refine found fits ?_
      rwa [String.ofList_toList]

/-- A field stands for itself, or it has marks and stands for files that are there and whose names
fit its parts. -/
theorem filesOf_sound (disk : Disk) (field : Marked) :
    filesOf disk field = [field.text] ∨ Glob.isPattern field = true ∧
      filesOf disk field ≠ [] ∧ ∀ path ∈ filesOf disk field,
        (disk.look path).isOk = true ∧ Names (pathParts 0 [] field) path.toList := by
  unfold filesOf
  split
  · exact .inl rfl
  · next marked =>
    split
    · exact .inl rfl
    · next found some_found =>
      refine .inr ⟨by simpa using marked, some_found, fun path mem => ?_⟩
      obtain ⟨there, rest, shape, names⟩ := names_of_mem_pathsBelow (List.mem_mergeSort.mp mem)
      have whole : path.toList = rest := shape
      exact ⟨there, whole ▸ names⟩

end Mender.Shell
