import Mathlib.Data.List.Basic
import Mender.Shell.Fields

/-!
# How expansions become fields

Where all separators are blanks, a text that is parted becomes the pieces between them that are not
empty, and its first piece goes on with the field that is under way.
-/

namespace Mender.Shell.Fields

variable {f : Fields} {separators : List Char} {c : Char}

def unquoted (cs : List Char) : Marked := cs.map (·, false)

/-- The pieces with something in them, as fields. -/
def filled (pieces : List (List Char)) : List Marked :=
  (pieces.filter (!·.isEmpty)).map unquoted

/-- The fields when pieces of a text have come behind those so far. -/
def followed (f : Fields) (pieces : List (List Char)) : List Marked :=
  match f.current with
  | none => f.done.reverse ++ filled pieces
  | some field =>
    f.done.reverse ++ (field.reverse ++ unquoted (pieces.headD [])) :: filled pieces.tail

/-- A separator ends the field under way. -/
theorem followed_nil_cons (pieces : List (List Char)) :
    f.followed ([] :: pieces) = f.close.followed pieces := by
  cases under : f.current with
  | none => simp [followed, close, under, filled]
  | some field => simp [followed, close, under, unquoted]

/-- Any other character belongs to it, or begins one. -/
theorem followed_modifyHead {pieces : List (List Char)} (pieces_ne : pieces ≠ []) :
    f.followed (pieces.modifyHead (c :: ·)) = (f.add [c] false).followed pieces := by
  obtain ⟨first, rest, rfl⟩ := List.exists_cons_of_ne_nil pieces_ne
  cases under : f.current with
  | none => simp [followed, add, under, filled, unquoted]
  | some field => simp [followed, add, under, unquoted]

/-- What a character of a text that is parted does, and whether a blank was the last separator. -/
def part (separators : List Char) : Fields × Bool → Char → Fields × Bool :=
  fun (f, blankBefore) c =>
    if !separators.contains c then (f.add [c] false, false)
    else if f.isStrict then ((f.add [] true).close, false)
    else if f.current.isSome then (f.close, isBlankChar c)
    else if isBlankChar c then (f, blankBefore)
    else if blankBefore then (f, false)
    else ((f.add [] true).close, false)

theorem addParted_eq (separators : List Char) (f : Fields) (cs : List Char) :
    f.addParted separators cs =
      { (cs.foldl (part separators) (f, false)).1 with isStrict := false } :=
  rfl

theorem part_of_not_mem (other : c ∉ separators) (blankBefore : Bool) :
    part separators (f, blankBefore) c = (f.add [c] false, false) := by
  simp [part, other]

theorem exists_part_of_blank (lax : f.isStrict = false) (mem : c ∈ separators)
    (blank : isBlankChar c = true) (blankBefore : Bool) :
    ∃ blankNow, part separators (f, blankBefore) c = (f.close, blankNow) := by
  cases under : f.current <;> simp [part, close, mem, lax, blank, under]

theorem toList_foldl_part (lax : f.isStrict = false)
    (blank : ∀ c ∈ separators, isBlankChar c = true) (cs : List Char)
    (blankBefore : Bool) :
    (cs.foldl (part separators) (f, blankBefore)).1.toList =
      f.followed (cs.splitOnP separators.contains) := by
  induction cs generalizing f blankBefore with
  | nil =>
    cases under : f.current <;> simp [toList, close, followed, filled, unquoted, under]
  | cons c cs ih =>
    rw [List.foldl_cons, List.splitOnP_cons_eq_if_modifyHead]
    split
    · next inside =>
      have mem := List.contains_iff_mem.mp inside
      obtain ⟨blankNow, ended⟩ := exists_part_of_blank lax mem (blank c mem) blankBefore
      have lax' : f.close.isStrict = false := by
        cases under : f.current <;> simp [close, under, lax]
      rw [ended, followed_nil_cons, ih lax']
    · next other =>
      rw [part_of_not_mem (fun mem => other (List.contains_iff_mem.mpr mem)),
        followed_modifyHead (List.splitOnP_ne_nil _ _), ih]
      simp [add, lax]

/-- Fields that do not end at every separator are parted at rows of blanks. -/
theorem toList_addParted (lax : f.isStrict = false)
    (blank : ∀ c ∈ separators, isBlankChar c = true) (cs : List Char) :
    (f.addParted separators cs).toList = f.followed (cs.splitOnP separators.contains) := by
  rw [addParted_eq, ← toList_foldl_part lax blank cs false]
  generalize (cs.foldl (part separators) (f, false)).1 = parted
  cases under : parted.current <;> simp [toList, close, under]

/-- Words with separators between them are the pieces again. -/
theorem splitOnP_intercalate (mem : c ∈ separators) {word : List Char} {words : List (List Char)}
    (whole : ∀ word' ∈ word :: words, ∀ d ∈ word', d ∉ separators) :
    ([c].intercalate (word :: words)).splitOnP separators.contains = word :: words := by
  induction words generalizing word with
  | nil =>
    have alone := List.splitOnP_eq_singleton (p := separators.contains) fun d inside => by
      simpa using whole word List.mem_cons_self d inside
    simpa [List.intercalate] using alone
  | cons next words ih =>
    obtain ⟨first, rest⟩ := List.forall_mem_cons.mp whole
    have alone := List.splitOnP_eq_singleton (p := separators.contains) fun d inside => by
      simpa using first d inside
    rw [List.intercalate_cons_cons, List.append_assoc, List.singleton_append,
      List.splitOnP_append_cons _ _ (List.contains_iff_mem.mpr mem), alone, ih rest]
    rfl

/-- So they are fields again. -/
theorem toList_addParted_intercalate (blank : ∀ c ∈ separators, isBlankChar c = true)
    (mem : c ∈ separators) {words : List (List Char)} (filled_words : ∀ word ∈ words, word ≠ [])
    (whole : ∀ word ∈ words, ∀ d ∈ word, d ∉ separators) :
    (empty.addParted separators ([c].intercalate words)).toList = words.map unquoted := by
  rw [toList_addParted rfl blank]
  cases words with
  | nil => rfl
  | cons word words =>
    rw [splitOnP_intercalate mem whole]
    change (List.filter _ _).map unquoted = _
    rw [List.filter_eq_self.mpr fun word' mem => by simpa using filled_words word' mem]

end Mender.Shell.Fields
