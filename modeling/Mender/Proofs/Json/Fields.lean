import Mathlib
import Mender.Json.Basic

/-!
# Fields of objects

A key may be repeated in an object, and then its last field counts. Objects whose keys are
distinct lose nothing when their fields are put in key order. A field that is read as a plain
value spells that value and no other.
-/

namespace Mender.Json

section Values

theorem nat?_eq_some_iff {j : Json} {n : Nat} : j.nat? = some n ↔ j = .nat n := by
  constructor
  · intro h
    cases j <;> try cases h
    next numeral =>
    obtain ⟨negative, whole, fraction, exponent⟩ := numeral
    rw [nat?, Numeral.nat?] at h
    split at h
    · cases h
    · next plain =>
      obtain ⟨⟨rfl, rfl⟩, rfl⟩ : (negative = false ∧ fraction = []) ∧ exponent = none := by
        simpa using plain
      cases h
      rfl
  · rintro rfl
    rfl

theorem text?_eq_some_iff {j : Json} {s : String} : j.text? = some s ↔ j = .text s := by
  cases j <;> simp [text?, text]

theorem bool?_eq_some_iff {j : Json} {b : Bool} : j.bool? = some b ↔ j = .bool b := by
  cases j <;> simp [bool?]

end Values

/-- The last field of the key in an object has the value. -/
def IsField (key : String) (j value : Json) : Prop :=
  ∃ ahead behind, j = .object (ahead ++ (some key, value) :: behind) ∧
    ∀ field ∈ behind, field.1 ≠ some key

theorem field?_eq_some_iff {key : String} {j value : Json} :
    j.field? key = some value ↔ IsField key j value := by
  constructor
  · intro h
    cases j <;> try cases h
    next fields =>
    obtain ⟨⟨name, _⟩, found, rfl⟩ := Option.map_eq_some_iff.mp h
    obtain ⟨same, behind, ahead, parts, other⟩ := List.find?_eq_some_iff_append.mp found
    rw [List.reverse_eq_append_iff, List.reverse_cons, List.append_assoc] at parts
    obtain rfl : name = some key := by simpa using same
    refine ⟨ahead.reverse, behind.reverse, by rw [parts]; rfl, ?_⟩
    intro field mem
    simpa using other field (List.mem_reverse.mp mem)
  · rintro ⟨ahead, behind, rfl, other⟩
    have later : behind.reverse.find? (fun field => decide (field.1 = some key)) = none := by
      simpa using other
    simp [field?, List.find?_append, later]

/-- What stands in an object around a field that is the last one of its key. -/
structure Surroundings (key : String) where
  ahead : List (String × Json)
  behind : List (String × Json)
  behind_ne : ∀ field ∈ behind, field.1 ≠ key

/-- The object with the field in these surroundings. -/
def Surroundings.object {key : String} (s : Surroundings key) (value : Json) : Json :=
  .record (s.ahead ++ (key, value) :: s.behind)

theorem Surroundings.field?_object {key : String} (s : Surroundings key) (value : Json) :
    (s.object value).field? key = some value := by
  rw [field?_eq_some_iff]
  refine ⟨s.ahead.map _, s.behind.map _, by rw [object, record, List.map_append]; rfl, ?_⟩
  intro field mem
  obtain ⟨other, held, rfl⟩ := List.mem_map.mp mem
  simpa using s.behind_ne other held

section Order

theorem keyBefore_iff {a b : String} : keyBefore a b = true ↔ a < b := by
  rw [keyBefore, decide_eq_true_eq, String.lt_iff]

variable {α : Type} (name : α → String) (value : α → Json)

/-- The fields of items, each under its name. -/
def fieldsOf (items : List α) : List (String × Json) :=
  items.map fun item => (name item, value item)

variable {name}

/-- A field with a new key is put between those with lesser and those with greater keys. -/
theorem exists_insertField {item : α} {items : List α} (fresh : ∀ b ∈ items, name b ≠ name item)
    (ordered : items.Pairwise fun a b => name a < name b) :
    ∃ more : List α, insertField (name item) (value item) (fieldsOf name value items) =
        fieldsOf name value more ∧
      more.Perm (item :: items) ∧ more.Pairwise fun a b => name a < name b := by
  induction items with
  | nil => exact ⟨[item], rfl, .refl _, List.pairwise_singleton _ _⟩
  | cons b items ih =>
    obtain ⟨other, fresh⟩ := List.forall_mem_cons.mp fresh
    obtain ⟨least, later⟩ := List.pairwise_cons.mp ordered
    rw [fieldsOf, List.map_cons, insertField, if_neg other, ← fieldsOf]
    by_cases less : keyBefore (name item) (name b) = true
    · rw [if_pos less]
      have first : name item < name b := keyBefore_iff.mp less
      refine ⟨item :: b :: items, rfl, .refl _, List.pairwise_cons.mpr ⟨?_, ordered⟩⟩
      exact List.forall_mem_cons.mpr ⟨first, fun c mem => first.trans (least c mem)⟩
    · rw [if_neg less]
      obtain ⟨more, put, perm, sorted⟩ := ih fresh later
      have greater : name b < name item :=
        lt_of_le_of_ne (not_lt.mp (mt keyBefore_iff.mpr less)) other
      refine ⟨b :: more, by rw [put]; rfl, (perm.cons b).trans (.swap item b items), ?_⟩
      apply List.pairwise_cons.mpr ⟨?_, sorted⟩
      intro c mem
      obtain rfl | mem := List.mem_cons.mp (perm.mem_iff.mp mem)
      · exact greater
      · exact least c mem

theorem exists_foldl_insertField {items done : List α}
    (distinct : ((done ++ items).map name).Nodup)
    (ordered : done.Pairwise fun a b => name a < name b) :
    ∃ sorted : List α, (fieldsOf name value items).foldl
          (fun sorted field => insertField field.1 field.2 sorted) (fieldsOf name value done) =
        fieldsOf name value sorted ∧
      sorted.Perm (done ++ items) ∧ sorted.Pairwise fun a b => name a < name b := by
  induction items generalizing done with
  | nil => exact ⟨done, rfl, by simp, ordered⟩
  | cons item items ih =>
    have here : (done ++ item :: items).Perm (item :: done ++ items) := List.perm_middle
    have fresh : ∀ b ∈ done, name b ≠ name item := by
      rw [List.map_append, List.nodup_append] at distinct
      intro b mem
      exact distinct.2.2 _ (List.mem_map_of_mem mem) _ List.mem_cons_self
    obtain ⟨more, put, perm, sorted⟩ := exists_insertField value fresh ordered
    have moved : (more ++ items).Perm (done ++ item :: items) :=
      (perm.append_right items).trans here.symm
    obtain ⟨all, folded, same, ordered⟩ :=
      ih ((moved.map name).nodup_iff.mpr distinct) sorted
    refine ⟨all, ?_, same.trans moved, ordered⟩
    rw [← folded, ← put]
    rfl

/-- Fields with distinct keys come in key order, and none of them is lost. -/
theorem exists_sortedFields? {items : List α} (distinct : (items.map name).Nodup) :
    ∃ sorted : List α, (record (fieldsOf name value items)).sortedFields? =
        some (fieldsOf name value sorted) ∧
      sorted.Perm items ∧ sorted.Pairwise fun a b => name a < name b := by
  have none_done : (([] ++ items).map name).Nodup := distinct
  obtain ⟨sorted, folded, perm, ordered⟩ := exists_foldl_insertField value none_done .nil
  refine ⟨sorted, ?_, perm, ordered⟩
  rw [← folded, record, sortedFields?, List.foldl_map]
  rfl

end Order

end Mender.Json
