import Mender.Path
import Mender.Proofs.Text.Search
import Mender.Proofs.Text.Utf8

/-!
# The directory that a path lies in

It is found on the bytes of the path alone. Its steps are the first ones of the path, and the
last name of the path is the only one that follows them.
-/

namespace Mender.Path

open Text

theorem ofText_injective : Function.Injective ofText := fun _ _ same =>
  Utf8.encode_injective (congrArg bytes same)

@[simp] theorem ofText_inj {text text' : String} : ofText text = ofText text' ↔ text = text' :=
  ofText_injective.eq_iff

theorem slash_mem_ofText {text : String} : slash ∈ (ofText text).bytes ↔ '/' ∈ text.toList :=
  Utf8.mem_encode_iff (by decide)

theorem dot_mem_ofText {text : String} : dot ∈ (ofText text).bytes ↔ '.' ∈ text.toList :=
  Utf8.mem_encode_iff (by decide)

theorem parts_snoc_slash (bs : Bytes) :
    (splitOn slash (bs ++ [slash])).filterMap Step.ofPart? =
      (splitOn slash bs).filterMap Step.ofPart? := by
  rw [splitOn_append]
  simp [splitOn, Step.ofPart?]

/-- The first part of a path that does not start at the root is a step. -/
theorem steps_ne_nil {path : Path} (relative : isAbsolute path = false)
    (nonempty : path.bytes ≠ []) : steps path ≠ [] := by
  have step (b : UInt8) (part : Bytes) : ∃ step, Step.ofPart? (b :: part) = some step := by
    unfold Step.ofPart?
    rw [if_neg (List.cons_ne_nil b part)]
    split
    · exact ⟨_, rfl⟩
    split <;> exact ⟨_, rfl⟩
  unfold isAbsolute at relative
  unfold steps
  obtain ⟨b, bs, bytes⟩ := List.exists_cons_of_ne_nil nonempty
  rw [bytes] at relative ⊢
  have ink : ¬b = slash := by simpa using relative
  rw [splitOn, if_neg ink]
  cases splitOn slash bs with
  | nil =>
    obtain ⟨first, taken⟩ := step b []
    simp [taken]
  | cons part rest =>
    obtain ⟨first, taken⟩ := step b part
    simp [taken]

/-- Slashes and dots that are dropped at the end of a path are steps that stay. -/
theorem exists_stays (bs : Bytes) :
    ∃ n, steps ⟨bs.reverse⟩ = steps ⟨(stripEnd bs).reverse⟩ ++ List.replicate n .stay := by
  unfold steps
  dsimp only
  fun_induction stripEnd bs with
  | case1 a b rest dropped ih =>
    obtain ⟨n, same⟩ := ih
    rcases Bool.or_eq_true_iff.mp dropped with slashed | dotted
    · obtain rfl := of_decide_eq_true slashed
      rw [List.reverse_cons, parts_snoc_slash]
      exact ⟨n, same⟩
    · obtain ⟨first, second⟩ := Bool.and_eq_true_iff.mp dotted
      obtain rfl := of_decide_eq_true first
      obtain rfl := of_decide_eq_true second
      have behind : (dot :: slash :: rest).reverse = rest.reverse ++ slash :: [dot] := by simp
      rw [List.reverse_cons, parts_snoc_slash] at same
      refine ⟨n + 1, ?_⟩
      rw [behind, splitOn_append, List.filterMap_append, same, List.replicate_succ',
        List.append_assoc]
      rfl
  | case2 | case3 => exact ⟨0, by simp⟩

theorem stripEnd_suffix (bs : Bytes) : stripEnd bs <:+ bs := by
  fun_induction stripEnd bs with
  | case1 a b rest _ ih => exact ih.trans (List.suffix_cons _ _)
  | case2 | case3 => exact List.suffix_refl _

theorem stripEnd_ne_nil {bs : Bytes} (nonempty : bs ≠ []) : stripEnd bs ≠ [] := by
  fun_induction stripEnd bs with
  | case1 a b rest _ ih => exact ih (List.cons_ne_nil _ _)
  | case2 => simp
  | case3 => exact nonempty

/-- A path in two parts: a last name, and what comes in front of it up to a slash. -/
theorem parts_of_lastPart? {path : Path} {name before : Bytes}
    (h : lastPart? path = some (name, before)) :
    stripEnd path.bytes.reverse = name ++ before ∧ name ≠ [] ∧ slash ∉ name ∧
      (before = [] ∨ ∃ rest, before = slash :: rest) := by
  simp only [lastPart?, Bool.or_eq_true, decide_eq_true_eq, Option.ite_none_left_eq_some, not_or,
    Option.some.injEq, Prod.mk.injEq] at h
  obtain ⟨⟨nonempty, inside⟩, rfl, rfl⟩ := h
  generalize stripEnd path.bytes.reverse = bs at *
  refine ⟨List.takeWhile_append_dropWhile.symm, ?_, ?_, ?_⟩
  · obtain ⟨b, bs, rfl⟩ := List.exists_cons_of_ne_nil nonempty
    have ink : b ≠ slash := by simpa using inside
    simp [ink]
  · intro mem
    simpa using List.mem_takeWhile_imp mem
  · cases left : bs.dropWhile (· ≠ slash) with
    | nil => exact .inl rfl
    | cons b rest =>
      have stop := List.head?_dropWhile_not (· ≠ slash) bs
      rw [left] at stop
      obtain rfl : b = slash := by simpa using stop
      exact .inr ⟨rest, rfl⟩

/-- A path takes the steps of what is in front of its last name, then the step of the name;
between the two and behind them it may stay. -/
theorem steps_of_lastPart? {path : Path} {name before : Bytes}
    (h : lastPart? path = some (name, before)) :
    ∃ m n, steps path = steps ⟨(stripEnd before).reverse⟩ ++
      (List.replicate m .stay ++ (Step.ofPart? name.reverse).toList ++ List.replicate n .stay) := by
  obtain ⟨parts, -, no_slash, kind⟩ := parts_of_lastPart? h
  obtain ⟨n, behind⟩ := exists_stays path.bytes.reverse
  obtain ⟨m, between⟩ := exists_stays before
  rw [List.reverse_reverse, parts, List.reverse_append] at behind
  have single : splitOn slash name.reverse = [name.reverse] :=
    splitOn_of_not_mem (by simpa using no_slash)
  have last : [name.reverse].filterMap Step.ofPart? = (Step.ofPart? name.reverse).toList := by
    cases taken : Step.ofPart? name.reverse <;> simp [taken]
  refine ⟨m, n, behind.trans ?_⟩
  rw [← List.append_assoc, ← List.append_assoc, ← between]
  congr 1
  unfold steps
  dsimp only
  rcases kind with rfl | ⟨rest, rfl⟩
  · rw [List.reverse_nil, List.nil_append, single, last]
    rfl
  · have slashed : (slash :: rest).reverse ++ name.reverse =
        rest.reverse ++ slash :: name.reverse := by
      simp
    rw [slashed, splitOn_append, List.filterMap_append, single, last, List.reverse_cons,
      parts_snoc_slash]

/-- The steps of the directory that a path lies in are the first of its own. -/
theorem steps_parent? {path parent : Path} (h : parent? path = some parent) :
    steps parent <+: steps path := by
  obtain ⟨⟨name, before⟩, parts, rfl⟩ := Option.map_eq_some_iff.mp h
  obtain ⟨m, n, whole⟩ := steps_of_lastPart? parts
  rw [whole]
  exact List.prefix_append _ _

/-- The first part of a path says whether it starts at the root. -/
theorem isAbsolute_of_front {path : Path} {front : Bytes} (nonempty : front ≠ [])
    (above : front <+: path.bytes) : isAbsolute path = decide (front.head? = some slash) := by
  obtain ⟨rest, text⟩ := above
  obtain ⟨b, bs, rfl⟩ := List.exists_cons_of_ne_nil nonempty
  rw [isAbsolute, ← text]
  rfl

/-- The directory that a path lies in starts where the path does. -/
theorem isAbsolute_parent? {path parent : Path} (h : parent? path = some parent) :
    isAbsolute parent = isAbsolute path := by
  obtain ⟨⟨name, before⟩, split, rfl⟩ := Option.map_eq_some_iff.mp h
  obtain ⟨parts, nonempty, no_slash, kind⟩ := parts_of_lastPart? split
  have inside := stripEnd_suffix path.bytes.reverse
  rw [parts] at inside
  rcases kind with rfl | ⟨rest, rfl⟩
  · -- a name alone is relative, and so is the empty path above it
    have whole : name.reverse <+: path.bytes := by
      simpa using List.reverse_prefix.mpr inside
    have relative : name.reverse.head? ≠ some slash := by
      intro slashed
      exact no_slash (List.mem_reverse.mp (List.mem_of_head? slashed))
    rw [isAbsolute_of_front (by simpa using nonempty) whole, decide_eq_false relative]
    simp [stripEnd, isAbsolute]
  · have above : (stripEnd (slash :: rest)).reverse <+: path.bytes := by
      have below :=
        ((stripEnd_suffix (slash :: rest)).trans (List.suffix_append name _)).trans inside
      simpa using List.reverse_prefix.mpr below
    have kept : (stripEnd (slash :: rest)).reverse ≠ [] := by
      simpa using stripEnd_ne_nil (List.cons_ne_nil slash rest)
    rw [isAbsolute_of_front kept above]
    simp [isAbsolute]

end Mender.Path
