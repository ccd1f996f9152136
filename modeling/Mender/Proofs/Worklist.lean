import Mathlib
import Mender.Worklist

/-!
# The plan of a worklist

Items are told apart by their place in the list, so that two that are equal are still two.
`Worklist.Cuts` says which of them a plan keeps and in which order, without sorting: those
kept come before those dropped, by priority and, where that is the same, by place.
`Worklist.plan_cuts` says that every plan is such a cut.
-/

namespace Mender.Worklist

open scoped Mender.Path

/-- An item with its place in the list. -/
abbrev Placed := WorkItem × Nat

/-- Comes first: by a lower priority or, at the same one, by an earlier place. -/
def Precedes (a b : Placed) : Prop :=
  a.1.priority.toInt < b.1.priority.toInt ∨ (a.1.priority = b.1.priority ∧ a.2 < b.2)

/-- The items in two parts, of which the first is in order and comes before the other. -/
structure Cuts (items : List WorkItem) (kept dropped : List Placed) : Prop where
  all : (kept ++ dropped).Perm items.zipIdx
  ascending : kept.Pairwise Precedes
  first : ∀ a ∈ kept, ∀ b ∈ dropped, Precedes a b

/-- The comparison that a plan sorts by. -/
def before (a b : WorkItem) : Bool := a.priority ≤ b.priority

theorem before_iff {a b : WorkItem} : before a b = true ↔ a.priority.toInt ≤ b.priority.toInt := by
  rw [before, decide_eq_true_iff, Int64.le_iff_toInt_le]

theorem before_trans (a b c : WorkItem) (h : before a b = true) (h' : before b c = true) :
    before a c = true := by
  rw [before_iff] at *
  omega

theorem before_total (a b : WorkItem) : (before a b || before b a) = true := by
  rw [Bool.or_eq_true, before_iff, before_iff]
  omega

variable (items : List WorkItem)

theorem plan_none : plan items none = items.mergeSort before := rfl

theorem plan_some (cap : Nat) : plan items (some cap) = (plan items none).take cap := rfl

theorem plan_perm : (plan items none).Perm items := by
  rw [plan_none]
  exact List.mergeSort_perm items before

theorem plan_ascending :
    (plan items none).Pairwise fun a b => a.priority.toInt ≤ b.priority.toInt := by
  have sorted := List.pairwise_mergeSort before_trans before_total items
  exact sorted.imp fun h => before_iff.mp h

/-- The items of one priority keep their order, for their row is in order as it is. -/
theorem plan_filter (priority : Int64) :
    (plan items none).filter (·.priority = priority) = items.filter (·.priority = priority) := by
  have level : (items.filter (·.priority = priority)).Pairwise fun a b => before a b = true := by
    apply List.pairwise_of_forall_mem_list
    intro a at_a b at_b
    have same : a.priority = b.priority := by
      simp only [List.mem_filter, decide_eq_true_eq] at at_a at_b
      rw [at_a.2, at_b.2]
    rw [before_iff, same]
  have inside : (items.filter (·.priority = priority)).Sublist (plan items none) :=
    List.sublist_mergeSort before_trans before_total level List.filter_sublist
  have part := inside.filter (·.priority = priority)
  simp only [List.filter_filter, Bool.and_self] at part
  exact (part.eq_of_length ((plan_perm items).filter _).length_eq.symm).symm

/-- The items with their places, in the order of work. -/
def ranking : List Placed := items.zipIdx.mergeSort (List.zipIdxLE before)

theorem map_ranking : (ranking items).map (·.1) = plan items none := List.mergeSort_zipIdx

theorem ranking_perm : (ranking items).Perm items.zipIdx := List.mergeSort_perm _ _

theorem zipIdxLE_iff {a b : Placed} : List.zipIdxLE before a b = true ↔
    a.1.priority.toInt < b.1.priority.toInt ∨ (a.1.priority = b.1.priority ∧ a.2 ≤ b.2) := by
  rw [← Int64.toInt_inj]
  unfold List.zipIdxLE
  split_ifs with up down
  · rw [before_iff] at up down
    rw [decide_eq_true_iff]
    omega
  · rw [before_iff] at up down
    simp only [true_iff]
    omega
  · rw [before_iff] at up
    simp only [false_iff]
    omega

/-- No two items have one place. -/
theorem ranking_places : (ranking items).Pairwise fun a b => a.2 ≠ b.2 := by
  have places : (items.zipIdx.map (·.2)).Nodup := by
    rw [List.zipIdx_map_snd]
    exact List.nodup_range'
  have here : ((ranking items).map (·.2)).Nodup := ((ranking_perm items).map _).nodup_iff.mpr places
  exact List.pairwise_map.mp here

theorem ranking_sorted :
    (ranking items).Pairwise fun a b => List.zipIdxLE before a b = true :=
  List.pairwise_mergeSort (List.zipIdxLE_trans before_trans) (List.zipIdxLE_total before_total) _

theorem ranking_ascending : (ranking items).Pairwise Precedes := by
  refine ((ranking_sorted items).and (ranking_places items)).imp ?_
  rintro a b ⟨le, apart⟩
  rcases zipIdxLE_iff.mp le with lower | ⟨same, earlier⟩
  · exact .inl lower
  · exact .inr ⟨same, by omega⟩

theorem cuts_ranking (n : Nat) : Cuts items ((ranking items).take n) ((ranking items).drop n) := by
  have parts := ranking_ascending items
  rw [← List.take_append_drop n (ranking items), List.pairwise_append] at parts
  obtain ⟨ascending, -, first⟩ := parts
  refine ⟨?_, ascending, first⟩
  rw [List.take_append_drop]
  exact ranking_perm items

/-- What is kept in a cut is what the sorted list starts with. -/
theorem Cuts.kept_eq {items : List WorkItem} {kept dropped : List Placed}
    (h : Cuts items kept dropped) : kept = (ranking items).take kept.length := by
  obtain ⟨all, ascending, first⟩ := h
  have le_of_precedes {a b : Placed} (h : Precedes a b) : List.zipIdxLE before a b = true :=
    zipIdxLE_iff.mpr (h.imp_right fun ⟨same, earlier⟩ => ⟨same, earlier.le⟩)
  -- what is dropped is put in order behind what is kept
  let sorted := kept ++ dropped.mergeSort (List.zipIdxLE before)
  have perm : sorted.Perm (ranking items) :=
    ((List.mergeSort_perm dropped _).append_left kept).trans (all.trans (ranking_perm items).symm)
  have in_order : sorted.Pairwise fun a b => List.zipIdxLE before a b = true := by
    refine List.pairwise_append.mpr ⟨ascending.imp le_of_precedes, List.pairwise_mergeSort
      (List.zipIdxLE_trans before_trans) (List.zipIdxLE_total before_total) dropped, ?_⟩
    intro a at_a b at_b
    exact le_of_precedes (first a at_a b (List.mem_mergeSort.mp at_b))
  have same : sorted = ranking items := by
    refine perm.eq_of_pairwise ?_ in_order (ranking_sorted items)
    intro a b at_a at_b up down
    have place : a.2 = b.2 := by
      rw [zipIdxLE_iff, ← Int64.toInt_inj] at up down
      omega
    have item_a := List.mem_zipIdx_iff_getElem?.mp ((ranking_perm items).subset (perm.subset at_a))
    have item_b := List.mem_zipIdx_iff_getElem?.mp ((ranking_perm items).subset at_b)
    rw [place, item_b] at item_a
    exact Prod.ext (Option.some.inj item_a).symm place
  rw [← same, List.take_left]

/-- A plan that is planned again stays as it is. -/
theorem plan_plan (cap? : Option Nat) : plan (plan items cap?) cap? = plan items cap? := by
  have still {l : List WorkItem} (part : l.Sublist (plan items none)) : plan l none = l := by
    have sorted : (plan items none).Pairwise fun a b => before a b = true :=
      List.pairwise_mergeSort before_trans before_total items
    exact List.mergeSort_of_pairwise (sorted.sublist part)
  cases cap? with
  | none => exact still (List.Sublist.refl _)
  | some cap =>
    have part : (plan items (some cap)).Sublist (plan items none) := List.take_sublist cap _
    rw [plan_some (plan items (some cap)), still part, plan_some, List.take_take, Nat.min_self]

/-- A plan sorts by priority and leaves ties in the order listed. With a cap it is the one cut
of that size, so that what is dropped comes behind what is kept, and planning it again changes
nothing. -/
theorem plan_cuts :
    (plan items none).Perm items ∧
      (plan items none).Pairwise (fun a b => a.priority.toInt ≤ b.priority.toInt) ∧
      (∀ priority : Int64, (plan items none).filter (·.priority = priority) =
        items.filter (·.priority = priority)) ∧
      (∀ cap, plan items (some cap) = (plan items none).take (min cap items.length)) ∧
      (∀ cap, ∃ kept dropped, Cuts items kept dropped ∧ kept.length = min cap items.length ∧
        plan items (some cap) = kept.map (·.1)) ∧
      (∀ kept dropped, Cuts items kept dropped →
        plan items (some kept.length) = kept.map (·.1)) ∧
      ∀ cap?, plan (plan items cap?) cap? = plan items cap? := by
  have plan_take (cap : Nat) : plan items (some cap) = ((ranking items).take cap).map (·.1) := by
    rw [List.map_take, map_ranking, plan_some]
  refine ⟨plan_perm items, plan_ascending items, plan_filter items, ?_, ?_, ?_, plan_plan items⟩
  · intro cap
    rw [plan_some, ← (plan_perm items).length_eq, List.take_eq_take_min]
  · intro cap
    refine ⟨_, _, cuts_ranking items cap, ?_, plan_take cap⟩
    rw [List.length_take, (ranking_perm items).length_eq, List.length_zipIdx]
  · intro kept dropped cuts
    rw [plan_take, ← cuts.kept_eq]

/-- The lowest priority there is comes first, and of two items at the next one the first. -/
example :
    (plan [⟨"c", "c", 2⟩, ⟨"a", "a", -1⟩, ⟨"b", "b", -1⟩, ⟨"d", "d", Int64.minValue⟩]
      (some 2)).map (·.id) = ["d", "a"] := by
  cbv

end Mender.Worklist
