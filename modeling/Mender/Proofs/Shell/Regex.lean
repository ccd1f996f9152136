import Mathlib
import Mender.Shell.Regex

/-!
# What regular expressions match

`Reads` says between which places an expression reads. The places that `reach` computes are
exactly these, so a search answers with the leftmost match and with the longest one there. This is
about expressions that remember none of their parts.
-/

namespace Mender.Shell.Regex

/-- An expression reads what lies between two places. -/
inductive Reads (s : Subject) : Regex → Nat → Nat → Prop
  | empty {i : Nat} : Reads s .empty i i
  | among {negated : Bool} {ranges : List ByteClass.Range} {i : Nat}
      (here : s.matchesAt negated ranges i = true) : Reads s (.among negated ranges) i (i + 1)
  | edge {e : Edge} {i : Nat} (here : s.holds i e = true) : Reads s (.edge e) i i
  | follow {a b : Regex} {i j k : Nat} (first : Reads s a i j) (second : Reads s b j k) :
      Reads s (.follow a b) i k
  | left {a b : Regex} {i j : Nat} (first : Reads s a i j) : Reads s (.either a b) i j
  | right {a b : Regex} {i j : Nat} (second : Reads s b i j) : Reads s (.either a b) i j
  | done {a : Regex} {i : Nat} : Reads s (.many a) i i
  | more {a : Regex} {i j k : Nat} (once : Reads s a i j) (again : Reads s (.many a) j k) :
      Reads s (.many a) i k
  | group {n : Nat} {a : Regex} {i j : Nat} (inner : Reads s a i j) : Reads s (.group n a) i j

/-- Places of a text in their order. -/
structure Places (s : Subject) (is : List Nat) : Prop where
  rising : is.Pairwise (· < ·)
  inside : ∀ i ∈ is, i ≤ s.text.size

/-- The places that a relation leads to from others. -/
structure Reached (s : Subject) (leads : Nat → Nat → Prop) (is js : List Nat) : Prop where
  places : Places s js
  mem_iff : ∀ j, j ∈ js ↔ ∃ i ∈ is, leads i j

variable {s : Subject} {a b r : Regex} {is js ks : List Nat} {i j : Nat}

theorem lt_size_of_matchesAt {negated : Bool} {ranges : List ByteClass.Range}
    (here : s.matchesAt negated ranges i = true) : i < s.text.size := by
  by_contra beyond
  rw [Subject.matchesAt, Array.getElem?_eq_none (Nat.le_of_not_lt beyond)] at here
  cases here

theorem Places.filter (h : Places s is) (p : Nat → Bool) : Places s (is.filter p) :=
  ⟨h.rising.filter p, fun i mem => h.inside i (List.mem_of_mem_filter mem)⟩

theorem places_range (s : Subject) : Places s (List.range (s.text.size + 1)) :=
  ⟨List.pairwise_lt_range, fun _ mem => Nat.le_of_lt_succ (List.mem_range.mp mem)⟩

theorem places_singleton (inside : i ≤ s.text.size) : Places s [i] :=
  ⟨List.pairwise_singleton _ _, fun _ mem => List.mem_singleton.mp mem ▸ inside⟩

theorem Reads.le (h : Reads s r i j) : i ≤ j := by
  induction h with
  | among => exact Nat.le_succ _
  | follow _ _ ih ih' | more _ _ ih ih' => exact ih.trans ih'
  | left _ ih | right _ ih | group _ ih => exact ih
  | empty | edge | done => exact le_rfl

theorem Reads.le_size (h : Reads s r i j) (inside : i ≤ s.text.size) : j ≤ s.text.size := by
  induction h with
  | among here => exact lt_size_of_matchesAt here
  | follow _ _ ih ih' | more _ _ ih ih' => exact ih' (ih inside)
  | left _ ih | right _ ih | group _ ih => exact ih inside
  | empty | edge | done => exact inside

theorem reads_many_iff : Reads s (.many a) i j ↔ Relation.ReflTransGen (Reads s a) i j := by
  constructor
  · intro h
    generalize many : Regex.many a = r at h
    induction h with
    | done => exact .refl
    | more once _ _ ih =>
      cases many
      exact .head once (ih rfl)
    | _ => cases many
  · intro h
    induction h using Relation.ReflTransGen.head_induction_on with
    | refl => exact .done
    | head once _ ih => exact .more once ih

section Union

theorem mem_union : j ∈ union is js ↔ j ∈ is ∨ j ∈ js := by
  fun_induction union is js with
  | case1 bs => simp
  | case2 as => simp
  | case3 a as b bs less ih => simp [ih, or_assoc]
  | case4 a as b bs _ less ih => simp [ih, or_left_comm, or_assoc]
  | case5 a as b bs no_less no_more ih =>
    obtain rfl : a = b := by omega
    rw [List.mem_cons, ih, List.mem_cons, List.mem_cons]
    tauto

theorem rising_union (rising : is.Pairwise (· < ·)) (rising' : js.Pairwise (· < ·)) :
    (union is js).Pairwise (· < ·) := by
  fun_induction union is js with
  | case1 bs => exact rising'
  | case2 as => exact rising
  | case3 a as b bs less ih =>
    obtain ⟨first, rising⟩ := List.pairwise_cons.mp rising
    refine List.pairwise_cons.mpr ⟨fun c mem => ?_, ih rising rising'⟩
    rcases mem_union.mp mem with mem | mem
    · exact first c mem
    · rcases List.mem_cons.mp mem with rfl | mem
      · exact less
      · exact less.trans ((List.pairwise_cons.mp rising').1 c mem)
  | case4 a as b bs _ less ih =>
    obtain ⟨first, rising'⟩ := List.pairwise_cons.mp rising'
    refine List.pairwise_cons.mpr ⟨fun c mem => ?_, ih rising rising'⟩
    rcases mem_union.mp mem with mem | mem
    · rcases List.mem_cons.mp mem with rfl | mem
      · exact less
      · exact less.trans ((List.pairwise_cons.mp rising).1 c mem)
    · exact first c mem
  | case5 a as b bs no_less no_more ih =>
    obtain rfl : a = b := by omega
    obtain ⟨first, rising⟩ := List.pairwise_cons.mp rising
    obtain ⟨first', rising'⟩ := List.pairwise_cons.mp rising'
    refine List.pairwise_cons.mpr ⟨fun c mem => ?_, ih rising rising'⟩
    exact (mem_union.mp mem).elim (first c) (first' c)

end Union

section Runs

variable {negated : Bool} {ranges : List ByteClass.Range}

/-- A run of characters ends where it starts or goes on behind the first of them. -/
theorem reads_run_iff : Reads s (.many (.among negated ranges)) i j ↔
    j = i ∨ s.matchesAt negated ranges i = true ∧
      Reads s (.many (.among negated ranges)) (i + 1) j := by
  constructor
  · intro h
    cases h with
    | done => exact .inl rfl
    | more once again =>
      cases once with
      | among here => exact .inr ⟨here, again⟩
  · rintro (rfl | ⟨here, again⟩)
    · exact .done
    · exact .more (.among here) again

theorem dropWhile_le_eq_self (behind : ∀ k ∈ is, i < k) : is.dropWhile (· ≤ i) = is := by
  cases is with
  | nil => rfl
  | cons k is =>
    have past := behind k List.mem_cons_self
    exact List.dropWhile_cons_of_neg (by simpa using past)

theorem mem_dropWhile_le_iff (rising : is.Pairwise (· < ·)) :
    j ∈ is.dropWhile (· ≤ i) ↔ j ∈ is ∧ i < j := by
  induction is with
  | nil => simp
  | cons k is ih =>
    obtain ⟨first, rising⟩ := List.pairwise_cons.mp rising
    by_cases past : k ≤ i
    · rw [List.dropWhile_cons_of_pos (by simpa using past), ih rising, List.mem_cons]
      refine and_congr_left fun beyond => (or_iff_right ?_).symm
      exact fun same => absurd beyond (by omega)
    · have behind : ∀ j ∈ k :: is, i < j := by
        intro j mem
        rcases List.mem_cons.mp mem with rfl | mem
        · exact Nat.lt_of_not_le past
        · exact (Nat.lt_of_not_le past).trans (first j mem)
      rw [dropWhile_le_eq_self behind]
      exact (and_iff_left_of_imp (behind j)).symm

/-- A run that does not go on has no places but the one that it starts at. -/
theorem Reached.stop (blocked : ¬s.matchesAt negated ranges i = true) (places : Places s (i :: is))
    (h : Reached s (Reads s (.many (.among negated ranges))) is js) :
    Reached s (Reads s (.many (.among negated ranges))) (i :: is) (i :: js) := by
  obtain ⟨first, -⟩ := List.pairwise_cons.mp places.rising
  refine ⟨⟨List.pairwise_cons.mpr ⟨fun j mem => ?_, h.places.rising⟩, ?_⟩, fun j => ?_⟩
  · obtain ⟨k, mem, led⟩ := (h.mem_iff j).mp mem
    exact (first k mem).trans_le led.le
  · exact List.forall_mem_cons.mpr ⟨places.inside i List.mem_cons_self, h.places.inside⟩
  · rw [List.mem_cons, h.mem_iff]
    simp only [List.mem_cons, exists_eq_or_imp]
    refine or_congr_left ?_
    rw [reads_run_iff]
    exact (or_iff_left fun goes => blocked goes.1).symm

/-- A run that goes on takes over from one that starts at its next place. -/
theorem Reached.pass (here : s.matchesAt negated ranges i = true) (places : Places s (i :: is))
    (h : Reached s (Reads s (.many (.among negated ranges)))
      ((i + 1) :: is.dropWhile (· ≤ i + 1)) js) :
    Reached s (Reads s (.many (.among negated ranges))) (i :: is) (i :: js) := by
  obtain ⟨first, rising⟩ := List.pairwise_cons.mp places.rising
  refine ⟨⟨List.pairwise_cons.mpr ⟨fun j mem => ?_, h.places.rising⟩, ?_⟩, fun j => ?_⟩
  · obtain ⟨k, mem, led⟩ := (h.mem_iff j).mp mem
    rcases List.mem_cons.mp mem with rfl | mem
    · exact Nat.lt_of_succ_le led.le
    · exact (first k (List.dropWhile_subset _ mem)).trans_le led.le
  · exact List.forall_mem_cons.mpr ⟨places.inside i List.mem_cons_self, h.places.inside⟩
  · rw [List.mem_cons, h.mem_iff]
    simp only [List.mem_cons, exists_eq_or_imp, mem_dropWhile_le_iff rising]
    rw [reads_run_iff (i := i), or_assoc]
    refine or_congr_right ?_
    constructor
    · rintro (led | ⟨k, ⟨mem, -⟩, led⟩)
      · exact .inl ⟨here, led⟩
      · exact .inr ⟨k, mem, led⟩
    · rintro (⟨-, led⟩ | ⟨k, mem, led⟩)
      · exact .inl led
      · rcases Nat.eq_or_lt_of_le (Nat.succ_le_of_lt (first k mem)) with rfl | beyond
        · exact .inl led
        · exact .inr ⟨k, ⟨mem, beyond⟩, led⟩

/-- From the place of a run under way, and from other starts behind it, all places are found that
runs lead to. Every start costs two steps and every character that is passed one. -/
theorem reached_runsFrom {budget : Nat} {starts : List Nat} (here : Option Nat) (low : Nat)
    (places : Places s (here.toList ++ starts)) (lowest : ∀ i ∈ here.toList ++ starts, low ≤ i)
    (enough : 2 * starts.length + (s.text.size - low) + here.toList.length ≤ budget) :
    Reached s (Reads s (.many (.among negated ranges))) (here.toList ++ starts)
      (here.toList ++ runsFrom s negated ranges budget here starts) := by
  fun_induction runsFrom s negated ranges budget here starts generalizing low with
  | case1 here starts =>
    obtain rfl : starts = [] := List.eq_nil_of_length_eq_zero (by omega)
    obtain rfl : here = none := by
      cases here with
      | none => rfl
      | some i => simp at enough
    exact ⟨places, by simp⟩
  | case2 budget i starts ih =>
    refine ih i places (fun j mem => ?_) ?_
    · rcases List.mem_cons.mp mem with rfl | mem
      · exact le_rfl
      · exact ((List.pairwise_cons.mp places.rising).1 j mem).le
    · have above := lowest i List.mem_cons_self
      simp only [List.length_cons, Option.toList_none, Option.toList_some, List.length_nil]
        at enough ⊢
      omega
  | case3 => exact ⟨places, by simp⟩
  | case4 budget i starts kept here =>
    rename_i ih
    obtain ⟨first, rising⟩ := List.pairwise_cons.mp places.rising
    have all : kept = starts := dropWhile_le_eq_self first
    rw [all] at ih ⊢
    have inside := lt_size_of_matchesAt here
    refine .pass here places (ih (i + 1) ⟨?_, ?_⟩ ?_ ?_)
    · refine List.pairwise_cons.mpr ⟨fun k mem => ?_, rising.sublist (List.dropWhile_sublist _)⟩
      exact ((mem_dropWhile_le_iff rising).mp mem).2
    · refine List.forall_mem_cons.mpr ⟨inside, fun k mem => ?_⟩
      exact places.inside k (List.mem_cons_of_mem _ (List.dropWhile_subset _ mem))
    · refine List.forall_mem_cons.mpr ⟨le_rfl, fun k mem => ?_⟩
      exact ((mem_dropWhile_le_iff rising).mp mem).2.le
    · have above := lowest i List.mem_cons_self
      have fewer := (List.dropWhile_sublist (l := starts) fun k => decide (k ≤ i + 1)).length_le
      simp only [Option.toList_some, List.length_cons, List.length_nil] at enough ⊢
      omega
  | case5 budget i starts kept blocked =>
    rename_i ih
    obtain ⟨first, rising⟩ := List.pairwise_cons.mp places.rising
    have all : kept = starts := dropWhile_le_eq_self first
    rw [all] at ih ⊢
    refine .stop blocked places (ih low ⟨rising, ?_⟩ ?_ ?_)
    · exact fun k mem => places.inside k (List.mem_cons_of_mem _ mem)
    · exact fun k mem => lowest k (List.mem_cons_of_mem _ mem)
    · simp only [Option.toList_some, Option.toList_none, List.length_cons, List.length_nil]
        at enough ⊢
      omega

end Runs

section Closure

variable {leads : Nat → Nat → Prop} {step : List Nat → List Nat} {seen : Array Bool}
  {fresh waiting : List Nat}

/-- What has been seen once other places are seen, too. -/
def marked (seen : Array Bool) (fresh : List Nat) : Array Bool :=
  fresh.foldl (fun seen i => seen.setIfInBounds i true) seen

theorem size_marked : (marked seen fresh).size = seen.size := by
  induction fresh generalizing seen with
  | nil => rfl
  | cons i fresh ih => exact ih.trans (Array.size_setIfInBounds ..)

theorem getElem?_marked :
    (marked seen fresh)[j]? = if j ∈ fresh ∧ j < seen.size then some true else seen[j]? := by
  induction fresh generalizing seen with
  | nil => simp [marked]
  | cons i fresh ih =>
    have first : marked seen (i :: fresh) = marked (seen.setIfInBounds i true) fresh := rfl
    rw [first, ih, Array.size_setIfInBounds, Array.getElem?_setIfInBounds]
    by_cases same : i = j
    · subst same
      by_cases inside : i < seen.size <;> simp [inside]
    · simp [same, Ne.symm same]

/-- The places that have not been seen. -/
def unseen (seen : Array Bool) : Finset Nat :=
  (Finset.range seen.size).filter fun i => seen[i]? = some false

theorem mem_unseen_iff : i ∈ unseen seen ↔ seen[i]? = some false := by
  rw [unseen, Finset.mem_filter, Finset.mem_range]
  refine and_iff_right_of_imp fun free => ?_
  exact (Array.getElem?_eq_some_iff.mp free).1

/-- Whatever is seen for the first time makes fewer places unseen. -/
theorem card_unseen_marked_lt (free : ∀ i ∈ fresh, seen[i]? = some false) (some_fresh : fresh ≠ []) :
    (unseen (marked seen fresh)).card < (unseen seen).card := by
  obtain ⟨i, mem⟩ := List.exists_mem_of_ne_nil _ some_fresh
  refine Finset.card_lt_card (Finset.ssubset_iff_of_subset ?_ |>.mpr ⟨i, ?_, ?_⟩)
  · intro j left
    rw [mem_unseen_iff, getElem?_marked] at left
    rw [mem_unseen_iff]
    split at left
    · cases left
    · exact left
  · exact mem_unseen_iff.mpr (free i mem)
  · have inside := (Array.getElem?_eq_some_iff.mp (free i mem)).1
    rw [mem_unseen_iff, getElem?_marked, if_pos ⟨mem, inside⟩]
    exact nofun

/-- Between two rounds of a closure: what the relation leads to from what was seen has been seen or
waits. -/
structure Round (s : Subject) (leads : Nat → Nat → Prop) (seen : Array Bool)
    (waiting : List Nat) : Prop where
  whole : seen.size = s.text.size + 1
  places : Places s waiting
  closed : ∀ i j, seen[i]? = some true → leads i j → seen[j]? = some true ∨ j ∈ waiting

/-- The place is seen sooner or later. -/
def Ahead (leads : Nat → Nat → Prop) (seen : Array Bool) (waiting : List Nat) (j : Nat) : Prop :=
  ∃ i, (seen[i]? = some true ∨ i ∈ waiting) ∧ Relation.ReflTransGen leads i j

theorem Round.ahead_iff (round : Round s leads seen []) :
    Ahead leads seen [] j ↔ seen[j]? = some true := by
  constructor
  · rintro ⟨i, seen_first | ⟨⟨⟩⟩, led⟩
    induction led with
    | refl => exact seen_first
    | tail _ once ih => exact (round.closed _ _ ih once).resolve_right List.not_mem_nil
  · exact fun seen_last => ⟨j, .inl seen_last, .refl⟩

theorem Round.seen_or_new (round : Round s leads seen waiting) (mem : i ∈ waiting) :
    seen[i]? = some true ∨ seen[i]? = some false := by
  have inside : i < seen.size := round.whole ▸ Nat.lt_succ_of_le (round.places.inside i mem)
  rw [Array.getElem?_eq_getElem inside]
  cases seen[i] with
  | true => exact .inl rfl
  | false => exact .inr rfl

/-- A round without new places is the last. -/
theorem Round.last (round : Round s leads seen waiting)
    (old : ∀ i ∈ waiting, seen[i]? ≠ some false) :
    Round s leads seen [] ∧ ∀ j, Ahead leads seen [] j ↔ Ahead leads seen waiting j := by
  have seen_before {i : Nat} (mem : i ∈ waiting) : seen[i]? = some true :=
    (round.seen_or_new mem).resolve_right (old i mem)
  refine ⟨⟨round.whole, ⟨.nil, nofun⟩, fun i j seen_first once => .inl ?_⟩, fun j => ?_⟩
  · exact (round.closed i j seen_first once).elim id seen_before
  · constructor
    · rintro ⟨i, seen_first | ⟨⟨⟩⟩, led⟩
      exact ⟨i, .inl seen_first, led⟩
    · rintro ⟨i, seen_first | mem, led⟩
      · exact ⟨i, .inl seen_first, led⟩
      · exact ⟨i, .inl (seen_before mem), led⟩

/-- In any other round the new places are seen, and those that they lead to wait. -/
theorem Round.next (round : Round s leads seen waiting)
    (steps : ∀ is, Places s is → Reached s leads is (step is))
    (new : ∀ i, i ∈ fresh ↔ i ∈ waiting ∧ seen[i]? = some false) (places : Places s fresh) :
    Round s leads (marked seen fresh) (step fresh) ∧
      ∀ j, Ahead leads (marked seen fresh) (step fresh) j ↔ Ahead leads seen waiting j := by
  have seen_iff {i : Nat} :
      (marked seen fresh)[i]? = some true ↔ i ∈ fresh ∨ seen[i]? = some true := by
    rw [getElem?_marked]
    split
    · next marked_now => exact iff_of_true rfl (.inl marked_now.1)
    · next not_now =>
      refine (or_iff_right fun mem => not_now ⟨mem, ?_⟩).symm
      exact (Array.getElem?_eq_some_iff.mp ((new _).mp mem).2).1
  have now_seen {i : Nat} (mem : i ∈ waiting) : (marked seen fresh)[i]? = some true := by
    refine seen_iff.mpr ?_
    rcases round.seen_or_new mem with seen_before | free
    · exact .inr seen_before
    · exact .inl ((new i).mpr ⟨mem, free⟩)
  have led := steps fresh places
  refine ⟨⟨size_marked.trans round.whole, led.places, fun i j seen_first once => ?_⟩, fun j => ?_⟩
  · rcases seen_iff.mp seen_first with mem | seen_before
    · exact .inr ((led.mem_iff j).mpr ⟨i, mem, once⟩)
    · refine .inl ((round.closed i j seen_before once).elim (fun h => ?_) now_seen)
      exact seen_iff.mpr (.inr h)
  · constructor
    · rintro ⟨i, seen_first | mem, on⟩
      · refine ⟨i, (seen_iff.mp seen_first).symm.imp_right fun mem => ?_, on⟩
        exact ((new i).mp mem).1
      · obtain ⟨k, mem, once⟩ := (led.mem_iff i).mp mem
        exact ⟨k, .inr ((new k).mp mem).1, .head once on⟩
    · rintro ⟨i, seen_first | mem, on⟩
      · exact ⟨i, .inl (seen_iff.mpr (.inr seen_first)), on⟩
      · exact ⟨i, .inl (now_seen mem), on⟩

/-- What a closure finds is what the relation leads to from what waits. Every round but the last
sees a place for the first time. -/
theorem closure_eq_some_true_iff {budget : Nat} (round : Round s leads seen waiting)
    (steps : ∀ is, Places s is → Reached s leads is (step is))
    (enough : waiting ≠ [] → (unseen seen).card < budget) :
    (closure step seen budget waiting)[j]? = some true ↔ Ahead leads seen waiting j := by
  induction budget generalizing seen waiting with
  | zero =>
    obtain rfl : waiting = [] := by
      by_contra some_waiting
      exact Nat.not_lt_zero _ (enough some_waiting)
    exact round.ahead_iff.symm
  | succ budget ih =>
    cases waiting with
    | nil => exact round.ahead_iff.symm
    | cons first more =>
      rw [closure]
      · generalize new : (first :: more).filter (fun i => decide (seen[i]? = some false)) = fresh
        have mem_iff (i : Nat) : i ∈ fresh ↔ i ∈ first :: more ∧ seen[i]? = some false := by
          rw [← new, List.mem_filter, decide_eq_true_eq]
        change (closure step (marked seen fresh) budget _)[j]? = some true ↔ _
        by_cases some_new : fresh = []
        · subst some_new
          obtain ⟨last, same⟩ := round.last fun i mem free =>
            List.not_mem_nil ((mem_iff i).mpr ⟨mem, free⟩)
          rw [← same]
          exact ih last fun h => absurd rfl h
        · rw [if_neg (by simpa using some_new)]
          obtain ⟨next, same⟩ := round.next steps mem_iff (new ▸ round.places.filter _)
          rw [← same]
          refine ih next fun _ => ?_
          have fewer := card_unseen_marked_lt (fun i mem => ((mem_iff i).mp mem).2) some_new
          have enough := enough (List.cons_ne_nil _ _)
          omega
      · exact nofun

end Closure

section Reach

/-- A repetition of anything but one character is found by a closure. -/
theorem reached_closure (places : Places s is)
    (steps : ∀ is, Places s is → Reached s (Reads s a) is (reach s a is)) :
    Reached s (Reads s (.many a)) is
      ((List.range (s.text.size + 1)).filter fun i =>
        (closure (reach s a) (Array.replicate (s.text.size + 1) false) (s.text.size + 2) is)[i]? =
          some true) := by
  refine ⟨(places_range s).filter _, fun j => ?_⟩
  have fresh (i : Nat) : (Array.replicate (s.text.size + 1) false)[i]? ≠ some true := by
    simp [Array.getElem?_replicate]
  have round : Round s (Reads s a) (Array.replicate (s.text.size + 1) false) is :=
    ⟨Array.size_replicate, places, fun i _ seen_first => absurd seen_first (fresh i)⟩
  have enough : (unseen (Array.replicate (s.text.size + 1) false)).card < s.text.size + 2 := by
    refine Nat.lt_succ_of_le ((Finset.card_filter_le _ _).trans ?_)
    rw [Finset.card_range, Array.size_replicate]
  have found := closure_eq_some_true_iff (j := j) round steps fun _ => enough
  rw [List.mem_filter, decide_eq_true_eq, found]
  constructor
  · rintro ⟨-, i, seen_first | mem, led⟩
    · exact absurd seen_first (fresh i)
    · exact ⟨i, mem, reads_many_iff.mpr led⟩
  · rintro ⟨i, mem, led⟩
    have inside := led.le_size (places.inside i mem)
    exact ⟨List.mem_range.mpr (Nat.lt_succ_of_le inside), i, .inr mem, reads_many_iff.mp led⟩

/-- From places in their order, exactly the places are found, in their order, that the expression
reads up to. -/
theorem reached_reach (no_back : r.hasBack = false) (places : Places s is) :
    Reached s (Reads s r) is (reach s r is) := by
  induction r generalizing is with
  | never => exact ⟨⟨.nil, nofun⟩, fun j => iff_of_false List.not_mem_nil nofun⟩
  | empty =>
    refine ⟨places, fun j => ⟨fun mem => ⟨j, mem, .empty⟩, ?_⟩⟩
    rintro ⟨_, mem, ⟨⟩⟩
    exact mem
  | among negated ranges =>
    have kept := places.filter (s.matchesAt negated ranges)
    refine ⟨⟨kept.rising.map _ fun _ _ => Nat.succ_lt_succ, fun j mem => ?_⟩, fun j => ?_⟩
    · obtain ⟨i, found, rfl⟩ := List.mem_map.mp mem
      exact lt_size_of_matchesAt (List.mem_filter.mp found).2
    · constructor
      · intro mem
        obtain ⟨i, found, rfl⟩ := List.mem_map.mp mem
        obtain ⟨mem, here⟩ := List.mem_filter.mp found
        exact ⟨i, mem, .among here⟩
      · rintro ⟨i, mem, ⟨⟩⟩
        next here => exact List.mem_map_of_mem (List.mem_filter.mpr ⟨mem, here⟩)
  | edge e =>
    refine ⟨places.filter _, fun j => ⟨fun mem => ?_, ?_⟩⟩
    · obtain ⟨mem, here⟩ := List.mem_filter.mp mem
      exact ⟨j, mem, .edge here⟩
    · rintro ⟨_, mem, ⟨⟩⟩
      next here => exact List.mem_filter.mpr ⟨mem, here⟩
  | follow a b ih ih' =>
    obtain ⟨no_first, no_second⟩ := Bool.or_eq_false_iff.mp no_back
    have first := ih no_first places
    have second := ih' no_second first.places
    refine ⟨second.places, fun k => ?_⟩
    rw [reach, second.mem_iff]
    constructor
    · rintro ⟨j, mem, led'⟩
      obtain ⟨i, mem, led⟩ := (first.mem_iff j).mp mem
      exact ⟨i, mem, .follow led led'⟩
    · rintro ⟨i, mem, ⟨⟩⟩
      next j led led' => exact ⟨j, (first.mem_iff j).mpr ⟨i, mem, led⟩, led'⟩
  | either a b ih ih' =>
    obtain ⟨no_first, no_second⟩ := Bool.or_eq_false_iff.mp no_back
    have first := ih no_first places
    have second := ih' no_second places
    refine ⟨⟨rising_union first.places.rising second.places.rising, fun j mem => ?_⟩, fun j => ?_⟩
    · exact (mem_union.mp mem).elim (first.places.inside j) (second.places.inside j)
    · rw [reach, mem_union, first.mem_iff, second.mem_iff]
      constructor
      · rintro (⟨i, mem, led⟩ | ⟨i, mem, led⟩)
        · exact ⟨i, mem, .left led⟩
        · exact ⟨i, mem, .right led⟩
      · rintro ⟨i, mem, ⟨⟩⟩
        · next led => exact .inl ⟨i, mem, led⟩
        · next led => exact .inr ⟨i, mem, led⟩
  | many a ih =>
    cases a with
    | among negated ranges =>
      refine reached_runsFrom none 0 places (fun _ _ => Nat.zero_le _) ?_
      simp only [Option.toList_none, List.length_nil]
      omega
    | _ => exact reached_closure places fun _ places => ih no_back places
  | group n a ih =>
    refine ⟨(ih no_back places).places, fun j => ?_⟩
    rw [reach, (ih no_back places).mem_iff]
    constructor
    · rintro ⟨i, mem, led⟩
      exact ⟨i, mem, .group led⟩
    · rintro ⟨i, mem, ⟨⟩⟩
      next led => exact ⟨i, mem, led⟩
  | back n => cases no_back

end Reach

section Search

variable {accepts : Nat → Nat → Bool} {start budget : Nat}

/-- Of the accepted matches from a place on, the one that starts first, and of those that start
there the longest. -/
structure LeftmostLongest (s : Subject) (r : Regex) (accepts : Nat → Nat → Bool)
    (start i j : Nat) : Prop where
  from_start : start ≤ i
  inside : i ≤ s.text.size
  reads : Reads s r i j
  accepted : accepts i j = true
  leftmost : ∀ i' j', start ≤ i' → i' < i → Reads s r i' j' → accepts i' j' = false
  longest : ∀ j', j < j' → Reads s r i j' → accepts i j' = false

/-- What a search for accepted matches answers. -/
inductive Answers (s : Subject) (r : Regex) (accepts : Nat → Nat → Bool) (start : Nat) :
    Option (Nat × Nat) → Prop
  | found {i j : Nat} (h : LeftmostLongest s r accepts start i j) :
      Answers s r accepts start (some (i, j))
  | nowhere (h : ∀ i j, start ≤ i → i ≤ s.text.size → Reads s r i j → accepts i j = false) :
      Answers s r accepts start none

/-- The ends of the matches that start at a place, the last one first. -/
theorem stopsAt_spec (no_back : r.hasBack = false) (inside : i ≤ s.text.size) :
    (r.stopsAt s i).Pairwise (· > ·) ∧ ∀ j, j ∈ r.stopsAt s i ↔ Reads s r i j := by
  have ends := reached_reach no_back (places_singleton inside)
  rw [stopsAt, if_neg (by simp [no_back])]
  refine ⟨List.pairwise_reverse.mpr ends.places.rising, fun j => ?_⟩
  rw [List.mem_reverse, ends.mem_iff]
  simp

theorem longest_of_find? (no_back : r.hasBack = false) (inside : i ≤ s.text.size)
    (found : (r.stopsAt s i).find? (accepts i) = some j) :
    Reads s r i j ∧ accepts i j = true ∧
      ∀ j', j < j' → Reads s r i j' → accepts i j' = false := by
  obtain ⟨falling, mem_iff⟩ := stopsAt_spec no_back inside
  obtain ⟨accepted, longer, shorter, parts, refused⟩ := List.find?_eq_some_iff_append.mp found
  refine ⟨(mem_iff j).mp (parts ▸ List.mem_append_right _ List.mem_cons_self), accepted,
    fun j' beyond reads => ?_⟩
  rw [parts] at falling
  have mem := (mem_iff j').mpr reads
  rw [parts] at mem
  rcases List.mem_append.mp mem with mem | mem
  · simpa using refused j' mem
  · have last := (List.pairwise_append.mp falling).2.1
    rcases List.mem_cons.mp mem with rfl | mem
    · exact absurd beyond (Nat.lt_irrefl _)
    · exact absurd beyond (Nat.lt_asymm ((List.pairwise_cons.mp last).1 j' mem))

/-- A search that may try every place from its start on finds the leftmost match, and the longest
one there. -/
theorem answers_search? (no_back : r.hasBack = false) (enough : s.text.size < start + budget) :
    Answers s r accepts start (r.search? s accepts budget start) := by
  induction budget generalizing start with
  | zero => exact .nowhere fun i j from_start inside => absurd enough (by omega)
  | succ budget ih =>
    rw [search?]
    split
    · next beyond => exact .nowhere fun i j from_start inside => absurd beyond (by omega)
    · next within =>
      have inside : start ≤ s.text.size := Nat.le_of_not_lt within
      split
      · next stop found =>
        obtain ⟨reads, accepted, longest⟩ := longest_of_find? no_back inside found
        refine .found ⟨le_rfl, inside, reads, accepted, fun i' j' from_start before => ?_, longest⟩
        exact absurd before (Nat.not_lt.mpr from_start)
      · next none_here =>
        have refused (j : Nat) (reads : Reads s r start j) : accepts start j = false := by
          have mem := ((stopsAt_spec no_back inside).2 j).mpr reads
          simpa using List.find?_eq_none.mp none_here j mem
        have more : s.text.size < start + 1 + budget := by omega
        have later := ih more
        generalize r.search? s accepts budget (start + 1) = answer at later
        cases later with
        | found h =>
          refine .found ⟨(Nat.le_succ _).trans h.from_start, h.inside, h.reads, h.accepted,
            fun i' j' from_start before reads => ?_, h.longest⟩
          rcases Nat.eq_or_lt_of_le from_start with rfl | behind
          · exact refused j' reads
          · exact h.leftmost i' j' behind before reads
        | nowhere h =>
          refine .nowhere fun i j from_start inside reads => ?_
          rcases Nat.eq_or_lt_of_le from_start with rfl | behind
          · exact refused j reads
          · exact h i j behind inside reads

theorem LeftmostLongest.start_le {i' j' : Nat} (h : LeftmostLongest s r accepts start i j)
    (h' : LeftmostLongest s r accepts start i' j') : i' ≤ i := by
  by_contra before
  have refused := h'.leftmost i j h.from_start (Nat.lt_of_not_le before) h.reads
  rw [h.accepted] at refused
  cases refused

theorem LeftmostLongest.stop_le {j' : Nat} (h : LeftmostLongest s r accepts start i j)
    (h' : LeftmostLongest s r accepts start i j') : j' ≤ j := by
  by_contra beyond
  have refused := h.longest j' (Nat.lt_of_not_le beyond) h'.reads
  rw [h'.accepted] at refused
  cases refused

/-- There is only one answer. -/
theorem Answers.unique {answer answer' : Option (Nat × Nat)}
    (h : Answers s r accepts start answer) (h' : Answers s r accepts start answer') :
    answer = answer' := by
  cases h with
  | found h =>
    cases h' with
    | found h' =>
      obtain rfl := Nat.le_antisymm (h'.start_le h) (h.start_le h')
      obtain rfl := Nat.le_antisymm (h'.stop_le h) (h.stop_le h')
      rfl
    | nowhere h' =>
      exact absurd h.accepted (by simp [h' _ _ h.from_start h.inside h.reads])
  | nowhere h =>
    cases h' with
    | found h' => exact absurd h'.accepted (by simp [h _ _ h'.from_start h'.inside h'.reads])
    | nowhere h' => rfl

theorem search?_eq_some_iff (no_back : r.hasBack = false)
    (enough : s.text.size < start + budget) :
    r.search? s accepts budget start = some (i, j) ↔ LeftmostLongest s r accepts start i j := by
  have answers : Answers s r accepts start (r.search? s accepts budget start) :=
    answers_search? no_back enough
  constructor
  · intro found
    rw [found] at answers
    cases answers with
    | found h => exact h
  · exact fun h => answers.unique (.found h)

theorem withParts_ends (r : Regex) (s : Subject) (i j : Nat) :
    (r.withParts s i j).start = i ∧ (r.withParts s i j).stop = j := by
  unfold withParts
  split
  · exact ⟨rfl, rfl⟩
  · split <;> exact ⟨rfl, rfl⟩

/-- The match that is found from a place on is the leftmost one, and the longest one there. -/
theorem answers_find? (no_back : r.hasBack = false) (start : Nat) :
    Answers s r (fun _ _ => true) start
      ((r.find? s start).map fun found => (found.start, found.stop)) := by
  have enough : s.text.size < start + (s.text.size + 1) := by omega
  have answers : Answers s r (fun _ _ => true) start
      (r.search? s (fun _ _ => true) (s.text.size + 1) start) := answers_search? no_back enough
  rw [find?]
  cases answered : r.search? s (fun _ _ => true) (s.text.size + 1) start with
  | none =>
    rw [answered] at answers
    exact answers
  | some ends =>
    obtain ⟨i, j⟩ := ends
    obtain ⟨first, last⟩ := withParts_ends r s i j
    rw [answered] at answers
    rw [Option.map_some, Option.map_some, first, last]
    exact answers

/-- Of two alternatives the one that reads more counts, and not the one that stands first. -/
example : (Regex.either (ofText ['a']) (ofText ['a', 'b'])).find?
    ⟨#['x', 'a', 'b'], false, false⟩ 0 = some ⟨1, 3, []⟩ := by
  cbv

/-- There is a match if the expression reads something between two places, be it nothing at one. -/
theorem isMatch_iff (no_back : r.hasBack = false) :
    r.isMatch s = true ↔ ∃ i j, i ≤ s.text.size ∧ Reads s r i j := by
  have all := reached_reach no_back (places_range s)
  rw [isMatch, if_neg (by simp [no_back]), Bool.not_eq_true', List.isEmpty_eq_false_iff_exists_mem]
  constructor
  · rintro ⟨j, mem⟩
    obtain ⟨i, mem, reads⟩ := (all.mem_iff j).mp mem
    exact ⟨i, j, Nat.le_of_lt_succ (List.mem_range.mp mem), reads⟩
  · rintro ⟨i, j, inside, reads⟩
    exact ⟨j, (all.mem_iff j).mpr ⟨i, List.mem_range.mpr (Nat.lt_succ_of_le inside), reads⟩⟩

end Search

end Mender.Shell.Regex
