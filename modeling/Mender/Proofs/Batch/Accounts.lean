import Mender.Batch
import Mender.Proofs.Repair.Outcome

/-!
# The account of a batch

The items of a batch are run one after another, each on what the items before it
have left. `Batch.run_accounts` says that the summary has one result for each of
them, that a result tells how the run of its own item ended, and that the counts
of the summary are those of its results.
-/

namespace Mender

namespace Repair

variable {σ : Type} {r : Repair σ}

/-- A run that ends well ends with the outcome of a history. -/
theorem exists_history_of_execute {path : Path} {dryRun : Bool} {s t : Session σ}
    {outcome : Outcome} (h : r.execute path dryRun s = (.ok outcome, t)) :
    ∃ history : History, outcome = history.outcome := by
  obtain ⟨_, _, _, course, -⟩ := course_of_execute h
  cases course with
  | finished _ _ filed => exact ⟨_, outcome_of_finish (filed [])⟩

end Repair

theorem History.clean_of_success {history : History} (success : history.outcome.success = true) :
    history.outcome.finalErrors = 0 ∧ history.outcome.finalTestFailures = 0 ∧
      1 ≤ history.outcome.iterations := by
  obtain ⟨last, at_last, errors, failures⟩ := (History.outcome_success_iff history).mp success
  refine ⟨?_, ?_, ?_⟩
  · rw [History.outcome_finalErrors, at_last]
    exact errors
  · rw [History.outcome_finalTestFailures, at_last]
    exact failures
  · have passed : 0 < history.length := List.length_pos_of_mem (List.mem_of_getLast? at_last)
    simp only [History.outcome, UInt32.size]
    omega

namespace ItemResult

/-- What a result tells about the run of an item. The counts are those of the last
pass as far as 64 bits with a sign reach, so that none of them is taken for the -1 of
a run that failed. -/
structure Tells (wording : Wording) (result : ItemResult) (item : WorkItem)
    (answer : Except Failure Outcome) : Prop where
  id_eq : result.id = item.id
  path_eq : result.path = item.path
  ended : ∀ outcome, answer = .ok outcome →
    result.success = outcome.success ∧ result.iterations = outcome.iterations ∧
      result.finalErrors = min (outcome.finalErrors : Int) (2 ^ 63 - 1) ∧
      result.finalTestFailures = min (outcome.finalTestFailures : Int) (2 ^ 63 - 1) ∧
      0 ≤ result.finalErrors ∧ 0 ≤ result.finalTestFailures ∧ result.error? = none
  failed : ∀ failure, answer = .error failure →
    result.success = false ∧ result.iterations = 0 ∧ result.finalErrors = -1 ∧
      result.finalTestFailures = -1 ∧
      result.error? = some (": ".intercalate (failure.contexts ++ [failure.cause.message wording]))
  error_iff_finalErrors : result.error? ≠ none ↔ result.finalErrors = -1
  finalErrors_iff : result.finalErrors = -1 ↔ result.finalTestFailures = -1
  clean_of_success : result.success = true →
    result.finalErrors = 0 ∧ result.finalTestFailures = 0 ∧ 1 ≤ result.iterations

theorem boundedCount_eq (n : Nat) : boundedCount n = min (n : Int) (2 ^ 63 - 1) := rfl

theorem boundedCount_nonneg (n : Nat) : 0 ≤ boundedCount n := by
  rw [boundedCount_eq]
  omega

theorem boundedCount_ne (n : Nat) : boundedCount n ≠ -1 := by
  have := boundedCount_nonneg n
  omega

/-- The result of a run tells about it. -/
theorem tells_ofRun (wording : Wording) (item : WorkItem) {answer : Except Failure Outcome}
    (told : ∀ outcome, answer = .ok outcome → ∃ history : History, outcome = history.outcome) :
    (ofRun wording item answer).Tells wording item answer := by
  cases answer with
  | error failure =>
    refine ⟨rfl, rfl, fun _ ended => ?_, fun _ failed => ?_, ?_, ?_, ?_⟩
    · cases ended
    · cases failed
      exact ⟨rfl, rfl, rfl, rfl, rfl⟩
    · simp [ofRun]
    · simp [ofRun]
    · simp [ofRun]
  | ok outcome =>
    obtain ⟨history, rfl⟩ := told outcome rfl
    refine ⟨rfl, rfl, fun _ ended => ?_, fun _ failed => ?_, ?_, ?_, fun success => ?_⟩
    · cases ended
      exact ⟨rfl, rfl, boundedCount_eq _, boundedCount_eq _, boundedCount_nonneg _,
        boundedCount_nonneg _, rfl⟩
    · cases failed
    · simp [ofRun, boundedCount_ne]
    · simp [ofRun, boundedCount_ne]
    · obtain ⟨errors, failures, iterations⟩ := History.clean_of_success success
      exact ⟨by simp [ofRun, errors, boundedCount_eq], by simp [ofRun, failures, boundedCount_eq],
        iterations⟩

end ItemResult

namespace Batch

variable {σ : Type} (r : Repair σ) (wording : Wording) (dryRun : Bool)

/-- The session that is left when items have been run one after another. -/
def leave (s : Session σ) (items : List WorkItem) : Session σ :=
  items.foldl (fun session item => (r.execute item.path dryRun session).2) s

/-- What a summary says about the items of a batch that started in the session `s` and
ended in the session `t`. -/
structure Accounts (items : List WorkItem) (s : Session σ) (summary : Summary) (t : Session σ) :
    Prop where
  results_length : summary.results.length = items.length
  told : ∀ i item, items[i]? = some item → ∃ result : ItemResult,
    summary.results[i]? = some result ∧
      result.Tells wording item (r.execute item.path dryRun (leave r dryRun s (items.take i))).1
  left_eq : t = leave r dryRun s items
  total_eq : summary.total = items.length
  successes_eq : summary.successes = (summary.results.filter (·.success)).length
  successes_add_failures : summary.successes + summary.failures = summary.total
  allSuccessful_iff : summary.allSuccessful = true ↔ summary.failures = 0

namespace Summary

theorem successes_le_total (summary : Summary) : summary.successes ≤ summary.total :=
  List.countP_le_length

theorem successes_add_failures (summary : Summary) :
    summary.successes + summary.failures = summary.total := by
  have := summary.successes_le_total
  unfold failures
  omega

theorem allSuccessful_iff (summary : Summary) :
    summary.allSuccessful = true ↔ summary.failures = 0 := by
  have := summary.successes_le_total
  simp only [allSuccessful, failures, decide_eq_true_eq]
  omega

end Summary

variable {r wording dryRun}

theorem run_cons (item : WorkItem) (items : List WorkItem) (s : Session σ) :
    run r wording dryRun (item :: items) s =
      let (answer, t) := r.execute item.path dryRun s
      let (summary, u) := run r wording dryRun items t
      (⟨.ofRun wording item answer :: summary.results⟩, u) := by
  simp only [run, List.mapM_cons]
  rfl

theorem length_results (items : List WorkItem) (s : Session σ) :
    (run r wording dryRun items s).1.results.length = items.length := by
  induction items generalizing s with
  | nil => rfl
  | cons item items ih =>
    rw [run_cons]
    exact congrArg (· + 1) (ih _)

theorem run_leaves (items : List WorkItem) (s : Session σ) :
    (run r wording dryRun items s).2 = leave r dryRun s items := by
  induction items generalizing s with
  | nil => rfl
  | cons item items ih =>
    rw [run_cons]
    exact ih _

/-- The result at a place is that of the item at this place, run on what the items before it
have left. -/
theorem getElem?_results {items : List WorkItem} {i : Nat} {item : WorkItem}
    (at_i : items[i]? = some item) (s : Session σ) :
    (run r wording dryRun items s).1.results[i]? =
      some (.ofRun wording item
        (r.execute item.path dryRun (leave r dryRun s (items.take i))).1) := by
  induction items generalizing i s with
  | nil => cases at_i
  | cons first items ih =>
    rw [run_cons]
    cases i with
    | zero =>
      cases at_i
      rfl
    | succ i => exact ih at_i _

/-- Whatever the tools and the oracle do, the summary of a batch accounts for its items. -/
theorem run_accounts (r : Repair σ) (wording : Wording) (dryRun : Bool) (items : List WorkItem)
    (s : Session σ) :
    Accounts r wording dryRun items s (run r wording dryRun items s).1
      (run r wording dryRun items s).2 := by
  let summary := (run r wording dryRun items s).1
  refine
    { results_length := length_results items s
      told := fun i item at_i => ⟨_, getElem?_results at_i s, ?_⟩
      left_eq := run_leaves items s
      total_eq := length_results items s
      successes_eq := List.countP_eq_length_filter
      successes_add_failures := summary.successes_add_failures
      allSuccessful_iff := summary.allSuccessful_iff }
  apply ItemResult.tells_ofRun
  intro outcome ended
  exact r.exists_history_of_execute (Prod.ext ended rfl)

end Batch

end Mender
