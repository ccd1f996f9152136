import Mender.Proofs.Repair.Calls

/-!
# Budgets

How many passes a run may take is looked at between passes only. So a longer run goes
on where a shorter one stopped, and does nothing else if that one came to an end before
its budget did. `passes_add` says so of the passes, `execute_withBudget` of whole runs.
-/

namespace Mender

/-- A history that ends with a pass is successful if that pass found nothing. -/
theorem History.success_push_ofRound (history : History) (index : Nat) (rewritten : Bool)
    (snapshot : Snapshot) (attempt? : Option Attempt) :
    (history.push (.ofRound index rewritten snapshot attempt?)).outcome.success =
      snapshot.isGold := by
  rw [Bool.eq_iff_iff, outcome_success_iff, passes_push, List.getLast?_concat, snapshot.isGold_iff]
  constructor
  · rintro ⟨last, ⟨⟩, errors, failures⟩
    exact ⟨errors, failures⟩
  · rintro ⟨errors, failures⟩
    exact ⟨_, rfl, errors, failures⟩

namespace Repair

open scoped Mender.Path

variable {σ : Type}

/-- The same repair with another number of passes. -/
def withBudget (r : Repair σ) (budget : UInt32) : Repair σ := { r with maxIterations := budget }

variable {r : Repair σ} {target : Target} {dryRun rewritten : Bool}

/-- No pass looks at the number of passes that the repair allows. -/
theorem passes_withBudget (limit : UInt32) (history : History) (budget : Nat) :
    (r.withBudget limit).passes target dryRun rewritten history budget =
      r.passes target dryRun rewritten history budget := by
  induction budget generalizing history with
  | zero => rfl
  | succ budget ih =>
    have same : (r.withBudget limit).pass target dryRun rewritten (history.length + 1) =
        r.pass target dryRun rewritten (history.length + 1) := rfl
    simp only [passes, same, ih]

/-- What a run does with the history that its passes come to, where no audit trail is kept. -/
def concluded : Except Failure History × Session σ → Except Failure Outcome × Session σ
  | (result, t) => (result.map History.outcome, t)

/-- Passes that may be followed by others: these come about if the first ones failed nowhere and
their history is not successful yet. -/
def continued (first : Except Failure History × Session σ) (more : History → Run σ History) :
    Except Failure History × Session σ :=
  match first with
  | (.error failure, t) => (.error failure, t)
  | (.ok reached, t) => if reached.outcome.success then (.ok reached, t) else more reached t

/-- A larger budget is a smaller one and then the rest of it. -/
theorem passes_add {history : History} (unfinished : history.outcome.success = false)
    (budget extra : Nat) (s : Session σ) :
    r.passes target dryRun rewritten history (budget + extra) s =
      continued (r.passes target dryRun rewritten history budget s) fun reached =>
        r.passes target dryRun rewritten reached extra := by
  induction budget generalizing history s with
  | zero =>
    have none_yet : r.passes target dryRun rewritten history 0 s = (.ok history, s) := rfl
    rw [none_yet, Nat.zero_add, continued, if_neg (by simp [unfinished])]
  | succ budget ih =>
    rw [Nat.succ_add, passes, passes]
    rcases pass_course (r := r) target dryRun rewritten (history.length + 1) s.site s.events with
      ⟨calls, b, failure, -, ran⟩ | ⟨calls, b, snapshot, attempt?, answer, c, -, -, ran⟩
    · rw [bind_of_error ran, bind_of_error ran]
      rfl
    cases answer with
    | error failure =>
      rw [bind_of_error ran, bind_of_error ran]
      rfl
    | ok =>
      rw [bind_of_ok ran, bind_of_ok ran]
      have success := history.success_push_ofRound (history.length + 1) rewritten snapshot attempt?
      cases clean : snapshot.isGold with
      | true =>
        rw [clean] at success
        simp only [Snapshot.verdict, clean, if_true]
        exact (if_pos success).symm
      | false =>
        rw [clean] at success
        simp only [Snapshot.verdict, clean, Bool.false_eq_true, if_false]
        exact ih success _

/-- Without an audit trail, a run whose target was rewritten is what its passes come to. -/
theorem execute_of_rewritten (unaudited : r.auditDir? = none) {path : Path} {s : Session σ}
    {b : Site σ} (found : Target.resolve s.site.disk path = .ok target)
    (rewrote : r.tools.rewrite target.path dryRun s.site = (.ok rewritten, b)) :
    r.execute path dryRun s = concluded (r.passes target dryRun rewritten .empty
      r.maxIterations.toNat ⟨b, s.events ++ [.rewrite target.path dryRun (.ok rewritten)]⟩) := by
  rw [execute, bind_of_ok (locate_of_resolved found), bind_of_ok (within_call rewrote _ _)]
  generalize Session.mk b (s.events ++ [.rewrite target.path dryRun (.ok rewritten)]) = s'
  rcases ran : r.passes target dryRun rewritten .empty r.maxIterations.toNat s' with
    ⟨failure | history, t⟩
  · exact bind_of_error ran
  · rw [bind_of_ok ran]
    simp only [finish, unaudited]
    rfl

/-- How a run that may take `extra` further passes ends, told by the ending of the one that may
not. It differs only where the shorter run has used up its budget: then it goes on from the site
that was left, behind the calls that were made and the records that were kept. -/
inductive Prolongs (r : Repair σ) (dryRun : Bool) (budget extra : Nat) :
    (shorter longer : Except Failure Outcome × Session σ) → Prop
  | failed {failure t} : Prolongs r dryRun budget extra (.error failure, t) (.error failure, t)
  | succeeded {outcome t} (success : outcome.success = true) :
      Prolongs r dryRun budget extra (.ok outcome, t) (.ok outcome, t)
  | exhausted {outcome t target rewritten later rounds u stop}
      (success : outcome.success = false)
      (spent : outcome.history.length = budget)
      (course : r.Course target dryRun rewritten (budget + 1) extra t.site later rounds u stop) :
      Prolongs r dryRun budget extra (.ok outcome, t)
        (stop.elim (.ok (History.mk (outcome.history ++ rounds.map (·.record))).outcome) .error,
          ⟨u, t.events ++ later⟩)

/-- Passes that have come to a history without success have used up their budget, and more of
them go on from there. -/
theorem prolongs_of_passes {budget : Nat} (extra : Nat) {s t : Session σ} {reached : History}
    (ran : r.passes target dryRun rewritten .empty budget s = (.ok reached, t))
    (spent : reached.outcome.success = false → reached.length = budget) :
    r.Prolongs dryRun budget extra (concluded (.ok reached, t))
      (concluded (r.passes target dryRun rewritten .empty (budget + extra) s)) := by
  rw [passes_add rfl, ran]
  cases success : reached.outcome.success with
  | true =>
    rw [continued, if_pos success]
    exact .succeeded success
  | false =>
    obtain ⟨later, rounds, u, stop, course, on⟩ := passes_course (r := r) target dryRun rewritten
      reached extra t.site t.events
    rw [continued, if_neg (by simp [success]), on]
    rw [spent success] at course
    cases stop with
    | none => exact .exhausted success (spent success) course
    | some failure => exact .exhausted success (spent success) course

/-- A run that is allowed more passes ends as the shorter one did, where that one failed or was
successful. Else it goes on where the shorter one stopped. -/
theorem execute_withBudget (unaudited : r.auditDir? = none) {budget larger : UInt32}
    (le : budget ≤ larger) (path : Path) (dryRun : Bool) (s : Session σ) :
    r.Prolongs dryRun budget.toNat (larger.toNat - budget.toNat)
      ((r.withBudget budget).execute path dryRun s)
      ((r.withBudget larger).execute path dryRun s) := by
  cases found : Target.resolve s.site.disk path with
  | error failure =>
    rw [execute_of_unresolved found, execute_of_unresolved found]
    exact .failed
  | ok target =>
  rcases rewrote : r.tools.rewrite target.path dryRun s.site with ⟨failure | rewritten, b⟩
  · have stopped (limit : UInt32) : (r.withBudget limit).execute path dryRun s =
        (.error (failure.within "deterministic pass"),
          ⟨b, s.events ++ [.rewrite target.path dryRun (.error failure)]⟩) := by
      rw [execute, bind_of_ok (locate_of_resolved found)]
      exact bind_of_error (within_call rewrote _ _)
    rw [stopped, stopped]
    exact .failed
  · obtain ⟨extra, total⟩ := Nat.exists_eq_add_of_le (UInt32.le_iff_toNat_le.mp le)
    have both (limit : UInt32) : (r.withBudget limit).execute path dryRun s =
        concluded (r.passes target dryRun rewritten .empty limit.toNat
          ⟨b, s.events ++ [.rewrite target.path dryRun (.ok rewritten)]⟩) := by
      rw [execute_of_rewritten (r := r.withBudget limit) unaudited found rewrote,
        passes_withBudget]
      rfl
    obtain ⟨calls, rounds, c, stop, course, ran⟩ := passes_course (r := r) target dryRun rewritten
      .empty budget.toNat b (s.events ++ [.rewrite target.path dryRun (.ok rewritten)])
    rw [both, both, total, Nat.add_sub_cancel_left]
    cases stop with
    | some failure =>
      rw [passes_add rfl, ran]
      exact .failed
    | none =>
      rw [ran]
      refine prolongs_of_passes extra ran fun failed => ?_
      exact (List.length_map ..).trans (course.length_of_unsuccessful failed)

/-- One pass does not end the rehearsal, and two of the three that are allowed then do. -/
theorem execute_withBudget_rehearsal :
    (rehearsal none).auditDir? = none ∧ (1 : UInt32) ≤ 3 ∧
      (((rehearsal none).withBudget 1).execute "/a" true (onStage [])).1 =
        .ok ⟨false, 1, 1, 0, [⟨1, true, 1, 0, false⟩]⟩ ∧
      (((rehearsal none).withBudget 3).execute "/a" true (onStage [])).1 = .ok dryEnding ∧
      (rehearsal none).Prolongs true 1 2
        (((rehearsal none).withBudget 1).execute "/a" true (onStage []))
        (((rehearsal none).withBudget 3).execute "/a" true (onStage [])) := by
  have unaudited : (rehearsal none).auditDir? = none := rfl
  have le : (1 : UInt32) ≤ 3 := by decide
  refine ⟨unaudited, le, by cbv, by cbv, ?_⟩
  exact execute_withBudget unaudited le "/a" true (onStage [])

end Repair

end Mender
