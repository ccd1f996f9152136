import Mender.Proofs.Repair.Outcome
import Mender.Proofs.Text.Decimal

/-!
# Calls

Which calls a run makes to its collaborators. `execute_calls` says that they follow
the course of a run, that only the last of them can have failed, and how often the
oracle is asked. A run can also end where the records of a pass cannot be left:
then no call has failed, as `execute_stopped_by_audit` shows.
-/

namespace Mender

namespace Event

/-- What a call failed with; the oracle always answers. -/
def failure? : Event → Option Failure
  | .rewrite _ _ (.error failure) => some failure
  | .analyze _ (.error failure) => some failure
  | .test _ (.error failure) => some failure
  | .write _ _ (.error failure) => some failure
  | _ => none

def isAsk : Event → Bool
  | .ask .. => true
  | _ => false

/-- All of the calls succeeded. -/
def Clean (calls : List Event) : Prop := ∀ call ∈ calls, call.failure? = none

/-- The last call failed, with the cause of the failure, and those before it succeeded. -/
def BrokenBy (failure : Failure) (calls : List Event) : Prop :=
  ∃ before call own, calls = before ++ [call] ∧ Clean before ∧ call.failure? = some own ∧
    failure.cause = own.cause

theorem Clean.append {calls later : List Event} (h : Clean calls) (more : Clean later) :
    Clean (calls ++ later) := by
  intro call mem
  rcases List.mem_append.mp mem with mem | mem
  · exact h call mem
  · exact more call mem

theorem BrokenBy.prepend {failure : Failure} {calls later : List Event}
    (h : BrokenBy failure later) (clean : Clean calls) : BrokenBy failure (calls ++ later) := by
  obtain ⟨before, call, own, rfl, rest⟩ := h
  exact ⟨calls ++ before, call, own, (List.append_assoc ..).symm, clean.append rest.1, rest.2⟩

end Event

/-- Whether the pass saw an error or a failure. -/
def Pass.found (pass : Pass) : Bool := pass.staticErrors ≠ 0 || pass.testFailures ≠ 0

/-- The record of a pass shows findings where its snapshot does. -/
theorem Pass.found_ofRound (index : Nat) (rewritten : Bool) (snapshot : Snapshot)
    (attempt? : Option Attempt) :
    (Pass.ofRound index rewritten snapshot attempt?).found = !snapshot.isGold := by
  cases clean : snapshot.isGold with
  | true =>
    obtain ⟨errors, failures⟩ := snapshot.isGold_iff.mp clean
    simp [Pass.found, Pass.ofRound, Pass.ofSnapshot, errors, failures]
  | false =>
    simpa [Pass.found, Pass.ofRound, Pass.ofSnapshot] using snapshot.not_gold_iff.mp clean

/-- A path leads to a target wherever it leads to anything. -/
theorem Target.resolve_cases (disk : Disk) (path : Path) :
    (disk.pathExists path = false ∧
      resolve disk path = .error (.ofCause (.targetNotFound path))) ∨
    ∃ target, resolve disk path = .ok target := by
  unfold resolve Disk.canonical Disk.pathExists
  cases disk.find path with
  | error e => exact .inl ⟨rfl, rfl⟩
  | ok found => exact .inr ⟨_, rfl⟩

namespace Repair

open Event
open scoped Mender.Path

variable {σ : Type} {r : Repair σ} {target : Target} {dryRun rewritten : Bool}
  {index budget : Nat} {a b : Site σ} {calls : List Event} {rounds : List (Round σ)}
  {snapshot : Snapshot} {failure : Failure} {stop : Option Failure}

theorem clean_inspection : Clean (inspection target snapshot) := by
  simp [Clean, inspection, failure?]

theorem AttemptCourse.clean {attempt : Attempt}
    (h : r.AttemptCourse target a snapshot calls b (.ok attempt)) : Clean calls := by
  cases h <;> simp [Clean, failure?]

theorem AttemptCourse.broken (h : r.AttemptCourse target a snapshot calls b (.error failure)) :
    BrokenBy failure calls := by
  cases h with
  | refused => exact ⟨[_], _, failure, rfl, by simp [Clean, failure?], rfl, rfl⟩

theorem AttemptCourse.asks {answer : Except Failure Attempt}
    (h : r.AttemptCourse target a snapshot calls b answer) : calls.countP isAsk = 1 := by
  cases h <;> rfl

theorem PassCourse.clean {attempt? : Option Attempt}
    (h : r.PassCourse target dryRun a calls b (.ok (snapshot, attempt?))) : Clean calls := by
  cases h with
  | idle => exact clean_inspection
  | tried _ _ attempted => exact clean_inspection.append attempted.clean

theorem PassCourse.broken (h : r.PassCourse target dryRun a calls b (.error failure)) :
    BrokenBy failure calls := by
  cases h with
  | unanalyzed => exact ⟨[], _, _, rfl, by simp [Clean], rfl, rfl⟩
  | untested => exact ⟨[_], _, _, rfl, by simp [Clean, failure?], rfl, rfl⟩
  | refused _ _ attempted => exact attempted.broken.prepend clean_inspection

/-- A completed pass asks once if something was found and the run is no dry run. -/
theorem PassCourse.asks {attempt? : Option Attempt}
    (h : r.PassCourse target dryRun a calls b (.ok (snapshot, attempt?))) :
    calls.countP isAsk = if (snapshot.isGold || dryRun) = true then 0 else 1 := by
  cases h with
  | idle _ skipped =>
    rw [if_pos skipped]
    rfl
  | tried _ due attempted =>
    rw [if_neg (Bool.not_eq_true _ ▸ due), List.countP_append, attempted.asks]
    rfl

theorem PassCourse.dry_asks {answer : Except Failure (Snapshot × Option Attempt)}
    (h : r.PassCourse target true a calls b answer) : calls.countP isAsk = 0 := by
  cases h with
  | unanalyzed | untested | idle => rfl
  | tried _ due => simp at due
  | refused _ due => simp at due

/-- Passes that are cut short end with a failed call, or where the audit trail cannot be kept. -/
theorem Course.clean_or_broken
    (h : r.Course target dryRun rewritten index budget a calls rounds b stop) :
    Clean calls ∧ (stop = none ∨ r.auditDir? ≠ none) ∨
      ∃ failure, stop = some failure ∧ BrokenBy failure calls := by
  induction h with
  | spent => exact .inl ⟨by simp [Clean], .inl rfl⟩
  | failed passed => exact .inr ⟨_, rfl, passed.broken⟩
  | unaudited passed audited =>
    refine .inl ⟨passed.clean, .inr fun none => ?_⟩
    have := audited []
    simp only [audit, none] at this
    cases this
  | gold passed => exact .inl ⟨passed.clean, .inl rfl⟩
  | further passed _ _ _ ih =>
    rcases ih with ⟨clean, complete⟩ | ⟨failure, stopped, broken⟩
    · exact .inl ⟨passed.clean.append clean, complete⟩
    · exact .inr ⟨failure, stopped, broken.prepend passed.clean⟩

theorem Course.dry_asks
    (h : r.Course target true rewritten index budget a calls rounds b stop) :
    calls.countP isAsk = 0 := by
  induction h with
  | spent => rfl
  | failed passed => exact passed.dry_asks
  | unaudited passed => exact passed.dry_asks
  | gold passed => exact passed.dry_asks
  | further passed _ _ _ ih => rw [List.countP_append, passed.dry_asks, ih]

/-- In a live run that is not cut short, the oracle is asked once for each pass with findings. -/
theorem Course.live_asks
    (h : r.Course target false rewritten index budget a calls rounds b stop)
    (complete : stop = none) :
    calls.countP isAsk = (rounds.map (·.record)).countP Pass.found := by
  induction h with
  | spent => rfl
  | failed | unaudited => cases complete
  | gold passed _ clean =>
    rw [passed.asks]
    simp [Pass.found_ofRound, clean]
  | further passed _ found _ ih =>
    rw [List.countP_append, passed.asks, ih complete, List.map_cons, List.countP_cons]
    simp [Pass.found_ofRound, found, Nat.add_comm]

/-- Either no call failed, or the last one did and its cause is what the run fails with. -/
theorem RunCourse.clean_or_broken {answer : Except Failure Outcome}
    (h : r.RunCourse target dryRun a calls rounds b answer) :
    Clean calls ∧ (r.auditDir? = none → ∃ outcome, answer = .ok outcome) ∨
      ∃ failure, answer = .error failure ∧ BrokenBy failure calls := by
  have rewriting {rewritten : Bool} :
      Clean [.rewrite target.path dryRun (.ok rewritten)] := by
    simp [Clean, failure?]
  cases h with
  | unrewritten => exact .inr ⟨_, rfl, [], _, _, rfl, by simp [Clean], rfl, rfl⟩
  | stopped _ course =>
    rcases course.clean_or_broken with ⟨clean, complete⟩ | ⟨failure, stopped, broken⟩
    · refine .inl ⟨rewriting.append clean, fun none => ?_⟩
      rcases complete with complete | kept
      · cases complete
      · exact absurd none kept
    · cases stopped
      exact .inr ⟨_, rfl, BrokenBy.prepend broken rewriting⟩
  | finished _ course filed =>
    rcases course.clean_or_broken with ⟨clean, -⟩ | ⟨failure, stopped, -⟩
    · let outcome := (History.mk (rounds.map (·.record))).outcome
      refine .inl ⟨rewriting.append clean, fun none => ⟨outcome, ?_⟩⟩
      have finished := filed []
      simp only [finish, none] at finished
      exact (congrArg Prod.fst finished).symm
    · cases stopped

theorem RunCourse.dry_asks {answer : Except Failure Outcome}
    (h : r.RunCourse target true a calls rounds b answer) : calls.countP isAsk = 0 := by
  cases h with
  | unrewritten => rfl
  | stopped _ course => exact course.dry_asks
  | finished _ course => exact course.dry_asks

theorem RunCourse.live_asks {outcome : Outcome}
    (h : r.RunCourse target false a calls rounds b (.ok outcome)) :
    calls.countP isAsk = outcome.history.countP Pass.found := by
  cases h with
  | finished _ course filed =>
    rw [outcome_of_finish (filed [])]
    exact course.live_asks rfl

/-- A run makes no call where there is no target, and else the calls of the course of a run
on the target. Only the last call can have failed; without an audit trail a run in which none
failed has an outcome. A dry run asks nothing, and a live one that has an outcome asked once
for each pass with findings. -/
theorem execute_calls (r : Repair σ) (path : Path) (dryRun : Bool) (s : Session σ) :
    (s.site.disk.pathExists path = false ∧
      r.execute path dryRun s = (.error (.ofCause (.targetNotFound path)), s)) ∨
    ∃ target calls rounds b answer,
      Target.resolve s.site.disk path = .ok target ∧
      r.execute path dryRun s = (answer, ⟨b, s.events ++ calls⟩) ∧
      r.RunCourse target dryRun s.site calls rounds b answer ∧
      (Clean calls ∧ (r.auditDir? = none → ∃ outcome, answer = .ok outcome) ∨
        ∃ failure, answer = .error failure ∧ BrokenBy failure calls) ∧
      (dryRun = true → calls.countP isAsk = 0) ∧
      (dryRun = false → ∀ outcome, answer = .ok outcome →
        calls.countP isAsk = outcome.history.countP Pass.found) := by
  rcases Target.resolve_cases s.site.disk path with ⟨missing, failed⟩ | ⟨target, found⟩
  · exact .inl ⟨missing, execute_of_unresolved failed⟩
  · obtain ⟨calls, rounds, b, answer, course, ran⟩ := execute_course (r := r) found dryRun
    refine .inr ⟨target, calls, rounds, b, answer, found, ran, course, course.clean_or_broken,
      ?_, ?_⟩
    · rintro rfl
      exact course.dry_asks
    · rintro rfl outcome rfl
      exact course.live_asks

/-- No records can be left below a file. -/
theorem writePass_below_file {pass : Pass} (first : pass.index = 1) (snapshot : Snapshot)
    (attempt? : Option Attempt) :
    AuditTrail.writePass "/a" pass snapshot attempt? (onStage []).site.disk =
      (.error ⟨["create iteration dir /a/1"], .system .notDirectory⟩, (onStage []).site.disk) := by
  have place : (AuditTrail.places "/a" pass.index).directory = Path.ofText "/a/1" := by
    rw [first, AuditTrail.places, Decimal.natText_one]
    decide
  have unmade : (onStage []).site.disk.makeDirectories "/a/1" =
      (.error (.system .notDirectory), (onStage []).site.disk) := by cbv
  have refused : Filing.makeDirectories ("create iteration dir " ++ "/a/1") "/a/1"
      (onStage []).site.disk =
        (.error ⟨["create iteration dir " ++ "/a/1"], .system .notDirectory⟩,
          (onStage []).site.disk) := by
    rw [Filing.makeDirectories_apply, unmade]
    rfl
  simp only [AuditTrail.writePass, place]
  exact bind_of_error refused

/-- The records of the first pass cannot be left below a file. No call has failed, the pass
found an error and two more are allowed, yet the run ends there. -/
theorem execute_stopped_by_audit :
    ((rehearsal (some "/a")).execute "/a" true (onStage [])).1 =
        .error ⟨["create iteration dir /a/1"], .system .notDirectory⟩ ∧
      ((rehearsal (some "/a")).execute "/a" true (onStage [])).2.events =
        [.rewrite "/a" true (.ok true), .analyze "/a" (.ok (Snapshot.sample 1 0).staticErrors),
          .test "/a" (.ok [])] := by
  have located : Target.resolve (onStage []).site.disk "/a" = .ok ⟨"/a", false⟩ := by cbv
  let after : Site Script := ⟨(onStage []).site.disk, (onStage []).site.memory.advance⟩
  have inspected : (rehearsal (some "/a")).Inspects ⟨"/a", false⟩ (onStage []).site
      (.sample 1 0) after := ⟨after, rfl, rfl⟩
  have audited : (rehearsal (some "/a")).Audits (.ofRound 1 true (.sample 1 0) none)
      (.sample 1 0) none after
      (.error ⟨["create iteration dir /a/1"], .system .notDirectory⟩) after := by
    intro events
    rw [audit_filing (r := rehearsal (some "/a")) rfl, writePass_below_file rfl]
    rfl
  have ran : (rehearsal (some "/a")).execute "/a" true (onStage []) =
      (.error ⟨["create iteration dir /a/1"], .system .notDirectory⟩,
        ⟨after, [.rewrite "/a" true (.ok true)] ++
          inspection ⟨"/a", false⟩ (.sample 1 0)⟩) := by
    rw [execute, bind_of_ok (locate_of_resolved located), bind_of_ok (within_call rfl _ _)]
    exact bind_of_error (bind_of_error (pass_of_idle inspected rfl audited _))
  rw [ran]
  exact ⟨rfl, rfl⟩

end Repair

end Mender
