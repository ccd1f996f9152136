import Mender.Proofs.Filing
import Mender.Repair

/-!
# The course of a run

A run is told apart from the program that performs it: which calls it makes, in
which order, on which site each of them starts, and how it ends. `RunCourse`
is that account, built from the course of one attempt and of one pass, and
`execute_course` says that every run on a target that is there follows it.
-/

namespace Mender

/-- The record of a pass that found the snapshot and made the attempt. -/
def Pass.ofRound (index : Nat) (rewritten : Bool) (snapshot : Snapshot)
    (attempt? : Option Attempt) : Pass :=
  { Pass.ofSnapshot index rewritten snapshot with fixApplied := attempt?.any (·.written) }

/-- A pass that was completed, between the site that it found and the one that it left. -/
structure Round (σ : Type) where
  before : Site σ
  calls : List Event
  snapshot : Snapshot
  attempt? : Option Attempt
  record : Pass
  after : Site σ

namespace Repair

variable {σ : Type} (r : Repair σ) (target : Target)

/-- Both tools answer, and what they find is the snapshot. -/
def Inspects (a : Site σ) (snapshot : Snapshot) (c : Site σ) : Prop :=
  ∃ b, r.tools.analyze target.path a = (.ok snapshot.staticErrors, b) ∧
    r.tools.test target.path b = (.ok snapshot.testFailures, c)

/-- The calls of an inspection that finds the snapshot. -/
def inspection (snapshot : Snapshot) : List Event :=
  [.analyze target.path (.ok snapshot.staticErrors), .test target.path (.ok snapshot.testFailures)]

/-- The oracle is asked about the content that the target has on the site, with the
snapshot that was just found. -/
structure Asks (a : Site σ) (snapshot : Snapshot) (prompt current : String) (fix : Fix)
    (b : Site σ) : Prop where
  current_eq : current = target.read a.disk r.language
  prompt_eq : prompt = Prompt.build r.language current snapshot
  answered : r.oracle.ask prompt current a = (fix, b)

/-- The course of an attempt: one question and at most one write. -/
inductive AttemptCourse (a : Site σ) (snapshot : Snapshot) :
    List Event → Site σ → Except Failure Attempt → Prop
  | kept {b prompt current fix} (asked : r.Asks target a snapshot prompt current fix b)
      (nothing : replacement? fix current = none) :
      AttemptCourse a snapshot [.ask prompt current fix] b (.ok ⟨prompt, fix, false⟩)
  | written {b prompt current fix content disk}
      (asked : r.Asks target a snapshot prompt current fix b)
      (replaced : replacement? fix current = some content)
      (wrote : target.write content b.disk = (.ok (), disk)) :
      AttemptCourse a snapshot
        [.ask prompt current fix, .write target.path content (.ok ())] { b with disk }
        (.ok ⟨prompt, fix, true⟩)
  | refused {b prompt current fix content failure disk}
      (asked : r.Asks target a snapshot prompt current fix b)
      (replaced : replacement? fix current = some content)
      (wrote : target.write content b.disk = (.error failure, disk)) :
      AttemptCourse a snapshot
        [.ask prompt current fix, .write target.path content (.error failure)] { b with disk }
        (.error failure)

/-- The course of a pass up to its records: the inspection, and an attempt only where
something was found and the run is no dry run. -/
inductive PassCourse (dryRun : Bool) (a : Site σ) :
    List Event → Site σ → Except Failure (Snapshot × Option Attempt) → Prop
  | unanalyzed {b failure} (analyzed : r.tools.analyze target.path a = (.error failure, b)) :
      PassCourse dryRun a [.analyze target.path (.error failure)] b
        (.error (failure.within "static analysis"))
  | untested {b c found failure} (analyzed : r.tools.analyze target.path a = (.ok found, b))
      (tested : r.tools.test target.path b = (.error failure, c)) :
      PassCourse dryRun a [.analyze target.path (.ok found), .test target.path (.error failure)] c
        (.error (failure.within "test run"))
  | idle {b snapshot} (inspected : r.Inspects target a snapshot b)
      (skipped : (snapshot.isGold || dryRun) = true) :
      PassCourse dryRun a (inspection target snapshot) b (.ok (snapshot, none))
  | tried {b c snapshot calls attempt} (inspected : r.Inspects target a snapshot b)
      (due : (snapshot.isGold || dryRun) = false)
      (attempted : r.AttemptCourse target b snapshot calls c (.ok attempt)) :
      PassCourse dryRun a (inspection target snapshot ++ calls) c (.ok (snapshot, some attempt))
  | refused {b c snapshot calls failure} (inspected : r.Inspects target a snapshot b)
      (due : (snapshot.isGold || dryRun) = false)
      (attempted : r.AttemptCourse target b snapshot calls c (.error failure)) :
      PassCourse dryRun a (inspection target snapshot ++ calls) c (.error failure)

/-- What comes of leaving the records of a pass. No collaborator is called. -/
def Audits (pass : Pass) (snapshot : Snapshot) (attempt? : Option Attempt) (a : Site σ)
    (answer : Except Failure Unit) (b : Site σ) : Prop :=
  ∀ events, r.audit pass snapshot attempt? ⟨a, events⟩ = (answer, ⟨b, events⟩)

/-- The course of the passes that follow on a rewriting, with the completed ones in order.
It ends at the first pass without findings, after the last pass of the budget, or
at a failure. -/
inductive Course (dryRun rewritten : Bool) :
    (index budget : Nat) → Site σ → List Event → List (Round σ) → Site σ →
      (stop : Option Failure) → Prop
  | spent {index a} : Course dryRun rewritten index 0 a [] [] a none
  | failed {index budget a calls b failure}
      (passed : r.PassCourse target dryRun a calls b (.error failure)) :
      Course dryRun rewritten index (budget + 1) a calls [] b (some failure)
  | unaudited {index budget a calls b snapshot attempt? failure c}
      (passed : r.PassCourse target dryRun a calls b (.ok (snapshot, attempt?)))
      (audited : r.Audits (.ofRound index rewritten snapshot attempt?) snapshot attempt? b
        (.error failure) c) :
      Course dryRun rewritten index (budget + 1) a calls [] c (some failure)
  | gold {index budget a calls b snapshot attempt? c}
      (passed : r.PassCourse target dryRun a calls b (.ok (snapshot, attempt?)))
      (audited : r.Audits (.ofRound index rewritten snapshot attempt?) snapshot attempt? b
        (.ok ()) c)
      (clean : snapshot.isGold = true) :
      Course dryRun rewritten index (budget + 1) a calls
        [⟨a, calls, snapshot, attempt?, .ofRound index rewritten snapshot attempt?, c⟩] c none
  | further {index budget a calls b snapshot attempt? c later rounds d stop}
      (passed : r.PassCourse target dryRun a calls b (.ok (snapshot, attempt?)))
      (audited : r.Audits (.ofRound index rewritten snapshot attempt?) snapshot attempt? b
        (.ok ()) c)
      (found : snapshot.isGold = false)
      (rest : Course dryRun rewritten (index + 1) budget c later rounds d stop) :
      Course dryRun rewritten index (budget + 1) a (calls ++ later)
        (⟨a, calls, snapshot, attempt?, .ofRound index rewritten snapshot attempt?, c⟩ :: rounds)
        d stop

/-- The course of a run on its target: one rewriting, the passes, and the outcome that is
read off the records of the completed ones. -/
inductive RunCourse (dryRun : Bool) (a : Site σ) :
    List Event → List (Round σ) → Site σ → Except Failure Outcome → Prop
  | unrewritten {b failure}
      (rewrote : r.tools.rewrite target.path dryRun a = (.error failure, b)) :
      RunCourse dryRun a [.rewrite target.path dryRun (.error failure)] [] b
        (.error (failure.within "deterministic pass"))
  | stopped {b rewritten calls rounds c failure}
      (rewrote : r.tools.rewrite target.path dryRun a = (.ok rewritten, b))
      (course : r.Course target dryRun rewritten 1 r.maxIterations.toNat b calls rounds c
        (some failure)) :
      RunCourse dryRun a (.rewrite target.path dryRun (.ok rewritten) :: calls) rounds c
        (.error failure)
  | finished {b rewritten calls rounds c answer d}
      (rewrote : r.tools.rewrite target.path dryRun a = (.ok rewritten, b))
      (course : r.Course target dryRun rewritten 1 r.maxIterations.toNat b calls rounds c none)
      (filed : ∀ events,
        r.finish ⟨rounds.map (·.record)⟩ ⟨c, events⟩ = (answer, ⟨d, events⟩)) :
      RunCourse dryRun a (.rewrite target.path dryRun (.ok rewritten) :: calls) rounds d answer

variable {r target}

theorem within_call {α : Type} {event : Except Failure α → Event} {effect : Effect σ α}
    {a b : Site σ} {answer : Except Failure α} (made : effect a = (answer, b)) (doing : String)
    (events : List Event) :
    (Run.call event effect).within doing ⟨a, events⟩ =
      (answer.mapError (Failure.within doing), ⟨b, events ++ [event answer]⟩) := by
  simp only [Run.within, Run.call, made]

theorem inspect_of_inspects {a c : Site σ} {snapshot : Snapshot}
    (h : r.Inspects target a snapshot c) (events : List Event) :
    r.inspect target ⟨a, events⟩ = (.ok snapshot, ⟨c, events ++ inspection target snapshot⟩) := by
  obtain ⟨b, analyzed, tested⟩ := h
  rw [inspect, bind_of_ok (within_call analyzed _ _), bind_of_ok (within_call tested _ _)]
  simp only [inspection, List.append_assoc, List.singleton_append]
  rfl

/-- What an attempt comes to, once the oracle has answered. -/
theorem attempt_of_asks {a b : Site σ} {snapshot : Snapshot} {prompt current : String} {fix : Fix}
    (asked : r.Asks target a snapshot prompt current fix b) (events : List Event) :
    r.attempt target snapshot ⟨a, events⟩ =
      match replacement? fix current with
      | none => (.ok ⟨prompt, fix, false⟩, ⟨b, events ++ [.ask prompt current fix]⟩)
      | some content =>
        let (done, disk) := target.write content b.disk
        (done.map fun _ => ⟨prompt, fix, true⟩, ⟨{ b with disk },
          events ++ [.ask prompt current fix, .write target.path content done]⟩) := by
  obtain ⟨current_eq, prompt_eq, answered⟩ := asked
  have question : Run.ask r.oracle prompt current ⟨a, events⟩ =
      (.ok fix, ⟨b, events ++ [.ask prompt current fix]⟩) := by
    simp only [Run.ask, answered]
  have looked : (Run.disk : Run σ Disk) ⟨a, events⟩ = (.ok a.disk, ⟨a, events⟩) := rfl
  rw [attempt, bind_of_ok looked, ← current_eq, ← prompt_eq, bind_of_ok question]
  cases replaced : replacement? fix current with
  | none => rfl
  | some content =>
    rcases wrote : target.write content b.disk with ⟨done, disk⟩
    have writing : Run.call (.write target.path content) (Effect.ofFiling (target.write content))
        ⟨b, events ++ [.ask prompt current fix]⟩ =
          (done, ⟨{ b with disk }, events ++
            [.ask prompt current fix, .write target.path content done]⟩) := by
      simp only [Run.call, Effect.ofFiling, wrote, List.append_assoc, List.singleton_append]
    dsimp only
    rw [wrote]
    cases done with
    | ok => exact bind_of_ok writing
    | error failure => exact bind_of_error writing

theorem attempt_course (target : Target) (a : Site σ) (snapshot : Snapshot) (events : List Event) :
    ∃ calls b answer, r.AttemptCourse target a snapshot calls b answer ∧
      r.attempt target snapshot ⟨a, events⟩ = (answer, ⟨b, events ++ calls⟩) := by
  obtain ⟨current, hc⟩ : ∃ current, current = target.read a.disk r.language := ⟨_, rfl⟩
  obtain ⟨prompt, hp⟩ : ∃ prompt, prompt = Prompt.build r.language current snapshot := ⟨_, rfl⟩
  obtain ⟨⟨fix, b⟩, answered⟩ : ∃ answer, r.oracle.ask prompt current a = answer := ⟨_, rfl⟩
  have asked : r.Asks target a snapshot prompt current fix b := ⟨hc, hp, answered⟩
  rw [attempt_of_asks asked]
  cases replaced : replacement? fix current with
  | none => exact ⟨_, b, _, .kept asked replaced, rfl⟩
  | some content =>
    rcases wrote : target.write content b.disk with ⟨_ | _, disk⟩
    · exact ⟨_, _, _, .refused asked replaced wrote, by simp only [wrote]; rfl⟩
    · exact ⟨_, _, _, .written asked replaced wrote, by simp only [wrote]; rfl⟩

theorem perform_filing {α : Type} {work : Filing α} {a : Site σ} {answer : Except Failure α}
    {disk : Disk} (done : work a.disk = (answer, disk)) (events : List Event) :
    Run.perform (Effect.ofFiling work) ⟨a, events⟩ = (answer, ⟨{ a with disk }, events⟩) := by
  simp only [Run.perform, Effect.ofFiling, done]

/-- Leaving the records of a pass is work on the disk alone. -/
theorem audit_filing {dir : Path} (kept : r.auditDir? = some dir) (pass : Pass)
    (snapshot : Snapshot) (attempt? : Option Attempt) (a : Site σ) (events : List Event) :
    r.audit pass snapshot attempt? ⟨a, events⟩ =
      ((AuditTrail.writePass dir pass snapshot attempt? a.disk).1.map fun _ => (),
        ⟨{ a with disk := (AuditTrail.writePass dir pass snapshot attempt? a.disk).2 },
          events⟩) := by
  rcases filed : AuditTrail.writePass dir pass snapshot attempt? a.disk with
    ⟨failure | places, disk⟩
  · simp only [audit, kept]
    exact bind_of_error (perform_filing filed events)
  · simp only [audit, kept]
    exact bind_of_ok (perform_filing filed events)

/-- Leaving the outcome is work on the disk alone. -/
theorem finish_filing {dir : Path} (kept : r.auditDir? = some dir) (history : History)
    (a : Site σ) (events : List Event) :
    r.finish history ⟨a, events⟩ =
      ((AuditTrail.writeOutcome dir history.outcome a.disk).1.map fun _ => history.outcome,
        ⟨{ a with disk := (AuditTrail.writeOutcome dir history.outcome a.disk).2 }, events⟩) := by
  rcases filed : AuditTrail.writeOutcome dir history.outcome a.disk with ⟨failure | path, disk⟩
  · simp only [finish, kept]
    exact bind_of_error (perform_filing filed events)
  · simp only [finish, kept]
    exact bind_of_ok (perform_filing filed events)

theorem exists_audits (pass : Pass) (snapshot : Snapshot) (attempt? : Option Attempt)
    (a : Site σ) : ∃ answer b, r.Audits pass snapshot attempt? a answer b := by
  cases kept : r.auditDir? with
  | none => exact ⟨.ok (), a, fun _ => by simp only [audit, kept]; rfl⟩
  | some dir => exact ⟨_, _, audit_filing kept pass snapshot attempt? a⟩

theorem exists_finish (history : History) (a : Site σ) :
    ∃ answer b, ∀ events, r.finish history ⟨a, events⟩ = (answer, ⟨b, events⟩) := by
  cases kept : r.auditDir? with
  | none => exact ⟨.ok history.outcome, a, fun _ => by simp only [finish, kept]; rfl⟩
  | some dir => exact ⟨_, _, finish_filing kept history a⟩

/-- A pass that got as far as its records answers what the audit lets it answer. -/
theorem record_of_audits {record : Pass} {snapshot : Snapshot} {attempt? : Option Attempt}
    {a b : Site σ} {answer : Except Failure Unit}
    (audited : r.Audits record snapshot attempt? a answer b) (events : List Event) :
    (do r.audit record snapshot attempt?; return (record, snapshot.verdict) :
        Run σ (Pass × Verdict)) ⟨a, events⟩ =
      (answer.map fun _ => (record, snapshot.verdict), ⟨b, events⟩) := by
  cases answer with
  | ok => exact bind_of_ok (audited events)
  | error failure => exact bind_of_error (audited events)

theorem pass_of_idle {dryRun rewritten : Bool} {index : Nat} {a b c : Site σ}
    {snapshot : Snapshot} {answer : Except Failure Unit}
    (inspected : r.Inspects target a snapshot b) (skipped : (snapshot.isGold || dryRun) = true)
    (audited : r.Audits (.ofRound index rewritten snapshot none) snapshot none b answer c)
    (events : List Event) :
    r.pass target dryRun rewritten index ⟨a, events⟩ =
      (answer.map fun _ => (.ofRound index rewritten snapshot none, snapshot.verdict),
        ⟨c, events ++ inspection target snapshot⟩) := by
  rw [pass, bind_of_ok (inspect_of_inspects inspected events), if_pos skipped]
  exact record_of_audits audited _

theorem pass_of_tried {dryRun rewritten : Bool} {index : Nat} {a b c d : Site σ}
    {snapshot : Snapshot} {calls : List Event} {attempt : Attempt} {answer : Except Failure Unit}
    (inspected : r.Inspects target a snapshot b) (due : (snapshot.isGold || dryRun) = false)
    {events : List Event}
    (attempted : r.attempt target snapshot ⟨b, events ++ inspection target snapshot⟩ =
      (.ok attempt, ⟨c, events ++ inspection target snapshot ++ calls⟩))
    (audited : r.Audits (.ofRound index rewritten snapshot (some attempt)) snapshot (some attempt)
      c answer d) :
    r.pass target dryRun rewritten index ⟨a, events⟩ =
      (answer.map fun _ => (.ofRound index rewritten snapshot (some attempt), snapshot.verdict),
        ⟨d, events ++ (inspection target snapshot ++ calls)⟩) := by
  rw [pass, bind_of_ok (inspect_of_inspects inspected events), if_neg (by simp [due]),
    ← List.append_assoc]
  refine (bind_of_ok (x := some <$> r.attempt target snapshot) (bind_of_ok attempted)).trans ?_
  exact record_of_audits audited _

theorem pass_course (target : Target) (dryRun rewritten : Bool) (index : Nat) (a : Site σ)
    (events : List Event) :
    (∃ calls b failure, r.PassCourse target dryRun a calls b (.error failure) ∧
      r.pass target dryRun rewritten index ⟨a, events⟩ =
        (.error failure, ⟨b, events ++ calls⟩)) ∨
    ∃ calls b snapshot attempt? answer c,
      r.PassCourse target dryRun a calls b (.ok (snapshot, attempt?)) ∧
      r.Audits (.ofRound index rewritten snapshot attempt?) snapshot attempt? b answer c ∧
      r.pass target dryRun rewritten index ⟨a, events⟩ =
        (answer.map fun _ => (.ofRound index rewritten snapshot attempt?, snapshot.verdict),
          ⟨c, events ++ calls⟩) := by
  rcases analyzed : r.tools.analyze target.path a with ⟨failure | errors, b⟩
  · refine .inl ⟨_, b, _, .unanalyzed analyzed, ?_⟩
    rw [pass, inspect]
    exact bind_of_error (bind_of_error (within_call analyzed _ _))
  rcases tested : r.tools.test target.path b with ⟨failure | failures, c⟩
  · refine .inl ⟨_, c, _, .untested analyzed tested, ?_⟩
    rw [pass, inspect, ← List.singleton_append, ← List.append_assoc]
    refine bind_of_error ?_
    rw [bind_of_ok (within_call analyzed _ _)]
    exact bind_of_error (within_call tested _ _)
  let snapshot : Snapshot := ⟨errors, failures⟩
  have inspected : r.Inspects target a snapshot c := ⟨b, analyzed, tested⟩
  cases due : snapshot.isGold || dryRun with
  | true =>
    obtain ⟨answer, d, audited⟩ :=
      exists_audits (r := r) (.ofRound index rewritten snapshot none) snapshot none c
    exact .inr ⟨_, c, snapshot, none, answer, d, .idle inspected due, audited,
      pass_of_idle inspected due audited events⟩
  | false =>
    obtain ⟨calls, d, answer, attempted, ran⟩ :=
      attempt_course (r := r) target c snapshot (events ++ inspection target snapshot)
    cases answer with
    | error failure =>
      refine .inl ⟨_, d, failure, .refused inspected due attempted, ?_⟩
      rw [pass, bind_of_ok (inspect_of_inspects inspected events), if_neg (by simp [due]),
        ← List.append_assoc]
      exact bind_of_error (bind_of_error ran)
    | ok attempt =>
      obtain ⟨answer, e, audited⟩ := exists_audits (r := r)
        (.ofRound index rewritten snapshot (some attempt)) snapshot (some attempt) d
      exact .inr ⟨_, d, snapshot, some attempt, answer, e, .tried inspected due attempted,
        audited, pass_of_tried inspected due ran audited⟩

/-- Passes behind a history follow a course, whose records they add to the history. -/
theorem passes_course (target : Target) (dryRun rewritten : Bool) (history : History)
    (budget : Nat) (a : Site σ) (events : List Event) :
    ∃ calls rounds b stop,
      r.Course target dryRun rewritten (history.length + 1) budget a calls rounds b stop ∧
      r.passes target dryRun rewritten history budget ⟨a, events⟩ =
        (stop.elim (.ok ⟨history.passes ++ rounds.map (·.record)⟩) .error,
          ⟨b, events ++ calls⟩) := by
  induction budget generalizing history a events with
  | zero => exact ⟨[], [], a, none, .spent, by simp [passes]; rfl⟩
  | succ budget ih =>
    rcases pass_course (r := r) target dryRun rewritten (history.length + 1) a events with
      ⟨calls, b, failure, passed, ran⟩ |
      ⟨calls, b, snapshot, attempt?, answer, c, passed, audited, ran⟩
    · exact ⟨calls, [], b, some failure, .failed passed, bind_of_error ran⟩
    cases answer with
    | error failure =>
      exact ⟨calls, [], c, some failure, .unaudited passed audited, bind_of_error ran⟩
    | ok =>
      rw [passes, bind_of_ok ran]
      cases clean : snapshot.isGold with
      | true =>
        refine ⟨calls, _, c, none, .gold passed audited clean, ?_⟩
        simp only [Snapshot.verdict, clean, if_true]
        rfl
      | false =>
        let record := Pass.ofRound (history.length + 1) rewritten snapshot attempt?
        obtain ⟨later, rounds, d, stop, rest, ran⟩ := ih (history.push record) c (events ++ calls)
        rw [History.length_push] at rest
        refine ⟨_, _, d, stop, .further passed audited clean rest, ?_⟩
        simp only [Snapshot.verdict, clean, Bool.false_eq_true, if_false]
        simpa using ran

theorem execute_of_unresolved {path : Path} {dryRun : Bool} {s : Session σ} {failure : Failure}
    (missing : Target.resolve s.site.disk path = .error failure) :
    r.execute path dryRun s = (.error failure, s) := by
  refine bind_of_error ?_
  refine (bind_of_ok (x := Run.disk) (a := s.site.disk) (t := s) rfl).trans ?_
  rw [missing]
  rfl

theorem locate_of_resolved {path : Path} {s : Session σ}
    (found : Target.resolve s.site.disk path = .ok target) :
    locate path s = (.ok target, s) := by
  refine (bind_of_ok (x := Run.disk) (a := s.site.disk) (t := s) rfl).trans ?_
  rw [found]
  rfl

/-- A run that is allowed no passes rewrites its target and leaves an outcome without records. -/
theorem execute_of_no_budget {path : Path} {s : Session σ} {dryRun rewritten : Bool} {b : Site σ}
    (found : Target.resolve s.site.disk path = .ok target)
    (rewrote : r.tools.rewrite target.path dryRun s.site = (.ok rewritten, b))
    (none : r.maxIterations = 0) :
    r.execute path dryRun s =
      r.finish .empty ⟨b, s.events ++ [.rewrite target.path dryRun (.ok rewritten)]⟩ := by
  rw [execute, bind_of_ok (locate_of_resolved found), bind_of_ok (within_call rewrote _ _), none]
  exact bind_of_ok rfl

/-- Every run on a target that is there follows a course, and its events are the calls of
that course. -/
theorem execute_course {path : Path} {s : Session σ}
    (found : Target.resolve s.site.disk path = .ok target) (dryRun : Bool) :
    ∃ calls rounds b answer, r.RunCourse target dryRun s.site calls rounds b answer ∧
      r.execute path dryRun s = (answer, ⟨b, s.events ++ calls⟩) := by
  rw [execute, bind_of_ok (locate_of_resolved found)]
  rcases rewrote : r.tools.rewrite target.path dryRun s.site with ⟨failure | rewritten, b⟩
  · exact ⟨_, [], b, _, .unrewritten rewrote, bind_of_error (within_call rewrote _ _)⟩
  rw [bind_of_ok (within_call rewrote _ _)]
  obtain ⟨calls, rounds, c, stop, course, ran⟩ := passes_course (r := r) target dryRun rewritten
    .empty r.maxIterations.toNat b (s.events ++ [.rewrite target.path dryRun (.ok rewritten)])
  rw [List.append_assoc, List.singleton_append] at ran
  cases stop with
  | some failure =>
    exact ⟨_, rounds, c, _, .stopped rewrote course, bind_of_error ran⟩
  | none =>
    obtain ⟨answer, d, filed⟩ := exists_finish (r := r) ⟨rounds.map (·.record)⟩ c
    refine ⟨_, rounds, d, answer, .finished rewrote course filed, ?_⟩
    rw [bind_of_ok ran]
    exact filed _

/-- A run with an outcome has found its target, and its course led to the outcome. -/
theorem course_of_execute {path : Path} {dryRun : Bool} {s t : Session σ} {outcome : Outcome}
    (h : r.execute path dryRun s = (.ok outcome, t)) :
    ∃ target calls rounds, r.RunCourse target dryRun s.site calls rounds t.site (.ok outcome) ∧
      t.events = s.events ++ calls := by
  cases found : Target.resolve s.site.disk path with
  | error failure =>
    rw [execute_of_unresolved found] at h
    cases h
  | ok target =>
    obtain ⟨calls, rounds, b, answer, course, ran⟩ := execute_course (r := r) found dryRun
    rw [ran] at h
    cases h
    exact ⟨target, calls, rounds, course, rfl⟩

/-- A completed pass has a course of its own, and its record tells of it. -/
theorem Course.completed {dryRun rewritten : Bool} {index budget : Nat} {a b : Site σ}
    {calls : List Event} {rounds : List (Round σ)} {stop : Option Failure}
    (h : r.Course target dryRun rewritten index budget a calls rounds b stop) {round : Round σ}
    (mem : round ∈ rounds) :
    ∃ i c, r.PassCourse target dryRun round.before round.calls c
        (.ok (round.snapshot, round.attempt?)) ∧
      round.record = .ofRound i rewritten round.snapshot round.attempt? := by
  induction h with
  | spent | failed | unaudited => cases mem
  | gold passed =>
    rw [List.mem_singleton.mp mem]
    exact ⟨_, _, passed, rfl⟩
  | further passed _ _ _ ih =>
    rcases List.mem_cons.mp mem with rfl | mem
    · exact ⟨_, _, passed, rfl⟩
    · exact ih mem

theorem RunCourse.completed {dryRun : Bool} {a b : Site σ} {calls : List Event}
    {rounds : List (Round σ)} {answer : Except Failure Outcome}
    (h : r.RunCourse target dryRun a calls rounds b answer) {round : Round σ}
    (mem : round ∈ rounds) :
    ∃ i rewritten c, r.PassCourse target dryRun round.before round.calls c
        (.ok (round.snapshot, round.attempt?)) ∧
      round.record = .ofRound i rewritten round.snapshot round.attempt? := by
  cases h with
  | unrewritten => cases mem
  | stopped _ course | finished _ course =>
    obtain ⟨i, c, passed, record⟩ := course.completed mem
    exact ⟨i, _, c, passed, record⟩

end Repair

end Mender
