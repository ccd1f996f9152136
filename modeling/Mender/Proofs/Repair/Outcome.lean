import Mender.Proofs.Repair.Course
import Mender.Rehearsal

/-!
# Outcomes

The outcome of a run is computed from its records alone, while the passes decide
from the snapshots when to stop. `execute_accounts` ties both to the calls that
the run made, whatever the tools and the oracle do.
-/

namespace Mender

namespace Event

/-- What an analysis found. -/
def analysis? : Event → Option (List Finding)
  | .analyze _ (.ok found) => some found
  | _ => none

/-- What a test run found. -/
def testing? : Event → Option (List Finding)
  | .test _ (.ok found) => some found
  | _ => none

/-- What the rewriter answered. -/
def rewriting? : Event → Option Bool
  | .rewrite _ _ (.ok changed) => some changed
  | _ => none

end Event

/-- What an outcome says about the calls of a run that was allowed so many passes. -/
structure Outcome.Accounts (outcome : Outcome) (budget : Nat) (calls : List Event) : Prop where
  iterations_eq : outcome.iterations = outcome.history.length
  iterations_le : outcome.iterations ≤ budget
  index_eq : ∀ i pass, outcome.history[i]? = some pass → pass.index = i + 1
  staticErrors_eq : outcome.history.map (·.staticErrors) =
    (calls.filterMap Event.analysis?).map List.length
  testFailures_eq : outcome.history.map (·.testFailures) =
    (calls.filterMap Event.testing?).map List.length
  rewriterApplied_eq : ∃ changed, calls.filterMap Event.rewriting? = [changed] ∧
    ∀ i pass, outcome.history[i]? = some pass → pass.rewriterApplied = (i = 0 && changed)
  found_before_last : ∀ i pass, outcome.history[i]? = some pass → i + 1 < outcome.history.length →
    pass.staticErrors ≠ 0 ∨ pass.testFailures ≠ 0
  success_iff : outcome.success = true ↔ ∃ last, outcome.history.getLast? = some last ∧
    last.staticErrors = 0 ∧ last.testFailures = 0
  exhausted : outcome.success = false → outcome.iterations = budget
  finalErrors_eq : outcome.finalErrors = (outcome.history.getLast?.map (·.staticErrors)).getD 0
  finalTestFailures_eq :
    outcome.finalTestFailures = (outcome.history.getLast?.map (·.testFailures)).getD 0

theorem Snapshot.not_gold_iff (s : Snapshot) :
    s.isGold = false ↔ s.staticErrors.length ≠ 0 ∨ s.testFailures.length ≠ 0 := by
  rw [← Bool.not_eq_true, s.isGold_iff, Decidable.not_and_iff_not_or_not]

namespace History

theorem outcome_finalErrors (h : History) :
    h.outcome.finalErrors = (h.passes.getLast?.map (·.staticErrors)).getD 0 := by
  unfold outcome last?
  cases h.passes.getLast? <;> rfl

theorem outcome_finalTestFailures (h : History) :
    h.outcome.finalTestFailures = (h.passes.getLast?.map (·.testFailures)).getD 0 := by
  unfold outcome last?
  cases h.passes.getLast? <;> rfl

/-- Success is read off the last record, and a run without records is none. -/
theorem outcome_success_iff (h : History) :
    h.outcome.success = true ↔ ∃ last, h.passes.getLast? = some last ∧
      last.staticErrors = 0 ∧ last.testFailures = 0 := by
  unfold outcome last? isEmpty
  cases hl : h.passes.getLast? with
  | none => simp [List.getLast?_eq_none_iff.mp hl]
  | some last =>
    have ne : h.passes ≠ [] := by
      intro empty
      simp [empty] at hl
    simp [ne]

end History

namespace Repair

open scoped Mender.Path

variable {σ : Type} {r : Repair σ} {target : Target} {dryRun rewritten : Bool}
  {index budget : Nat} {a b : Site σ} {calls : List Event} {rounds : List (Round σ)}
  {stop : Option Failure}

theorem AttemptCourse.filterMap_calls {β : Type} {view : Event → Option β} {snapshot : Snapshot}
    {answer : Except Failure Attempt} (h : r.AttemptCourse target a snapshot calls b answer)
    (ask : ∀ prompt current fix, view (.ask prompt current fix) = none)
    (write : ∀ path content done, view (.write path content done) = none) :
    calls.filterMap view = [] := by
  cases h <;> simp [ask, write]

/-- A view that sees neither questions nor writes sees of a pass its inspection only. -/
theorem PassCourse.filterMap_calls {β : Type} {view : Event → Option β} {snapshot : Snapshot}
    {attempt? : Option Attempt}
    (h : r.PassCourse target dryRun a calls b (.ok (snapshot, attempt?)))
    (ask : ∀ prompt current fix, view (.ask prompt current fix) = none)
    (write : ∀ path content done, view (.write path content done) = none) :
    calls.filterMap view = (inspection target snapshot).filterMap view := by
  cases h with
  | idle => rfl
  | tried _ _ attempted =>
    rw [List.filterMap_append, attempted.filterMap_calls ask write, List.append_nil]

theorem Course.filterMap_calls {β : Type} {view : Event → Option β}
    (h : r.Course target dryRun rewritten index budget a calls rounds b stop)
    (ask : ∀ prompt current fix, view (.ask prompt current fix) = none)
    (write : ∀ path content done, view (.write path content done) = none)
    (complete : stop = none) :
    calls.filterMap view =
      rounds.flatMap fun round => (inspection target round.snapshot).filterMap view := by
  induction h with
  | spent => rfl
  | failed | unaudited => cases complete
  | gold passed => simp [passed.filterMap_calls ask write]
  | further passed _ _ _ ih =>
    rw [List.filterMap_append, passed.filterMap_calls ask write, ih complete, List.flatMap_cons]

theorem Course.length_le
    (h : r.Course target dryRun rewritten index budget a calls rounds b stop) :
    rounds.length ≤ budget := by
  induction h with
  | spent | failed | unaudited => simp
  | gold => simp
  | further _ _ _ _ ih => simpa using ih

theorem Course.record_eq
    (h : r.Course target dryRun rewritten index budget a calls rounds b stop) {i : Nat}
    {round : Round σ} (at_i : rounds[i]? = some round) :
    round.record = .ofRound (index + i) rewritten round.snapshot round.attempt? := by
  induction h generalizing i with
  | spent | failed | unaudited => simp at at_i
  | gold =>
    obtain ⟨rfl, rfl⟩ : i = 0 ∧ _ = round := by simpa [List.getElem?_singleton] using at_i
    rfl
  | further _ _ _ _ ih =>
    cases i with
    | zero =>
      cases Option.some.inj at_i
      rfl
    | succ i =>
      rw [ih at_i, Nat.add_right_comm, Nat.add_assoc]

/-- Only the last of the completed passes can be without findings. -/
theorem Course.found_before_last
    (h : r.Course target dryRun rewritten index budget a calls rounds b stop) {i : Nat}
    {round : Round σ} (at_i : rounds[i]? = some round) (later : i + 1 < rounds.length) :
    round.snapshot.isGold = false := by
  induction h generalizing i with
  | spent | failed | unaudited => simp at at_i
  | gold => simp at later
  | further _ _ found _ ih =>
    cases i with
    | zero =>
      cases Option.some.inj at_i
      exact found
    | succ i => exact ih at_i (by simpa using later)

/-- Passes that are not cut short use up the budget or end at one without findings. -/
theorem Course.gold_or_spent
    (h : r.Course target dryRun rewritten index budget a calls rounds b stop)
    (complete : stop = none) :
    (∃ last, rounds.getLast? = some last ∧ last.snapshot.isGold = true) ∨
      rounds.length = budget := by
  induction h with
  | spent => exact .inr rfl
  | failed | unaudited => cases complete
  | gold _ _ clean => exact .inl ⟨_, rfl, clean⟩
  | further _ _ _ _ ih =>
    rcases ih complete with ⟨last, hl, clean⟩ | full
    · refine .inl ⟨last, ?_, clean⟩
      rw [List.getLast?_cons, hl]
      rfl
    · exact .inr (by simp [full])

theorem outcome_of_finish {history : History} {s t : Session σ} {outcome : Outcome}
    (h : r.finish history s = (.ok outcome, t)) : outcome = history.outcome := by
  cases kept : r.auditDir? with
  | none =>
    simp only [finish, kept] at h
    cases h
    rfl
  | some dir =>
    rw [finish_filing kept history s.site s.events] at h
    obtain ⟨answered, -⟩ := Prod.mk.inj h
    cases filed : (AuditTrail.writeOutcome dir history.outcome s.site.disk).1 with
    | error failure =>
      rw [filed] at answered
      cases answered
    | ok path =>
      rw [filed] at answered
      exact (Except.ok.inj answered).symm

/-- In passes that are not cut short, each analysis and each test run belongs to one record. -/
theorem Course.views (h : r.Course target dryRun rewritten index budget a calls rounds b none) :
    calls.filterMap Event.analysis? = rounds.map (·.snapshot.staticErrors) ∧
      calls.filterMap Event.testing? = rounds.map (·.snapshot.testFailures) ∧
      calls.filterMap Event.rewriting? = [] := by
  have seen {β : Type} {view : Event → Option β} (ask : ∀ prompt current fix,
      view (.ask prompt current fix) = none) (write : ∀ path content done,
      view (.write path content done) = none) :=
    h.filterMap_calls ask write rfl
  refine ⟨?_, ?_, ?_⟩
  · rw [seen (fun _ _ _ => rfl) fun _ _ _ => rfl, List.map_eq_flatMap]
    rfl
  · rw [seen (fun _ _ _ => rfl) fun _ _ _ => rfl, List.map_eq_flatMap]
    rfl
  · rw [seen (fun _ _ _ => rfl) fun _ _ _ => rfl, List.flatMap_eq_nil_iff]
    exact fun _ _ => rfl

theorem Course.counts (h : r.Course target dryRun rewritten index budget a calls rounds b stop)
    {round : Round σ} (mem : round ∈ rounds) :
    round.record.staticErrors = round.snapshot.staticErrors.length ∧
      round.record.testFailures = round.snapshot.testFailures.length := by
  obtain ⟨i, c, -, record⟩ := h.completed mem
  rw [record]
  exact ⟨rfl, rfl⟩

/-- Passes that were not cut short and came to no success have used up the budget. -/
theorem Course.length_of_unsuccessful
    (h : r.Course target dryRun rewritten index budget a calls rounds b none)
    (failed : (History.mk (rounds.map (·.record))).outcome.success = false) :
    rounds.length = budget := by
  rcases h.gold_or_spent rfl with ⟨last, hl, clean⟩ | spent
  · have success : (History.mk (rounds.map (·.record))).outcome.success = true := by
      refine (History.outcome_success_iff _).mpr ⟨last.record, by simp [hl], ?_⟩
      obtain ⟨errors, failures⟩ := h.counts (List.mem_of_getLast? hl)
      rw [errors, failures]
      exact (Snapshot.isGold_iff last.snapshot).mp clean
    rw [success] at failed
    cases failed
  · exact spent

/-- The records of passes that were not cut short account for the calls. -/
theorem Course.accounts
    (h : r.Course target dryRun rewritten 1 r.maxIterations.toNat a calls rounds b none) :
    (History.mk (rounds.map (·.record))).outcome.Accounts r.maxIterations.toNat
      (.rewrite target.path dryRun (.ok rewritten) :: calls) := by
  let outcome := (History.mk (rounds.map (·.record))).outcome
  have record_eq {i : Nat} {pass : Pass} (at_i : outcome.history[i]? = some pass) :
      ∃ round, rounds[i]? = some round ∧
        pass = .ofRound (i + 1) rewritten round.snapshot round.attempt? := by
    change (rounds.map (·.record))[i]? = some pass at at_i
    rw [List.getElem?_map, Option.map_eq_some_iff] at at_i
    obtain ⟨round, at_i, rfl⟩ := at_i
    exact ⟨round, at_i, by rw [h.record_eq at_i, Nat.add_comm]⟩
  have iterations : outcome.iterations = rounds.length := by
    have := h.length_le
    have := r.maxIterations.toNat_lt
    simp only [outcome, History.outcome, History.length, List.length_map, UInt32.size]
    omega
  obtain ⟨analyses, tests, rewritings⟩ := h.views
  refine
    { iterations_eq := by rw [iterations]; simp [History.outcome]
      iterations_le := iterations ▸ h.length_le
      index_eq := ?_
      staticErrors_eq := ?_
      testFailures_eq := ?_
      rewriterApplied_eq := ⟨rewritten, by simp [Event.rewriting?, rewritings], ?_⟩
      found_before_last := ?_
      success_iff := History.outcome_success_iff _
      exhausted := ?_
      finalErrors_eq := History.outcome_finalErrors _
      finalTestFailures_eq := History.outcome_finalTestFailures _ }
  · intro i pass at_i
    obtain ⟨round, -, rfl⟩ := record_eq at_i
    rfl
  · change (rounds.map (·.record)).map (·.staticErrors) =
      (calls.filterMap Event.analysis?).map List.length
    rw [analyses, List.map_map, List.map_map]
    exact List.map_congr_left fun round mem => (h.counts mem).1
  · change (rounds.map (·.record)).map (·.testFailures) =
      (calls.filterMap Event.testing?).map List.length
    rw [tests, List.map_map, List.map_map]
    exact List.map_congr_left fun round mem => (h.counts mem).2
  · intro i pass at_i
    obtain ⟨round, -, rfl⟩ := record_eq at_i
    simp [Pass.ofRound, Pass.ofSnapshot]
  · intro i pass at_i later
    obtain ⟨round, at_round, rfl⟩ := record_eq at_i
    exact (Snapshot.not_gold_iff round.snapshot).mp
      (h.found_before_last at_round (by simpa [History.outcome] using later))
  · exact fun failed => iterations.trans (h.length_of_unsuccessful failed)

theorem RunCourse.accounts {outcome : Outcome}
    (h : r.RunCourse target dryRun a calls rounds b (.ok outcome)) :
    outcome.Accounts r.maxIterations.toNat calls := by
  cases h with
  | finished _ course filed =>
    rw [outcome_of_finish (filed [])]
    exact course.accounts

/-- Whatever the tools and the oracle do, the outcome of a run accounts for its calls. -/
theorem execute_accounts {path : Path} {s t : Session σ} {outcome : Outcome}
    (h : r.execute path dryRun s = (.ok outcome, t)) :
    ∃ calls, t.events = s.events ++ calls ∧ outcome.Accounts r.maxIterations.toNat calls := by
  cases found : Target.resolve s.site.disk path with
  | error failure =>
    rw [execute_of_unresolved found] at h
    cases h
  | ok target =>
    obtain ⟨calls, rounds, b, answer, course, ran⟩ := execute_course (r := r) found dryRun
    rw [ran] at h
    cases h
    refine ⟨calls, rfl, ?_⟩
    cases course with
    | finished _ course filed =>
      rw [outcome_of_finish (filed [])]
      exact course.accounts

/-- A rehearsed run of at most three passes. -/
def rehearsal (auditDir? : Option Path) : Repair Script where
  tools := Rehearsal.toolchain ⟨true, none, none⟩
  oracle := .rehearsed
  maxIterations := 3
  language := .default
  auditDir?

/-- Before a rehearsal on the file `/a`, or on the directory `/d` with the file `m` in it: one
analysis will find an error, the next nothing. -/
def onStage (answers : List Fix) : Session Script where
  site := ⟨⟨[(["a"], .file [60] false), (["d"], .directory), (["d", "m"], .file [61] false)],
    [], []⟩,
    .ofLists [.sample 1 0, .sample 0 0] answers⟩
  events := []

/-- How a dry rehearsal ends. -/
def dryEnding : Outcome :=
  ⟨true, 2, 0, 0, [⟨1, true, 1, 0, false⟩, ⟨2, false, 0, 0, false⟩]⟩

theorem execute_accounts_rehearsal :
    ((rehearsal none).execute "/a" true (onStage [])).1 = .ok dryEnding ∧
      ∃ calls, ((rehearsal none).execute "/a" true (onStage [])).2.events = [] ++ calls ∧
        dryEnding.Accounts 3 calls := by
  have answer : ((rehearsal none).execute "/a" true (onStage [])).1 = .ok dryEnding := by cbv
  exact ⟨answer, execute_accounts (Prod.ext answer rfl)⟩

end Repair

end Mender
