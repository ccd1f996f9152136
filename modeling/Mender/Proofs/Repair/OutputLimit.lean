import Mender.Proofs.Finding.Cut
import Mender.Proofs.Finding.Markers
import Mender.Proofs.Project
import Mender.Proofs.Repair.Course

/-!
# Outputs beyond the limit

The limit of the outputs decides how much of a report is read, and so what a pass finds.
`inspect_of_finished` says what is left of the findings: a report with findings is found
in full or, where more than blanks are cut off it, not at all. A failed test run counts
under every limit, for it is told by the exit code.
-/

namespace Mender

/-- What a pass has found under a limit of the outputs, where the analyzer has written the
report and the tests have ended so. -/
structure Snapshot.Limited (limit : Nat) (report : Bytes) (tests : ExitStatus) (s : Snapshot) :
    Prop where
  reported : AnalyzerReport.parse report ≠ [] → s.staticErrors =
    if AnalyzerReport.body (report.take limit) = AnalyzerReport.body report then
      AnalyzerReport.parse report
    else []
  within_limit : report.length ≤ limit → s.staticErrors = AnalyzerReport.parse report
  failed : tests ≠ .exited 0 → s.testFailures ≠ []
  passed : tests = .exited 0 → s.testFailures = []
  success_iff : s.verdict = .success ↔ s.staticErrors = [] ∧ tests = .exited 0

theorem Snapshot.verdict_eq_success_iff (s : Snapshot) :
    s.verdict = .success ↔ s.staticErrors = [] ∧ s.testFailures = [] := by
  unfold verdict isGold
  cases s.staticErrors <;> cases s.testFailures <;> simp

namespace Snapshot

/-- What is read from the kept part of the outputs is limited so. -/
theorem limited_parse (limit : Nat) (report output : Bytes) (tests : ExitStatus) :
    Limited limit report tests ⟨AnalyzerReport.parse (report.take limit),
      TestReport.parse (tests = .exited 0) output⟩ := by
  have failures : TestReport.parse (tests = .exited 0) output = [] ↔ tests = .exited 0 := by
    rw [TestReport.parse_eq_nil_iff, decide_eq_true_iff]
  refine ⟨fun found => AnalyzerReport.parse_take found limit, fun fits => ?_, ?_, failures.mpr, ?_⟩
  · rw [List.take_of_length_le fits]
  · intro failed none
    exact failed (failures.mp none)
  · rw [verdict_eq_success_iff, failures]

end Snapshot

namespace Repair

variable {σ : Type}

/-- Where the programs of the analyzer and the tests are run to their ends, the pass goes by
what the limit leaves of their outputs. -/
theorem inspect_of_finished {r : Repair σ} {p : Project} {machine : Machine σ} {target : Target}
    {a b c : Site σ} {status tests : ExitStatus} {stdout stderr stdout' stderr' : List Bytes}
    (uses : r.tools = p.toolchain machine)
    (there : a.disk.isDirectory p.root = true)
    (analyzed : machine.run (p.invocation p.tools.analyzer target.path) a =
      (.finished status stdout stderr, b))
    (still_there : b.disk.isDirectory p.root = true)
    (tested : machine.run (p.invocation p.tools.tests target.path) b =
      (.finished tests stdout' stderr', c)) (events : List Event) :
    ∃ snapshot, r.inspect target ⟨a, events⟩ =
        (.ok snapshot, ⟨c, events ++ inspection target snapshot⟩) ∧
      snapshot.Limited p.outputLimit stdout.flatten tests := by
  have limited := Snapshot.limited_parse p.outputLimit stdout.flatten
    (stdout'.flatten.take p.outputLimit ++ stderr'.flatten.take p.outputLimit) tests
  refine ⟨_, inspect_of_inspects ⟨b, ?_, ?_⟩ events, limited⟩
  · rw [uses]
    exact Project.analyze_of_finished there analyzed
  · rw [uses]
    exact Project.test_of_finished still_there tested

open scoped Mender.Path

/-- A report of one error. -/
def oneError : Bytes :=
  Utf8.encode "\x7b\"files\":\x7b\"a\":\x7b\"messages\":[\x7b\x7d]\x7d\x7d\x7d"

/-- Every program writes the report of one error and ends well. -/
def reporting : Machine Unit := ⟨fun _ site => (.finished (.exited 0) [oneError] [], site)⟩

/-- A project at the root that keeps so many bytes of each output. -/
def keeping (limit : UInt64) : Project :=
  .ofSettings "/" { Settings.default with outputLimitBytes := limit }

/-- Runs with the tools of such a project. -/
def curt (limit : UInt64) : Repair Unit :=
  .ofSettings ((keeping limit).toolchain reporting) .disabled .default

def plainSite : Site Unit := ⟨⟨[(["a"], .file [] false)], [], []⟩, ()⟩

theorem parse_oneError :
    AnalyzerReport.parse oneError = [.staticError "a" 0 "Unknown error" false] := by
  cbv

theorem isDirectory_root (limit : UInt64) :
    plainSite.disk.isDirectory (keeping limit).root = true := by
  have root : (keeping limit).root = Path.ofText "/" := rfl
  rw [root]
  cbv

theorem run_reporting (i : Invocation) :
    reporting.run i plainSite = (.finished (.exited 0) [oneError] [], plainSite) := rfl

/-- Within the limit the error of the report is found, and under a limit of one byte it is
not. -/
theorem inspect_of_finished_reporting :
    (∃ snapshot, ((curt 100).inspect ⟨"/a", false⟩ ⟨plainSite, []⟩).1 = .ok snapshot ∧
      snapshot.Limited 100 oneError (.exited 0)) ∧
    ∃ snapshot, ((curt 1).inspect ⟨"/a", false⟩ ⟨plainSite, []⟩).1 = .ok snapshot ∧
      snapshot.Limited 1 oneError (.exited 0) := by
  have inspected (limit : UInt64) : ∃ snapshot,
      (curt limit).inspect ⟨"/a", false⟩ ⟨plainSite, []⟩ =
        (.ok snapshot, ⟨plainSite, inspection ⟨"/a", false⟩ snapshot⟩) ∧
      snapshot.Limited (keeping limit).outputLimit [oneError].flatten (.exited 0) :=
    inspect_of_finished (p := keeping limit) rfl (isDirectory_root limit) (run_reporting _)
      (isDirectory_root limit) (run_reporting _) []
  obtain ⟨found, ran, limited⟩ := inspected 100
  obtain ⟨overlooked, ran', limited'⟩ := inspected 1
  exact ⟨⟨found, congrArg Prod.fst ran, limited⟩, ⟨overlooked, congrArg Prod.fst ran', limited'⟩⟩

/-- A report with an error, of which one byte is kept, is taken for none, and the pass is a
success. -/
theorem inspect_overlooks :
    AnalyzerReport.parse oneError ≠ [] ∧ 1 ≤ (keeping 1).outputLimit ∧
      ((curt 1).tools.analyze "/a" plainSite).1 = .ok [] ∧
      ((curt 1).inspect ⟨"/a", false⟩ ⟨plainSite, []⟩).1 = .ok .empty ∧
      Snapshot.empty.verdict = .success := by
  have cut : AnalyzerReport.parse ([oneError].flatten.take (keeping 1).outputLimit) = [] := by cbv
  have analyzed : (curt 1).tools.analyze "/a" plainSite = (.ok [], plainSite) := by
    rw [← cut]
    exact Project.analyze_of_finished (isDirectory_root 1) (run_reporting _)
  have tested : (curt 1).tools.test "/a" plainSite = (.ok [], plainSite) :=
    Project.test_of_finished (isDirectory_root 1) (run_reporting _)
  have inspected : (curt 1).Inspects ⟨"/a", false⟩ plainSite .empty plainSite :=
    ⟨plainSite, analyzed, tested⟩
  refine ⟨?_, Nat.le_refl 1, congrArg Prod.fst analyzed,
    congrArg Prod.fst (inspect_of_inspects inspected []), rfl⟩
  rw [parse_oneError]
  exact List.cons_ne_nil _ _

end Repair

end Mender
