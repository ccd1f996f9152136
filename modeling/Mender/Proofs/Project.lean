import Mender.Project
import Mender.Proofs.Capture
import Mender.Proofs.Filing
import Mender.Proofs.Finding.Size

/-!
# What the tools of a project answer

A tool answers exactly if its program was run to its end, and the answer is read from what
was kept of its outputs.
-/

namespace Mender

variable {σ : Type} {machine : Machine σ} {a b : Site σ}

namespace Invocation

variable {limit : Nat} {i : Invocation}

theorem run_apply (machine : Machine σ) (limit : Nat) (i : Invocation) (a : Site σ) :
    run machine limit i a =
      if a.disk.isDirectory i.workdir then
        match machine.run i a with
        | (.refused e, b) =>
          (.error ((Failure.ofCause (.system e)).within ("spawn " ++ i.program.shown)), b)
        | (.overran, b) => (.error (.ofCause (.processTimeout i.commandLine i.timeout)), b)
        | (.finished status stdout stderr, b) =>
          (.ok ⟨status, .ofPieces limit stdout, .ofPieces limit stderr⟩, b)
      else (.error (.ofCause (.workdirMissing i.workdir)), a) := by
  unfold run
  refine (bind_of_ok (a := a) (t := a) rfl).trans ?_
  cases a.disk.isDirectory i.workdir with
  | false => rfl
  | true =>
    rcases ran : machine.run i a with ⟨ending, b⟩
    have lifted : (liftM (machine.run i) : Effect σ Ending) a = (.ok ending, b) :=
      congrArg (fun done : Ending × Site σ => (Except.ok done.1, done.2)) ran
    refine (bind_of_ok lifted).trans ?_
    cases ending <;> rfl

theorem run_of_finished (there : a.disk.isDirectory i.workdir = true) {status : ExitStatus}
    {stdout stderr : List Bytes} (ran : machine.run i a = (.finished status stdout stderr, b)) :
    run machine limit i a = (.ok ⟨status, .ofPieces limit stdout, .ofPieces limit stderr⟩, b) := by
  rw [run_apply, if_pos there, ran]

/-- A run that ends well has kept of both outputs what the limit allows. -/
theorem kept_of_run {t : Transcript} (h : run machine limit i a = (.ok t, b)) :
    t.stdout.kept.length ≤ limit ∧ t.stderr.kept.length ≤ limit := by
  rw [run_apply] at h
  split at h
  · split at h
    · cases h
    · cases h
    · next stdout stderr _ _ =>
      cases h
      exact ⟨Capture.length_kept_le limit stdout, Capture.length_kept_le limit stderr⟩
  · cases h

end Invocation

namespace Project

variable {p : Project} {target : Path}

/-- How one of the tools is run on a target. -/
def invocation (p : Project) (spec : ToolSpec) (target : Path) : Invocation where
  program := spec.binaryPath p.root
  args := spec.renderArgs (p.vars target)
  workdir := p.root
  timeout := p.timeout

theorem run_of_finished {name : String} {spec : ToolSpec} (there : a.disk.isDirectory p.root = true)
    {status : ExitStatus} {stdout stderr : List Bytes}
    (ran : machine.run (p.invocation spec target) a = (.finished status stdout stderr, b)) :
    p.run machine name spec (spec.renderArgs (p.vars target)) a =
      (.ok ⟨status, .ofPieces p.outputLimit stdout, .ofPieces p.outputLimit stderr⟩, b) := by
  have here : a.disk.isDirectory (p.invocation spec target).workdir = true := there
  have finished : Invocation.run machine p.outputLimit (p.invocation spec target) a = _ :=
    Invocation.run_of_finished here ran
  unfold run Effect.within
  dsimp only [invocation] at finished
  rw [finished]
  rfl

theorem kept_of_run {name : String} {spec : ToolSpec} {args : List String} {t : Transcript}
    (h : p.run machine name spec args a = (.ok t, b)) :
    t.stdout.kept.length ≤ p.outputLimit ∧ t.stderr.kept.length ≤ p.outputLimit := by
  unfold run Effect.within at h
  split at h
  next result c ran =>
  cases result with
  | error => cases h
  | ok =>
    cases h
    exact Invocation.kept_of_run ran

/-- The findings of an analysis are those in what was kept of the analyzer's output. -/
theorem analyze_of_finished (there : a.disk.isDirectory p.root = true) {status : ExitStatus}
    {stdout stderr : List Bytes}
    (ran : machine.run (p.invocation p.tools.analyzer target) a =
      (.finished status stdout stderr, b)) :
    p.analyze machine target a =
      (.ok (AnalyzerReport.parse (stdout.flatten.take p.outputLimit)), b) := by
  rw [analyze, bind_of_ok (run_of_finished there ran), ← Capture.kept_ofPieces]
  rfl

/-- The failures of a test run are read from what was kept of both outputs. -/
theorem test_of_finished (there : a.disk.isDirectory p.root = true) {status : ExitStatus}
    {stdout stderr : List Bytes}
    (ran : machine.run (p.invocation p.tools.tests target) a =
      (.finished status stdout stderr, b)) :
    p.test machine target a =
      (.ok (TestReport.parse (status = .exited 0)
        (stdout.flatten.take p.outputLimit ++ stderr.flatten.take p.outputLimit)), b) := by
  rw [test, bind_of_ok (run_of_finished there ran), ← Capture.kept_ofPieces,
    ← Capture.kept_ofPieces]
  cases status <;> simp [Transcript.success, Transcript.exitCode?, Transcript.combined] <;> rfl

theorem length_analyze_le {found : List Finding} (h : p.analyze machine target a = (.ok found, b)) :
    found.length ≤ p.outputLimit := by
  obtain ⟨t, c, ran, read⟩ := ok_of_bind h
  cases read
  exact (AnalyzerReport.length_parse_le _).trans (kept_of_run ran).1

/-- A failure takes six bytes of the two outputs, unless it is the only one. -/
theorem length_test_le {found : List Finding} (h : p.test machine target a = (.ok found, b)) :
    found.length ≤ max 1 p.outputLimit := by
  obtain ⟨t, c, ran, read⟩ := ok_of_bind h
  cases read
  obtain ⟨stdout, stderr⟩ := kept_of_run ran
  have bound := TestReport.length_parse_le t.success t.combined
  simp only [Transcript.combined, List.length_append, TestReport.failedWord, List.length_cons,
    List.length_nil] at bound ⊢
  omega

end Project

end Mender
