import Mathlib
import Mender.Proofs.Project
import Mender.Shell.Machine

/-!
# What a machine leaves

A program that cannot be started changes nothing. One that is started may change the disk, but
neither the working directory of those who started it nor what they remember.
-/

namespace Mender.Shell

variable {env : List (String × String)} {disk after : Disk} {i : Invocation} {e : SystemError}

/-- What was started is not refused any more. -/
theorem ending_ne_refused (workdir : Location) (program : Program) (limit : Nat) :
    ending env disk workdir program limit ≠ (.refused e, after) := by
  unfold ending
  generalize (runToEnd program).run.run (initial env disk workdir limit) = ran
  obtain ⟨result, left⟩ := ran
  dsimp only
  split <;> nofun

/-- A program that is refused leaves the disk as it was. -/
theorem eq_of_refused (refused : runOn env disk i = (.refused e, after)) : after = disk := by
  unfold runOn at refused
  split at refused
  · cases refused
    rfl
  · split at refused
    · cases refused
      rfl
    · dsimp only at refused
      split at refused
      · cases refused
        rfl
      · split at refused
        · cases refused
        · exact absurd refused (ending_ne_refused _ _ _)

theorem cwd_ending (workdir : Location) (program : Program) (limit : Nat) :
    (ending env disk workdir program limit).2.cwd = disk.cwd := by
  unfold ending
  generalize (runToEnd program).run.run (initial env disk workdir limit) = ran
  obtain ⟨result, left⟩ := ran
  dsimp only
  split <;> rfl

/-- Programs have working directories of their own. -/
theorem cwd_runOn : (runOn env disk i).2.cwd = disk.cwd := by
  unfold runOn
  split
  · rfl
  · split
    · rfl
    · dsimp only
      split
      · rfl
      · split
        · rfl
        · exact cwd_ending _ _ _

section Running

variable {σ : Type} {a b : Site σ} {limit : Nat} {failure : Failure}

theorem run_machine (env : List (String × String)) (i : Invocation) (a : Site σ) :
    (machine env).run i a = ((runOn env a.disk i).1, { a with disk := (runOn env a.disk i).2 }) :=
  rfl

/-- Running a program fails because its directory is missing, because it cannot be started or
because its time is up, and only in the last case anything may have changed. -/
theorem run_failed (h : Invocation.run (machine env) limit i a = (.error failure, b)) :
    (failure.cause = .workdirMissing i.workdir ∧ b = a) ∨
      (∃ e, failure.cause = .system e ∧ b = a) ∨
      failure.cause = .processTimeout i.commandLine i.timeout := by
  rw [Invocation.run_apply, run_machine] at h
  split at h
  · rcases ran : runOn env a.disk i with ⟨ended, disk⟩
    rw [ran] at h
    cases ended with
    | refused e =>
      cases h
      cases eq_of_refused ran
      exact .inr (.inl ⟨e, rfl, rfl⟩)
    | overran =>
      cases h
      exact .inr (.inr rfl)
    | finished => cases h
  · cases h
    exact .inl ⟨rfl, rfl⟩

end Running

end Mender.Shell
