import Mender.Proofs.Repair.FileTarget

/-!
# Runs on a directory

A directory is read, but never written. The first answer that brings new content ends
the run, and the files below the directory are left alone.
-/

namespace Mender.Repair

open Event

variable {σ : Type} {r : Repair σ} {target : Target} {place : Location} {dryRun rewritten : Bool}
  {index budget : Nat} {a b : Site σ} {calls : List Event} {rounds : List (Round σ)}
  {snapshot : Snapshot} {stop : Option Failure}

/-- What a run on a directory fails with when an answer brings new content. -/
def unsupported (target : Target) : Failure := .ofCause (.unsupportedWrite target.path)

theorem write_directory (directory : target.isDirectory = true) (content : String) (d : Disk) :
    target.write content d = (.error (unsupported target), d) := by
  rw [Target.write, if_pos directory]
  rfl

/-- The first answer that brings new content is the last one: the write of it fails, and the
calls end so. -/
def Halts (target : Target) (calls : List Event) (ending : Prop) : Prop :=
  ∀ prompt current content, .ask prompt current (.applied content) ∈ calls →
    content.rightTrimmed ≠ current.rightTrimmed →
      ending ∧ ∃ before, calls = before ++ [.ask prompt current (.applied content),
        .write target.path content (.error (unsupported target))]

theorem Halts.mono {ending ending' : Prop} (h : Halts target calls ending)
    (ends : ending → ending') : Halts target calls ending' := by
  intro prompt current content mem other
  obtain ⟨ended, last⟩ := h prompt current content mem other
  exact ⟨ends ended, last⟩

theorem halts_of_no_ask {ending : Prop}
    (silent : ∀ prompt current fix, .ask prompt current fix ∉ calls) :
    Halts target calls ending :=
  fun prompt current content mem => absurd mem (silent prompt current (.applied content))

theorem Halts.prepend {earlier : List Event} {ending : Prop} (h : Halts target calls ending)
    (silent : lastApplied? earlier = none) : Halts target (earlier ++ calls) ending := by
  intro prompt current content mem other
  rcases List.mem_append.mp mem with mem | mem
  · have brought := (isSome_lastApplied?_iff earlier).mpr ⟨prompt, current, content, mem, other⟩
    rw [silent] at brought
    cases brought
  · obtain ⟨ended, before, rfl⟩ := h prompt current content mem other
    exact ⟨ended, earlier ++ before, (List.append_assoc ..).symm⟩

theorem halts_of_silent {ending : Prop} (silent : lastApplied? calls = none) :
    Halts target calls ending := by
  have none : Halts target [] ending := halts_of_no_ask nofun
  rw [← List.append_nil calls]
  exact none.prepend silent

variable (directory : target.isDirectory = true)
include directory

theorem AttemptCourse.silent {attempt : Attempt}
    (h : r.AttemptCourse target a snapshot calls b (.ok attempt)) :
    lastApplied? calls = none := by
  cases h with
  | kept _ nothing => rw [lastApplied?_ask, nothing]
  | written _ _ wrote =>
    rw [write_directory directory] at wrote
    cases wrote

theorem AttemptCourse.halts {failure : Failure}
    (h : r.AttemptCourse target a snapshot calls b (.error failure)) :
    Halts target calls (failure = unsupported target) := by
  cases h with
  | refused _ replaced wrote =>
    rw [write_directory directory] at wrote
    cases wrote
    intro prompt current content mem other
    have brought : applied? (.ask prompt current (.applied content)) = some content :=
      applied?_eq_some_iff.mpr ⟨prompt, current, rfl, other⟩
    rcases List.mem_cons.mp mem with ask | mem
    · rw [ask, applied?_ask, replaced] at brought
      cases brought
      rw [ask]
      exact ⟨rfl, [], rfl⟩
    · simp at mem

theorem AttemptCourse.holds {data? : Option Bytes} {answer : Except Failure Attempt}
    (h : r.AttemptCourse target a snapshot calls b answer)
    (spares : r.Spares target.path (r.Holds place data?)) (holds : r.Holds place data? a.disk) :
    r.Holds place data? b.disk := by
  cases h with
  | kept asked => exact spares.asked asked holds
  | written _ _ wrote =>
    rw [write_directory directory] at wrote
    cases wrote
  | refused asked _ wrote =>
    rw [write_directory directory] at wrote
    cases wrote
    exact spares.asked asked holds

theorem PassCourse.silent {attempt? : Option Attempt}
    (h : r.PassCourse target dryRun a calls b (.ok (snapshot, attempt?))) :
    lastApplied? calls = none := by
  cases h with
  | idle => exact silent_inspection
  | tried _ _ attempted =>
    rw [lastApplied?_inspection_append]
    exact attempted.silent directory

theorem PassCourse.halts {failure : Failure}
    (h : r.PassCourse target dryRun a calls b (.error failure)) :
    Halts target calls (failure = unsupported target) := by
  cases h with
  | unanalyzed | untested => exact halts_of_no_ask (by simp)
  | refused _ _ attempted => exact (attempted.halts directory).prepend silent_inspection

theorem PassCourse.holds {data? : Option Bytes}
    {answer : Except Failure (Snapshot × Option Attempt)}
    (h : r.PassCourse target dryRun a calls b answer)
    (spares : r.Spares target.path (r.Holds place data?)) (holds : r.Holds place data? a.disk) :
    r.Holds place data? b.disk := by
  cases h with
  | unanalyzed analyzed =>
    have after := spares.analyze a holds
    rw [analyzed] at after
    exact after
  | @untested b _ _ _ analyzed tested =>
    have between := spares.analyze a holds
    rw [analyzed] at between
    have after := spares.test b between
    rw [tested] at after
    exact after
  | idle inspected => exact spares.inspected inspected holds
  | tried inspected _ attempted | refused inspected _ attempted =>
    exact attempted.holds directory spares (spares.inspected inspected holds)

theorem Course.halts
    (h : r.Course target dryRun rewritten index budget a calls rounds b stop) :
    Halts target calls (stop = some (unsupported target)) := by
  induction h with
  | spent => exact halts_of_silent rfl
  | failed passed => exact (passed.halts directory).mono (congrArg some)
  | unaudited passed | gold passed => exact halts_of_silent (passed.silent directory)
  | further passed _ _ _ ih => exact ih.prepend (passed.silent directory)

/-- Passes on a directory leave every file alone that the collaborators and the audit trail
leave alone. -/
theorem Course.holds {data? : Option Bytes}
    (h : r.Course target dryRun rewritten index budget a calls rounds b stop)
    (spares : r.Spares target.path (r.Holds place data?)) (holds : r.Holds place data? a.disk) :
    r.Holds place data? b.disk ∧ ∀ round ∈ rounds, r.Holds place data? round.after.disk := by
  induction h with
  | spent => exact ⟨holds, nofun⟩
  | failed passed => exact ⟨passed.holds directory spares holds, nofun⟩
  | unaudited passed audited =>
    have after := passed.holds directory spares holds
    exact ⟨after.beside (beside_of_audits after.apart audited), nofun⟩
  | gold passed audited =>
    have after := passed.holds directory spares holds
    have audited := after.beside (beside_of_audits after.apart audited)
    refine ⟨audited, fun round mem => ?_⟩
    rw [List.mem_singleton.mp mem]
    exact audited
  | further passed audited _ _ ih =>
    have after := passed.holds directory spares holds
    have audited := after.beside (beside_of_audits after.apart audited)
    obtain ⟨final, later⟩ := ih audited
    refine ⟨final, fun round mem => ?_⟩
    rcases List.mem_cons.mp mem with rfl | mem
    · exact audited
    · exact later round mem

theorem RunCourse.halts {answer : Except Failure Outcome}
    (h : r.RunCourse target dryRun a calls rounds b answer) :
    Halts target calls (answer = .error (unsupported target)) := by
  have rewriting (answer : Except Failure Bool) :
      lastApplied? [.rewrite target.path dryRun answer] = none := rfl
  cases h with
  | unrewritten => exact halts_of_silent (rewriting _)
  | stopped _ course =>
    refine ((course.halts directory).prepend (rewriting _)).mono ?_
    intro stopped
    exact congrArg Except.error (Option.some.inj stopped)
  | finished _ course =>
    exact ((course.halts directory).prepend (rewriting _)).mono nofun

theorem RunCourse.unapplied {answer : Except Failure Outcome}
    (h : r.RunCourse target dryRun a calls rounds b answer) :
    ∀ round ∈ rounds, round.record.fixApplied = false := by
  intro round mem
  obtain ⟨i, rewritten, c, passed, -⟩ := h.completed mem
  rw [h.fixApplied_eq mem, passed.silent directory]
  rfl

theorem RunCourse.holds {data? : Option Bytes} {answer : Except Failure Outcome}
    (h : r.RunCourse target false a calls rounds b answer)
    (spares : r.Spares target.path (r.Holds place data?)) (holds : r.Holds place data? a.disk) :
    r.Holds place data? b.disk ∧ ∀ round ∈ rounds, r.Holds place data? round.after.disk := by
  have rewritten {b : Site σ} {answer : Except Failure Bool}
      (rewrote : r.tools.rewrite target.path false a = (answer, b)) :
      r.Holds place data? b.disk := by
    have after := spares.rewrite a holds
    rw [rewrote] at after
    exact after
  cases h with
  | unrewritten rewrote => exact ⟨rewritten rewrote, nofun⟩
  | stopped rewrote course => exact course.holds directory spares (rewritten rewrote)
  | finished rewrote course filed =>
    obtain ⟨after, completed⟩ := course.holds directory spares (rewritten rewrote)
    exact ⟨after.beside (beside_of_finish after.apart filed), completed⟩

end Mender.Repair
