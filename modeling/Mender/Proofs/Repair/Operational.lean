import Mender.Proofs.Project
import Mender.Proofs.Repair.Course

/-!
# What a run fails with once it has begun

Failures of the configuration belong to the time before the first call. Once the target is
found, tools and files fail for reasons of their own: `RunCourse.operational` says so of every
run whose tools do, and `Project.operational_toolchain` of the tools of a project.
-/

namespace Mender

/-- Whatever the work fails with, it is no failure of the configuration. -/
def Operational {S α : Type} (work : ExceptT Failure (StateM S) α) : Prop :=
  ∀ s failure t, work s = (.error failure, t) → failure.cause.isConfiguration = false

/-- The calls of the tools fail for no reason of the configuration. -/
structure Toolchain.Operational {σ : Type} (tools : Toolchain σ) : Prop where
  rewrite : ∀ target dryRun, Mender.Operational (tools.rewrite target dryRun)
  analyze : ∀ target, Mender.Operational (tools.analyze target)
  test : ∀ target, Mender.Operational (tools.test target)

section Steps

variable {S σ α β : Type}

theorem operational_pure (a : α) : Operational (pure a : ExceptT Failure (StateM S) α) := by
  intro s failure t h
  cases h

theorem operational_throw {failure : Failure} (h : failure.cause.isConfiguration = false) :
    Operational (throw failure : ExceptT Failure (StateM S) α) := by
  intro s failure' t failed
  cases failed
  exact h

theorem Operational.bind {x : ExceptT Failure (StateM S) α}
    {f : α → ExceptT Failure (StateM S) β} (first : Operational x)
    (later : ∀ a, Operational (f a)) : Operational (x >>= f) := by
  intro s failure t h
  rcases ran : x s with ⟨own | a, u⟩
  · rw [bind_of_error ran] at h
    cases h
    exact first _ _ _ ran
  · rw [bind_of_ok ran] at h
    exact later a _ _ _ h

theorem Operational.within {effect : Effect σ α} (h : Operational effect) (doing : String) :
    Operational (effect.within doing) := by
  intro a failure b failed
  rcases ran : effect a with ⟨own | value, c⟩ <;> simp only [Effect.within, ran] at failed
  · cases failed
    have same := h _ _ _ ran
    exact same
  · cases failed

end Steps

theorem Disk.isConfiguration_of_makeDirectories {d d' : Disk} {path : Path} {cause : Cause}
    (h : d.makeDirectories path = (.error cause, d')) : cause.isConfiguration = false := by
  fun_induction makeDirectories d path generalizing cause d' with
  | case1 | case2 | case5 => cases h
  | case3 | case6 =>
    cases h
    rfl
  | case4 _ _ _ _ _ _ _ failed ih =>
    cases h
    exact ih failed
  | case7 =>
    split at h
    · cases h
    · cases h
      rfl

namespace Filing

theorem operational_makeDirectories (doing : String) (path : Path) :
    Operational (makeDirectories doing path) := by
  intro d failure d' h
  rw [makeDirectories_apply] at h
  rcases made : d.makeDirectories path with ⟨cause | done, d''⟩ <;> rw [made] at h
  · cases h
    exact Disk.isConfiguration_of_makeDirectories made
  · cases h

theorem operational_writeText (doing : String) (path : Path) (text : String) :
    Operational (writeText doing path text) := by
  intro d failure d' h
  rw [writeText_apply] at h
  rcases replaced : d.replace path (Utf8.encode text) with ⟨e | done, d''⟩ <;> rw [replaced] at h
  · cases h
    rfl
  · cases h

end Filing

namespace AuditTrail

theorem operational_writePass (dir : Path) (pass : Pass) (snapshot : Snapshot)
    (attempt? : Option Attempt) : Operational (writePass dir pass snapshot attempt?) := by
  have written (path : Path) (text : String) : Operational (writeText path text) :=
    Filing.operational_writeText _ path text
  refine (Filing.operational_makeDirectories _ _).bind fun _ => ?_
  refine (written _ _).bind fun _ => (written _ _).bind fun _ => ?_
  cases attempt? with
  | none => exact operational_pure _
  | some attempt =>
    exact (written _ _).bind fun _ => (written _ _).bind fun _ => operational_pure _

theorem operational_writeOutcome (dir : Path) (outcome : Outcome) :
    Operational (writeOutcome dir outcome) := by
  refine (Filing.operational_makeDirectories _ _).bind fun _ => ?_
  exact (Filing.operational_writeText _ _ _).bind fun _ => operational_pure _

end AuditTrail

theorem Target.operational_write (target : Target) (content : String) :
    Operational (target.write content) := by
  unfold write
  split
  · exact operational_throw rfl
  · exact Filing.operational_writeText _ _ _

section Tools

variable {σ : Type} (machine : Machine σ)

/-- A program that cannot be run to its end is not there, cannot be started or takes too long. -/
theorem Invocation.operational_run (limit : Nat) (i : Invocation) :
    Operational (i.run machine limit) := by
  have looked : Operational (get : Effect σ (Site σ)) := by
    intro site failure after failed
    cases failed
  have ran : Operational (liftM (machine.run i) : Effect σ Ending) := by
    intro site failure after failed
    cases failed
  refine looked.bind fun site => ?_
  dsimp only
  split
  · refine (operational_throw rfl).bind fun _ => ran.bind fun ending => ?_
    cases ending with
    | refused | overran => exact operational_throw rfl
    | finished => exact operational_pure _
  · refine ran.bind fun ending => ?_
    cases ending with
    | refused | overran => exact operational_throw rfl
    | finished => exact operational_pure _

namespace Project

theorem operational_run (p : Project) (name : String) (spec : ToolSpec) (args : List String) :
    Operational (p.run machine name spec args) :=
  (Invocation.operational_run machine _ _).within _

theorem operational_toolchain (p : Project) : (p.toolchain machine).Operational where
  rewrite _ _ := (p.operational_run machine _ _ _).bind fun _ => operational_pure _
  analyze _ := (p.operational_run machine _ _ _).bind fun _ => operational_pure _
  test _ := (p.operational_run machine _ _ _).bind fun _ => operational_pure _

end Project

end Tools

namespace Repair

variable {σ : Type} {r : Repair σ} {target : Target} {dryRun rewritten : Bool}
  {index budget : Nat} {a b : Site σ} {calls : List Event} {rounds : List (Round σ)}
  {snapshot : Snapshot} {attempt? : Option Attempt} {failure : Failure}

theorem AttemptCourse.operational
    (h : r.AttemptCourse target a snapshot calls b (.error failure)) :
    failure.cause.isConfiguration = false := by
  cases h with
  | refused _ _ wrote => exact target.operational_write _ _ _ _ wrote

theorem PassCourse.operational (tools : r.tools.Operational)
    (h : r.PassCourse target dryRun a calls b (.error failure)) :
    failure.cause.isConfiguration = false := by
  cases h with
  | unanalyzed analyzed =>
    have own := tools.analyze _ _ _ _ analyzed
    exact own
  | untested _ tested =>
    have own := tools.test _ _ _ _ tested
    exact own
  | refused _ _ attempted => exact attempted.operational

theorem operational_of_audits {pass : Pass}
    (h : r.Audits pass snapshot attempt? a (.error failure) b) :
    failure.cause.isConfiguration = false := by
  have audited := h []
  cases kept : r.auditDir? with
  | none =>
    simp only [audit, kept] at audited
    cases audited
  | some dir =>
    rw [audit_filing kept] at audited
    rcases filed : AuditTrail.writePass dir pass snapshot attempt? a.disk with
      ⟨own | places, disk⟩ <;> rw [filed] at audited
    · cases audited
      exact AuditTrail.operational_writePass _ _ _ _ _ _ _ filed
    · cases audited

theorem operational_of_finish {history : History} {events events' : List Event}
    (h : r.finish history ⟨a, events⟩ = (.error failure, ⟨b, events'⟩)) :
    failure.cause.isConfiguration = false := by
  cases kept : r.auditDir? with
  | none =>
    simp only [finish, kept] at h
    cases h
  | some dir =>
    rw [finish_filing kept] at h
    rcases filed : AuditTrail.writeOutcome dir history.outcome a.disk with
      ⟨own | path, disk⟩ <;> rw [filed] at h
    · cases h
      exact AuditTrail.operational_writeOutcome _ _ _ _ _ filed
    · cases h

theorem Course.operational (tools : r.tools.Operational)
    (h : r.Course target dryRun rewritten index budget a calls rounds b (some failure)) :
    failure.cause.isConfiguration = false := by
  generalize stopped : some failure = stop at h
  induction h with
  | spent | gold => cases stopped
  | failed passed =>
    cases stopped
    exact passed.operational tools
  | unaudited _ audited =>
    cases stopped
    exact operational_of_audits audited
  | further _ _ _ _ ih => exact ih stopped

/-- A run on a target that was found never fails for its configuration. -/
theorem RunCourse.operational (tools : r.tools.Operational)
    (h : r.RunCourse target dryRun a calls rounds b (.error failure)) :
    failure.cause.isConfiguration = false := by
  cases h with
  | unrewritten rewrote =>
    have own := tools.rewrite _ _ _ _ _ rewrote
    exact own
  | stopped _ course => exact course.operational tools
  | finished _ _ filed => exact operational_of_finish (filed [])

end Repair

end Mender
