import Mender.Proofs.Repair.Budget
import Mender.Proofs.Repair.Content
import Mender.Proofs.Repair.Indifference

/-!
# Dry runs

What a dry run does by itself: it calls the tools and leaves records, and nothing else. No
question is asked and nothing is written to the target. `execute_dry` says so, and that the
oracle makes no difference. A link can still make one of the records lie where the prompt of a
pass was kept, as `execute_dry_changes_prompt` shows.
-/

namespace Mender

namespace Event

/-- The call of a tool, which neither a question nor a write is. -/
def isTool : Event → Bool
  | .rewrite .. | .analyze .. | .test .. => true
  | .ask .. | .write .. => false

end Event

namespace Repair

open Event
open scoped Mender.Path

variable {σ : Type} (r : Repair σ)

/-- The trail of a dry run, if there is one, is apart from the place. -/
def DryApart (place : Location) (d : Disk) : Prop :=
  ∀ dir, r.auditDir? = some dir → AuditTrail.DryApart dir place d

/-- A step of a dry run on a path, as the file at the place sees it: a tool is called, or records
are left, which leaves the file alone unless one of them lies there. -/
inductive DryStep (path : Path) (place : Location) : Site σ → Site σ → Prop
  | rewrite (a : Site σ) : DryStep path place a (r.tools.rewrite path true a).2
  | analyze (a : Site σ) : DryStep path place a (r.tools.analyze path a).2
  | test (a : Site σ) : DryStep path place a (r.tools.test path a).2
  | record {a : Site σ} {disk : Disk}
      (beside : r.DryApart place a.disk → a.disk.GrowsBeside place disk) :
      DryStep path place a { a with disk }

/-- The steps of a dry run. -/
abbrev DrySteps (path : Path) (place : Location) : Site σ → Site σ → Prop :=
  Relation.ReflTransGen (r.DryStep path place)

/-- The tools of a dry run keep to the fact about the disk. -/
structure DrySpares (path : Path) (fact : Disk → Prop) : Prop where
  rewrite : ∀ a, fact a.disk → fact (r.tools.rewrite path true a).2.disk
  analyze : ∀ a, fact a.disk → fact (r.tools.analyze path a).2.disk
  test : ∀ a, fact a.disk → fact (r.tools.test path a).2.disk

/-- The file at the place holds the data, or there is none, and the trail of a dry run stays away
from it. -/
structure DryHolds (place : Location) (data? : Option Bytes) (d : Disk) : Prop where
  fileAt?_eq : d.fileAt? place = data?
  apart : r.DryApart place d

variable {r} {target : Target} {place : Location} {rewritten : Bool} {index budget : Nat}
  {a b : Site σ} {calls : List Event} {rounds : List (Round σ)} {snapshot : Snapshot}
  {attempt? : Option Attempt} {stop : Option Failure}

theorem drySteps_analyze {answer : Except Failure (List Finding)}
    (made : r.tools.analyze target.path a = (answer, b)) : r.DrySteps target.path place a b := by
  have step : r.DryStep target.path place a (r.tools.analyze target.path a).2 := .analyze a
  rw [made] at step
  exact .single step

theorem drySteps_test {answer : Except Failure (List Finding)}
    (made : r.tools.test target.path a = (answer, b)) : r.DrySteps target.path place a b := by
  have step : r.DryStep target.path place a (r.tools.test target.path a).2 := .test a
  rw [made] at step
  exact .single step

theorem drySteps_rewrite {answer : Except Failure Bool}
    (made : r.tools.rewrite target.path true a = (answer, b)) :
    r.DrySteps target.path place a b := by
  have step : r.DryStep target.path place a (r.tools.rewrite target.path true a).2 :=
    .rewrite a
  rw [made] at step
  exact .single step

/-- A pass of a dry run makes no attempt. -/
theorem PassCourse.dry_attempt
    (h : r.PassCourse target true a calls b (.ok (snapshot, attempt?))) : attempt? = none := by
  cases h with
  | idle => rfl
  | tried _ due => simp at due

theorem PassCourse.dry_tools {answer : Except Failure (Snapshot × Option Attempt)}
    (h : r.PassCourse target true a calls b answer) : ∀ call ∈ calls, call.isTool = true := by
  cases h with
  | unanalyzed | untested | idle => simp [inspection, isTool]
  | tried _ due | refused _ due => simp at due

theorem PassCourse.drySteps {answer : Except Failure (Snapshot × Option Attempt)}
    (h : r.PassCourse target true a calls b answer) : r.DrySteps target.path place a b := by
  cases h with
  | unanalyzed analyzed => exact drySteps_analyze analyzed
  | untested analyzed tested => exact (drySteps_analyze analyzed).trans (drySteps_test tested)
  | idle inspected =>
    obtain ⟨c, analyzed, tested⟩ := inspected
    exact (drySteps_analyze analyzed).trans (drySteps_test tested)
  | tried _ due | refused _ due => simp at due

/-- The records of a pass without an attempt. -/
theorem drySteps_of_audits {path : Path} {record : Pass} {answer : Except Failure Unit}
    (audited : r.Audits record snapshot none a answer b) : r.DrySteps path place a b := by
  have ran := audited []
  cases kept : r.auditDir? with
  | none =>
    simp only [audit, kept] at ran
    cases ran
    exact .refl
  | some dir =>
    rw [audit_filing kept] at ran
    cases ran
    refine .single (.record fun apart => ?_)
    exact AuditTrail.beside_writePass_dry (apart dir kept) record snapshot _ (.refl _)

theorem drySteps_of_finish {path : Path} {history : History} {answer : Except Failure Outcome}
    (filed : ∀ events, r.finish history ⟨a, events⟩ = (answer, ⟨b, events⟩)) :
    r.DrySteps path place a b := by
  have ran := filed []
  cases kept : r.auditDir? with
  | none =>
    simp only [finish, kept] at ran
    cases ran
    exact .refl
  | some dir =>
    rw [finish_filing kept] at ran
    cases ran
    refine .single (.record fun apart => ?_)
    exact AuditTrail.beside_writeOutcome (apart dir kept) history.outcome _ (.refl _)

theorem Course.dry_tools
    (h : r.Course target true rewritten index budget a calls rounds b stop) :
    ∀ call ∈ calls, call.isTool = true := by
  induction h with
  | spent => exact nofun
  | failed passed => exact passed.dry_tools
  | unaudited passed => exact passed.dry_tools
  | gold passed => exact passed.dry_tools
  | further passed _ _ _ ih =>
    intro call mem
    rcases List.mem_append.mp mem with mem | mem
    · exact passed.dry_tools call mem
    · exact ih call mem

theorem Course.drySteps
    (h : r.Course target true rewritten index budget a calls rounds b stop) :
    r.DrySteps target.path place a b := by
  induction h with
  | spent => exact .refl
  | failed passed => exact passed.drySteps
  | unaudited passed audited | gold passed audited =>
    cases passed.dry_attempt
    exact passed.drySteps.trans (drySteps_of_audits audited)
  | further passed audited _ _ ih =>
    cases passed.dry_attempt
    exact (passed.drySteps.trans (drySteps_of_audits audited)).trans ih

theorem RunCourse.dry_tools {answer : Except Failure Outcome}
    (h : r.RunCourse target true a calls rounds b answer) :
    ∀ call ∈ calls, call.isTool = true := by
  cases h with
  | unrewritten => simp [isTool]
  | stopped _ course | finished _ course =>
    rintro call (_ | ⟨_, mem⟩)
    · rfl
    · exact course.dry_tools call mem

theorem RunCourse.drySteps {answer : Except Failure Outcome}
    (h : r.RunCourse target true a calls rounds b answer) :
    r.DrySteps target.path place a b := by
  cases h with
  | unrewritten rewrote => exact drySteps_rewrite rewrote
  | stopped rewrote course => exact (drySteps_rewrite rewrote).trans course.drySteps
  | finished rewrote course filed =>
    exact ((drySteps_rewrite rewrote).trans course.drySteps).trans (drySteps_of_finish filed)

theorem RunCourse.dry_unapplied {answer : Except Failure Outcome}
    (h : r.RunCourse target true a calls rounds b answer) {round : Round σ}
    (mem : round ∈ rounds) : round.record.fixApplied = false := by
  obtain ⟨i, rewritten, c, passed, record⟩ := h.completed mem
  rw [record, passed.dry_attempt]
  rfl

/-- A file that the tools leave alone is what it was before the steps. -/
theorem DrySteps.holds {path : Path} {data? : Option Bytes} (h : r.DrySteps path place a b)
    (spares : r.DrySpares path (r.DryHolds place data?)) (holds : r.DryHolds place data? a.disk) :
    r.DryHolds place data? b.disk := by
  induction h with
  | refl => exact holds
  | tail _ step ih =>
    cases step with
    | rewrite => exact spares.rewrite _ ih
    | analyze => exact spares.analyze _ ih
    | test => exact spares.test _ ih
    | record beside =>
      have grown := beside ih.apart
      exact ⟨grown.fileAt?_eq.trans ih.fileAt?_eq,
        fun dir kept => (ih.apart dir kept).grow grown.grows⟩

/-- A dry run does the same with every oracle, also with one that remembers things of its own,
which stay as they are. It calls tools only, none of its records tells of a fix, and between the
calls it leaves every file alone that no record comes to lie at. So it leaves alone what the
tools leave alone, and where there are no links also the files of prompts and answers. -/
theorem execute_dry (r : Repair σ) (path : Path) (s : Session σ) :
    (∀ other : Oracle σ,
      ({ r with oracle := other } : Repair σ).execute path true s = r.execute path true s) ∧
    (∀ {ω : Type} (oracle : Oracle (σ × ω)) (v : ω),
      (r.consulting oracle).execute path true (s.beside v) =
        ((r.execute path true s).1, (r.execute path true s).2.beside v)) ∧
    ((∃ failure, Target.resolve s.site.disk path = .error failure ∧
        r.execute path true s = (.error failure, s)) ∨
      ∃ target calls b answer, Target.resolve s.site.disk path = .ok target ∧
        r.execute path true s = (answer, ⟨b, s.events ++ calls⟩) ∧
        (∀ call ∈ calls, call.isTool = true) ∧
        (∀ outcome, answer = .ok outcome → ∀ pass ∈ outcome.history, pass.fixApplied = false) ∧
        ∀ place, r.DrySteps target.path place s.site b ∧
          ∀ data?, r.DryHolds place data? s.site.disk →
            r.DrySpares target.path (r.DryHolds place data?) → b.disk.fileAt? place = data?) ∧
    ∀ dir (d : Disk), d.Linkless → ∀ index,
      AuditTrail.DryApart dir (d.lexical (AuditTrail.places dir index).prompt) d ∧
        AuditTrail.DryApart dir (d.lexical (AuditTrail.places dir index).oracle) d := by
  refine ⟨fun other => execute_oracle r other path s,
    fun oracle v => execute_consulting r oracle v path s, ?_,
    fun dir d linkless index => AuditTrail.dryApart_question linkless dir index⟩
  cases found : Target.resolve s.site.disk path with
  | error failure => exact .inl ⟨failure, rfl, execute_of_unresolved found⟩
  | ok target =>
    obtain ⟨calls, rounds, b, answer, course, ran⟩ := execute_course (r := r) found true
    refine .inr ⟨target, calls, b, answer, rfl, ran, course.dry_tools, ?_, fun place => ?_⟩
    · rintro outcome rfl pass mem
      cases course with
      | finished rewrote passed filed =>
        rw [outcome_of_finish (filed [])] at mem
        obtain ⟨round, completed, rfl⟩ := List.mem_map.mp mem
        exact (RunCourse.finished rewrote passed filed).dry_unapplied completed
    · exact ⟨course.drySteps, fun data? holds spares =>
        (DrySteps.holds course.drySteps spares holds).fileAt?_eq⟩

/-- Two oracles that would answer differently, one of them with a memory of its own. -/
theorem execute_dry_rehearsal :
    (onStage [.applied "<?"]).site.disk.Linkless ∧
      ({ rehearsal (some "/t") with oracle := .disabled } : Repair Script).execute "/a" true
          (onStage [.applied "<?"]) =
        (rehearsal (some "/t")).execute "/a" true (onStage [.applied "<?"]) ∧
      (((rehearsal (some "/t")).consulting
          ⟨fun _ _ site => (.applied "?>", { site with memory := (site.memory.1, 1) })⟩).execute
          "/a" true ((onStage [.applied "<?"]).beside 0)).2.site.memory.2 = 0 ∧
      ((rehearsal (some "/t")).execute "/a" true
          (onStage [.applied "<?"])).2.site.disk.fileAt? ["t", "1", "prompt.md"] = none := by
  let s := onStage [.applied "<?"]
  have linkless : s.site.disk.Linkless := linkless_onStage _
  have place : s.site.disk.lexical (AuditTrail.places "/t" 1).prompt =
      [Path.ofText "t", Path.ofText "1", Path.ofText "prompt.md"] := by
    rw [AuditTrail.lexical_prompt, Decimal.natText_one]
    decide
  have found : Target.resolve s.site.disk "/a" = .ok ⟨"/a", false⟩ := by cbv
  obtain ⟨same, beside, run, apart⟩ := execute_dry (rehearsal (some "/t")) "/a" s
  refine ⟨linkless, same .disabled, congrArg (·.2.site.memory.2) (beside _ 0), ?_⟩
  rcases run with ⟨failure, missing, -⟩ | ⟨target, calls, b, answer, found', ran, -, -, untouched⟩
  · rw [found] at missing
    cases missing
  · have holds : (rehearsal (some "/t")).DryHolds ["t", "1", "prompt.md"] none s.site.disk := by
      refine ⟨by decide, ?_⟩
      rintro _ ⟨⟩
      exact place ▸ (apart "/t" s.site.disk linkless 1).1
    have left := (untouched ["t", "1", "prompt.md"]).2 none holds
      ⟨fun _ h => h, fun _ h => h, fun _ h => h⟩
    change ((rehearsal (some "/t")).execute "/a" true s).2.site.disk.fileAt? _ = none
    rw [ran]
    exact left

/-- A disk where the outcome of a run is left behind a link, in the file of a prompt. -/
def crossed : Disk where
  entries := [(["t", "1", "prompt.md"], .file [] false), (["a"], .file [60] false),
    (["t"], .directory), (["t", "1"], .directory), (["t", "result.json"], .link "1/prompt.md")]
  cwd := []
  faults := []

/-- A dry run without passes, which leaves its outcome. The file of a prompt that was there before
does not hold what it did. -/
theorem execute_dry_changes_prompt :
    crossed.fileAt? ["t", "1", "prompt.md"] = some [] ∧
      (((rehearsal (some "/t")).withBudget 0).execute "/a" true
          ⟨⟨crossed, .ofLists [] []⟩, []⟩).2.site.disk.fileAt? ["t", "1", "prompt.md"] ≠
        some [] := by
  let s : Session Script := ⟨⟨crossed, .ofLists [] []⟩, []⟩
  have located : Target.resolve crossed "/a" = .ok ⟨"/a", false⟩ := by cbv
  have there : crossed.makeDirectories "/t" = (.ok (), crossed) := by cbv
  have behind : crossed.find (AuditTrail.resultPath "/t") =
      .ok (["t", "1", "prompt.md"], .file [] false) := by cbv
  obtain ⟨d, ran, lost⟩ :=
    exists_execute_of_outcome_found (r := (rehearsal (some "/t")).withBudget 0) (a := s.site) true
      rfl rfl located rfl rfl there behind (by decide) []
  exact ⟨by decide, ran ▸ lost⟩

end Repair

end Mender
