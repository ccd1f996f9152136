import Mender.Proofs.AuditTrail.Files
import Mender.Proofs.Repair.Budget
import Mender.Proofs.Repair.DirectoryTarget

/-!
# Content

What a live run makes of its target, whether that is a file or a directory.
-/

namespace Mender.Repair

open Event
open scoped Mender.Path

variable {σ : Type} {r : Repair σ} {target : Target}

theorem file_of_guards {disk : Disk} {path : Path} {place : Location} {data : Bytes}
    (found : Target.resolve disk path = .ok target)
    (guards : r.Guards target.path place data disk) : target.isDirectory = false := by
  obtain ⟨executable, file⟩ := guards.leads
  have kind : disk.isDirectory target.path = false := by
    rw [Disk.isDirectory, file]
  unfold Target.resolve at found
  split at found
  · cases found
  · split at found
    · cases found
      exact kind
    · cases found

/-- In a live run on a file, the records say which answers were applied, every question is
about what was applied last, and the file ends with that, however the run ends, unless it ends
because the file could not be written. On a directory nothing is applied: the first answer with
new content ends the run, and no file is changed. All this holds as long as the collaborators
spare the files in question and no file of the audit trail comes to lie at one of them, not even
behind a link. -/
theorem execute_content {path : Path} {s : Session σ}
    (found : Target.resolve s.site.disk path = .ok target) :
    ∃ calls rounds b answer, r.execute path false s = (answer, ⟨b, s.events ++ calls⟩) ∧
      r.RunCourse target false s.site calls rounds b answer ∧
      (∀ outcome, answer = .ok outcome → outcome.history = rounds.map (·.record)) ∧
      (∀ place data, r.Guards target.path place data s.site.disk →
        (∀ data, r.Spares target.path (r.Guards target.path place data)) →
          Tracks target data calls rounds ∧ ∃ held, b.disk.read target.path = .ok held ∧
            Leaves data calls (answer = .error ·) held) ∧
      (target.isDirectory = true →
        Halts target calls (answer = .error (unsupported target)) ∧
          (∀ round ∈ rounds, round.record.fixApplied = false) ∧
          ∀ place data?, r.Holds place data? s.site.disk →
            r.Spares target.path (r.Holds place data?) →
              b.disk.fileAt? place = data? ∧
                ∀ round ∈ rounds, round.after.disk.fileAt? place = data?) := by
  obtain ⟨calls, rounds, b, answer, course, ran⟩ := execute_course (r := r) found false
  refine ⟨calls, rounds, b, answer, ran, course, ?_, ?_, ?_⟩
  · rintro outcome rfl
    cases course with
    | finished _ _ filed => rw [outcome_of_finish (filed [])]; rfl
  · intro place data guards spares
    obtain ⟨tracks, held, after, leaves⟩ :=
      course.tracks (file_of_guards found guards) spares guards
    exact ⟨tracks, held, after.read, leaves⟩
  · intro directory
    refine ⟨course.halts directory, course.unapplied directory, ?_⟩
    intro place data? holds spares
    obtain ⟨after, completed⟩ := course.holds directory spares holds
    exact ⟨after.fileAt?_eq, fun round mem => (completed round mem).fileAt?_eq⟩

theorem linkless_onStage (answers : List Fix) : (onStage answers).site.disk.Linkless := by
  intro l target linked
  unfold Disk.at? at linked
  split at linked
  · cases linked
  · simp only [onStage, List.lookup_cons, List.lookup_nil] at linked
    repeat' split at linked
    all_goals cases linked

/-- Rehearsed collaborators work on no disk. -/
theorem spares_rehearsal (auditDir? : Option Path) (path : Path) (fact : Disk → Prop) :
    (rehearsal auditDir?).Spares path fact where
  rewrite _ holds := holds
  analyze _ holds := holds
  test _ holds := holds
  ask prompt current a holds := by
    obtain ⟨disk, coming, snapshot, answers⟩ := a
    cases answers <;> exact holds

theorem Spares.withBudget {path : Path} {fact : Disk → Prop} (h : r.Spares path fact)
    (budget : UInt32) : (r.withBudget budget).Spares path fact :=
  ⟨h.rewrite, h.analyze, h.test, h.ask⟩

theorem execute_content_rehearsal :
    (∃ (calls : List Event) (rounds : List (Round Script)) (b : Site Script)
        (answer : Except Failure Outcome),
      (rehearsal (some "/t")).execute "/a" false (onStage [.applied "<?"]) =
        (answer, ⟨b, [] ++ calls⟩) ∧
      Tracks ⟨"/a", false⟩ [60] calls rounds ∧ ∃ held, b.disk.read "/a" = .ok held ∧
        Leaves [60] calls (answer = .error ·) held) ∧
    ∃ (calls : List Event) (rounds : List (Round Script)) (b : Site Script)
        (answer : Except Failure Outcome),
      (rehearsal (some "/t")).execute "/d" false (onStage [.applied "<?"]) =
        (answer, ⟨b, [] ++ calls⟩) ∧
      Halts ⟨"/d", true⟩ calls (answer = .error (unsupported ⟨"/d", true⟩)) ∧
      (∀ round ∈ rounds, round.record.fixApplied = false) ∧
      b.disk.fileAt? ["d", "m"] = some [61] := by
  have apart {place : Location} (outside : ¬[("t" : Path)] <+: place) :
      (rehearsal (some "/t")).Apart place (onStage [.applied "<?"]).site.disk := by
    rintro _ ⟨⟩
    have directory : (onStage [.applied "<?"]).site.disk.lexical "/t" = [Path.ofText "t"] := by
      decide
    exact AuditTrail.apart_of_linkless (linkless_onStage _) (directory ▸ outside)
  constructor
  · have found : Target.resolve (onStage [.applied "<?"]).site.disk "/a" =
        .ok ⟨"/a", false⟩ := by cbv
    have leads : (onStage [.applied "<?"]).site.disk.find "/a" =
        .ok (["a"], .file [60] false) := by cbv
    obtain ⟨calls, rounds, b, answer, ran, -, -, file, -⟩ :=
      execute_content (r := rehearsal (some "/t")) found
    obtain ⟨tracks, holds⟩ := file ["a"] [60] ⟨⟨false, leads⟩, apart (by decide)⟩
      fun _ => spares_rehearsal _ _ _
    exact ⟨calls, rounds, b, answer, ran, tracks, holds⟩
  · have found : Target.resolve (onStage [.applied "<?"]).site.disk "/d" =
        .ok ⟨"/d", true⟩ := by cbv
    obtain ⟨calls, rounds, b, answer, ran, -, -, -, directory⟩ :=
      execute_content (r := rehearsal (some "/t")) found
    obtain ⟨halts, unapplied, holds⟩ := directory rfl
    obtain ⟨member, -⟩ := holds ["d", "m"] (some [61]) ⟨rfl, apart (by decide)⟩
      (spares_rehearsal _ _ _)
    exact ⟨calls, rounds, b, answer, ran, halts, unapplied, member⟩

/-- A run of no passes leaves its outcome in the file that the path of the outcome leads to, be it
through a link. What that file held before, unless a line, is lost. -/
theorem exists_execute_of_outcome_found {dir path : Path} {target : Target} {a : Site σ}
    {rewritten : Bool} {l : Location} {old : Bytes} {executable : Bool} (dryRun : Bool)
    (kept : r.auditDir? = some dir) (none : r.maxIterations = 0)
    (located : Target.resolve a.disk path = .ok target)
    (rewrote : r.tools.rewrite target.path dryRun a = (.ok rewritten, a))
    (sound : a.disk.faults = []) (there : a.disk.makeDirectories dir = (.ok (), a.disk))
    (found : a.disk.find (AuditTrail.resultPath dir) = .ok (l, .file old executable))
    (other : old.getLast? ≠ some 0x0a) (events : List Event) :
    ∃ d, r.execute path dryRun ⟨a, events⟩ =
        (.ok History.empty.outcome, ⟨{ a with disk := d },
          events ++ [.rewrite target.path dryRun (.ok rewritten)]⟩) ∧
      d.fileAt? l ≠ some old := by
  obtain ⟨d, wrote, holds⟩ :=
    AuditTrail.exists_writeOutcome_of_find sound there found History.empty.outcome
  refine ⟨d, ?_, ?_⟩
  · rw [execute_of_no_budget (s := ⟨a, events⟩) located rewrote none, finish_filing kept, wrote]
    rfl
  · rw [holds]
    exact fun same => Utf8.encode_line_ne _ other (Option.some.inj same)

/-- A disk where the outcome of a run is left behind a link, in the file under repair. -/
def looped : Disk where
  entries := [(["a"], .file [60] false), (["t"], .directory), (["t", "result.json"], .link "../a")]
  cwd := []
  faults := []

/-- A live run without passes, and so without a fix, whose audit trail has no file in its directory
but leaves its outcome behind a link. The file under repair does not hold what it did. -/
theorem execute_content_looped :
    looped.lexical "/t" = [Path.ofText "t"] ∧ looped.find "/a" = .ok (["a"], .file [60] false) ∧
      (∀ fact, ((rehearsal (some "/t")).withBudget 0).Spares "/a" fact) ∧
      (((rehearsal (some "/t")).withBudget 0).execute "/a" false
          ⟨⟨looped, .ofLists [] []⟩, []⟩).1 = .ok History.empty.outcome ∧
      (((rehearsal (some "/t")).withBudget 0).execute "/a" false
          ⟨⟨looped, .ofLists [] []⟩, []⟩).2.site.disk.fileAt? ["a"] ≠ some [60] := by
  let s : Session Script := ⟨⟨looped, .ofLists [] []⟩, []⟩
  have located : Target.resolve looped "/a" = .ok ⟨"/a", false⟩ := by cbv
  have there : looped.makeDirectories "/t" = (.ok (), looped) := by cbv
  have behind : looped.find (AuditTrail.resultPath "/t") = .ok (["a"], .file [60] false) := by cbv
  obtain ⟨d, ran, lost⟩ :=
    exists_execute_of_outcome_found (r := (rehearsal (some "/t")).withBudget 0) (a := s.site) false
      rfl rfl located rfl rfl there behind (by decide) []
  refine ⟨by decide, by cbv,
    fun fact => (spares_rehearsal (some "/t") "/a" fact).withBudget 0, ?_, ?_⟩
  · exact congrArg (·.1) ran
  · exact ran ▸ lost

end Mender.Repair
