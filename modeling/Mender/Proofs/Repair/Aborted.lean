import Mender.Proofs.AuditTrail.Listing
import Mender.Proofs.Repair.Calls
import Mender.Proofs.Repair.Trail

/-!
# Runs that are cut short

When a call of a tool fails in a pass, or the write to the target, the run ends with that failure.
What it leaves in a new trail are the directories of the passes before, complete, and nothing of
the pass that failed.
-/

namespace Mender

open scoped Mender.Path

/-- What a run answers where this call failed. -/
def Event.report? : Event → Option Failure
  | .rewrite _ _ (.error failure) => some (failure.within "deterministic pass")
  | .analyze _ (.error failure) => some (failure.within "static analysis")
  | .test _ (.error failure) => some (failure.within "test run")
  | .write _ _ (.error failure) => some failure
  | _ => none

theorem Event.report?_eq_none_iff (call : Event) : call.report? = none ↔ call.failure? = none := by
  cases call with
  | ask => simp [report?, failure?]
  | rewrite _ _ answer | analyze _ answer | test _ answer | write _ _ answer =>
    cases answer <;> simp [report?, failure?]

/-- Where a call reports a failure, not all calls succeeded. -/
theorem Event.not_clean_of_report {calls : List Event} {call : Event} {failure : Failure}
    (mem : call ∈ calls) (reported : call.report? = some failure) : ¬Event.Clean calls := by
  intro clean
  rw [call.report?_eq_none_iff.mpr (clean call mem)] at reported
  cases reported

/-- Of the calls of a run that one of them broke, only the last failed. -/
theorem Event.BrokenBy.getLast?_eq {calls : List Event} {call : Event} {failure : Failure}
    (h : BrokenBy failure calls) (mem : call ∈ calls) (failed : call.failure? ≠ none) :
    calls.getLast? = some call := by
  obtain ⟨before, last, own, rfl, clean, -, -⟩ := h
  rcases List.mem_append.mp mem with mem | mem
  · exact absurd (clean call mem) failed
  · rw [List.mem_singleton.mp mem, List.getLast?_concat]

/-- After calls the last of which is no failed write, the file holds what was applied last. -/
theorem Event.Leaves.eq_contentAfter {data held : Bytes} {calls : List Event} {call : Event}
    {ending : Failure → Prop} (h : Leaves data calls ending held)
    (last : calls.getLast? = some call)
    (other : ∀ path content failure, call ≠ .write path content (.error failure)) :
    held = contentAfter data calls := by
  rcases h with ⟨-, same⟩ | ⟨failure, -, before, prompt, current, content, path, rfl, -⟩
  · exact same
  · rw [List.getLast?_append] at last
    exact absurd (Option.some.inj last).symm (other path content failure)

/-- What lies in the directory of a trail that keeps completed passes: a directory for each of
them, and nothing at all before the first. -/
def Round.listing {σ : Type} (rounds : List (Round σ)) : AuditTrail.Listing
  | [] => if rounds.isEmpty then none else some .directory
  | number :: rest =>
    (rounds.find? fun round => number = Decimal.natText round.record.index).bind fun round =>
      AuditTrail.passListing round.record round.snapshot round.attempt? rest

section Listing

variable {σ : Type} {rounds : List (Round σ)} {round : Round σ}

theorem Round.listing_nil : Round.listing ([] : List (Round σ)) = fun _ => none := by
  funext rest
  cases rest <;> rfl

theorem Round.find?_of_fresh {index : Nat}
    (fresh : ∀ round ∈ rounds, round.record.index ≠ index) :
    rounds.find? (fun round =>
      Path.ofText (Decimal.natText index) = Decimal.natText round.record.index) = none := by
  refine List.find?_eq_none.mpr fun round mem same => ?_
  exact fresh round mem (Decimal.natText_inj (Path.ofText_inj.mp (of_decide_eq_true same))).symm

/-- No directory has a number that no pass has had. -/
theorem Round.listing_of_fresh {index : Nat}
    (fresh : ∀ round ∈ rounds, round.record.index ≠ index) (rest : Location) :
    Round.listing rounds (Decimal.natText index :: rest) = none := by
  rw [Round.listing, Round.find?_of_fresh fresh]
  rfl

/-- The outcome of a run does not lie among the directories of its passes. -/
theorem Round.listing_result : Round.listing rounds ["result.json"] = none := by
  have number (n : Nat) : Path.ofText "result.json" ≠ Decimal.natText n := by
    intro same
    have digits := Decimal.all_isDigit_digits n
    rw [← String.toList_ofList (l := Decimal.digits n), ← Decimal.natText,
      ← Path.ofText_inj.mp same] at digits
    revert digits
    decide
  have absent : rounds.find?
      (fun round => Path.ofText "result.json" = Decimal.natText round.record.index) = none :=
    List.find?_eq_none.mpr fun round _ same => number _ (of_decide_eq_true same)
  rw [Round.listing, absent]
  rfl

/-- A further pass adds its directory. -/
theorem Round.listing_append
    (fresh : ∀ earlier ∈ rounds, earlier.record.index ≠ round.record.index) :
    Round.listing (rounds ++ [round]) =
      (Round.listing rounds).put round.record round.snapshot round.attempt? := by
  funext rest
  cases rest with
  | nil => simp [Round.listing, AuditTrail.Listing.put]
  | cons number rest =>
    rw [AuditTrail.Listing.put, Round.listing, List.find?_append, Round.listing]
    split
    · next same =>
      rw [same, Round.find?_of_fresh fresh]
      simp
    · next other => simp [other]

end Listing

namespace Repair

open Event AuditTrail

variable {σ : Type} {r : Repair σ} {target : Target} {dryRun rewritten : Bool}
  {index budget : Nat} {a b : Site σ} {calls : List Event} {rounds earlier : List (Round σ)}
  {snapshot : Snapshot} {failure : Failure} {stop : Option Failure} {call : Event}
  {dir : Path} {place : Location}

theorem AttemptCourse.reports {answer : Except Failure Attempt}
    (h : r.AttemptCourse target a snapshot calls b answer) (mem : call ∈ calls)
    (reported : call.report? = some failure) : answer = .error failure := by
  cases h with
  | kept | written =>
    simp only [List.mem_cons, List.not_mem_nil, or_false] at mem
    rcases mem with rfl | rfl <;> cases reported
  | refused =>
    simp only [List.mem_cons, List.not_mem_nil, or_false] at mem
    rcases mem with rfl | rfl <;> cases reported
    rfl

/-- A pass in which a call failed answers what that call reports. -/
theorem PassCourse.reports {answer : Except Failure (Snapshot × Option Attempt)}
    (h : r.PassCourse target dryRun a calls b answer) (mem : call ∈ calls)
    (reported : call.report? = some failure) : answer = .error failure := by
  cases h with
  | unanalyzed =>
    cases List.mem_singleton.mp mem
    cases reported
    rfl
  | untested =>
    simp only [List.mem_cons, List.not_mem_nil, or_false] at mem
    rcases mem with rfl | rfl <;> cases reported
    rfl
  | idle => exact absurd clean_inspection (not_clean_of_report mem reported)
  | tried _ _ attempted =>
    exact absurd (clean_inspection.append attempted.clean) (not_clean_of_report mem reported)
  | refused _ _ attempted =>
    rcases List.mem_append.mp mem with inspected | asked
    · exact absurd clean_inspection (not_clean_of_report inspected reported)
    · cases attempted.reports asked reported
      rfl

theorem Course.reports
    (h : r.Course target dryRun rewritten index budget a calls rounds b stop) (mem : call ∈ calls)
    (reported : call.report? = some failure) : stop = some failure := by
  induction h with
  | spent => cases mem
  | failed passed =>
    cases passed.reports mem reported
    rfl
  | unaudited passed | gold passed =>
    exact absurd passed.clean (not_clean_of_report mem reported)
  | further passed _ _ _ ih =>
    rcases List.mem_append.mp mem with mem | mem
    · exact absurd passed.clean (not_clean_of_report mem reported)
    · exact ih mem

/-- A run in which a call failed answers what that call reports. -/
theorem RunCourse.reports {answer : Except Failure Outcome}
    (h : r.RunCourse target dryRun a calls rounds b answer) (mem : call ∈ calls)
    (reported : call.report? = some failure) : answer = .error failure := by
  cases h with
  | unrewritten =>
    cases List.mem_singleton.mp mem
    cases reported
    rfl
  | stopped _ course =>
    rcases List.mem_cons.mp mem with rfl | mem
    · cases reported
    · cases course.reports mem reported
      rfl
  | finished _ course =>
    rcases List.mem_cons.mp mem with rfl | mem
    · cases reported
    · cases course.reports mem reported

theorem PassCourse.kept {answer : Except Failure (Snapshot × Option Attempt)}
    (h : r.PassCourse target dryRun a calls b answer)
    (spared : r.Makes target.path dryRun (Kept dir place target.path)) :
    Kept dir place target.path a.disk b.disk :=
  h.steps spared Kept.trans kept_of_target_write

/-- A completed pass adds its directory to those of the passes before. -/
theorem PassCourse.listed {attempt? : Option Attempt} {c : Site σ} (kept : r.auditDir? = some dir)
    (spared : r.Makes target.path dryRun (Kept dir place target.path))
    (h : r.PassCourse target dryRun a calls b (.ok (snapshot, attempt?)))
    (audited : r.Audits (.ofRound index rewritten snapshot attempt?) snapshot attempt? b (.ok ()) c)
    (before : ∀ round ∈ earlier, round.record.index < index)
    (stands : Stands dir place target.path (Round.listing earlier) a.disk) :
    Stands dir place target.path (Round.listing (earlier ++
      [⟨a, calls, snapshot, attempt?, .ofRound index rewritten snapshot attempt?, c⟩])) c.disk := by
  have fresh : ∀ round ∈ earlier, round.record.index ≠ index := fun round mem =>
    Nat.ne_of_lt (before round mem)
  obtain ⟨found, wrote⟩ := writePass_of_audits kept audited
  rw [Round.listing_append fresh]
  have still := h.kept spared _ stands
  exact still.writePass (Round.listing_of_fresh fresh) wrote

/-- Passes in which a call failed leave the directories of those that were completed. -/
theorem Course.listed (kept : r.auditDir? = some dir)
    (spared : r.Makes target.path dryRun (Kept dir place target.path))
    (h : r.Course target dryRun rewritten index budget a calls rounds b stop)
    (unclean : ¬Clean calls)
    (before : ∀ round ∈ earlier, round.record.index < index)
    (stands : Stands dir place target.path (Round.listing earlier) a.disk) :
    Stands dir place target.path (Round.listing (earlier ++ rounds)) b.disk := by
  induction h generalizing earlier with
  | spent =>
    rw [List.append_nil]
    exact stands
  | failed passed =>
    rw [List.append_nil]
    exact passed.kept spared _ stands
  | unaudited passed => exact absurd passed.clean unclean
  | gold passed audited => exact passed.listed kept spared audited before stands
  | further passed audited _ _ ih =>
    have here := passed.listed kept spared audited before stands
    rw [← List.singleton_append, ← List.append_assoc]
    refine ih (fun clean => unclean (passed.clean.append clean)) (fun round mem => ?_) here
    rcases List.mem_append.mp mem with mem | mem
    · exact Nat.lt_succ_of_lt (before round mem)
    · cases List.mem_singleton.mp mem
      exact Nat.lt_succ_self _

theorem RunCourse.listed (kept : r.auditDir? = some dir)
    (spared : r.Makes target.path dryRun (Kept dir place target.path))
    {answer : Except Failure Outcome} (h : r.RunCourse target dryRun a calls rounds b answer)
    (unclean : ¬Clean calls)
    (stands : Stands dir place target.path (fun _ => none) a.disk) :
    Stands dir place target.path (Round.listing rounds) b.disk := by
  have nothing : Stands dir place target.path (Round.listing ([] : List (Round σ))) a.disk := by
    rwa [Round.listing_nil]
  have first := spared.rewrite a _ nothing
  have rewriting {rewritten : Bool} : Clean [.rewrite target.path dryRun (.ok rewritten)] := by
    simp [Clean, failure?]
  cases h with
  | unrewritten rewrote =>
    rw [rewrote] at first
    exact first
  | stopped rewrote course =>
    rw [rewrote] at first
    exact course.listed kept spared (fun clean => unclean (rewriting.append clean))
      (List.forall_mem_nil _) first
  | finished rewrote course filed =>
    rcases course.clean_or_broken with ⟨clean, -⟩ | ⟨failure, stopped, -⟩
    · exact absurd (Clean.append rewriting clean) unclean
    · cases stopped

/-- Whatever call of a run fails, in whatever pass, the run answers what that call reports. In a
trail whose directory was not there before, it leaves the directories of the passes that were
completed, with all of their files, and nothing else: no outcome, nothing of the pass that failed,
and no directory at all if that was the first. A file that the collaborators leave alone still
holds what was applied last; only where it is the write that fails, and is cut short, a part of
the new content is left instead. -/
theorem execute_aborted (kept : r.auditDir? = some dir) {path : Path} {s t : Session σ}
    (found : Target.resolve s.site.disk path = .ok target)
    (absent : Stands dir place target.path (fun _ => none) s.site.disk)
    (spared : r.Makes target.path dryRun (Kept dir place target.path))
    {answer : Except Failure Outcome} (h : r.execute path dryRun s = (answer, t)) :
    ∃ (calls : List Event) (rounds : List (Round σ)), t.events = s.events ++ calls ∧
      r.RunCourse target dryRun s.site calls rounds t.site answer ∧
      ∀ call ∈ calls, ∀ failure, call.report? = some failure →
        answer = .error failure ∧
        (∀ rest, t.site.disk.at? (place ++ rest) = Round.listing rounds rest) ∧
        (rounds = [] → t.site.disk.pathExists dir = false) ∧
        t.site.disk.pathExists (resultPath dir) = false ∧
        (dryRun = false → target.isDirectory = false → ∀ file data,
          (∀ data, r.Spares target.path (r.Guards target.path file data)) →
          r.Guards target.path file data s.site.disk →
            ∃ held, t.site.disk.read target.path = .ok held ∧
              Leaves data calls (answer = .error ·) held ∧
              ((∀ path content failure, call ≠ .write path content (.error failure)) →
                held = contentAfter data calls)) := by
  obtain ⟨calls, rounds, b, answer', course, ran⟩ := execute_course (r := r) found dryRun
  rw [h] at ran
  cases ran
  refine ⟨calls, rounds, rfl, course, fun call mem failure reported => ?_⟩
  have unclean : ¬Clean calls := not_clean_of_report mem reported
  have stands := course.listed kept spared unclean absent
  have result_free : b.disk.at? (place ++ [Path.ofText "result.json"]) = none := by
    rw [stands.holds, Round.listing_result]
  refine ⟨course.reports mem reported, stands.holds, ?_, ?_, ?_⟩
  · rintro rfl
    have free : b.disk.at? place = none := by
      have nothing := stands.holds []
      rwa [List.append_nil] at nothing
    exact Disk.not_pathExists stands.homed stands.leads free
  · have plain : Path.Plain (Path.ofText "result.json") := by constructor <;> decide
    refine Disk.not_pathExists stands.homed ((Disk.leadsTo_join plain).mpr
      ⟨place, stands.leads, .down (fun target linked => ?_) .done⟩) result_free
    rw [result_free] at linked
    cases linked
  · rintro rfl file place data spares guards
    obtain ⟨-, held, after, leaves⟩ := course.tracks file spares guards
    refine ⟨held, after.read, leaves, fun other => ?_⟩
    rcases course.clean_or_broken with ⟨clean, -⟩ | ⟨_, -, broken⟩
    · exact absurd clean unclean
    · have failed : call.failure? ≠ none := by
        rw [ne_eq, ← call.report?_eq_none_iff, reported]
        nofun
      exact leaves.eq_contentAfter (broken.getLast?_eq mem failed) other

/-- A rehearsal in which something happens before each analysis once the script has run out. -/
def ending (dir : Path) (happens : Effect Script Unit) : Repair Script :=
  let r := rehearsal (some dir)
  { r with tools := { r.tools with
      analyze := fun path => do
        if (← get).memory.coming.isEmpty then happens
        r.tools.analyze path } }

/-- A rehearsal in which the analysis then fails. -/
def brief (dir : Path) : Repair Script := ending dir (throw (.other "no report"))

/-- Before such a run on the file `/a`: one analysis will find an error, and the oracle will bring
a fix. -/
def briefStage : Session Script where
  site := ⟨⟨[(["a"], .file [60] false)], [], []⟩, .ofLists [.sample 1 0] [.applied "?>"]⟩
  events := []

/-- The disk when the fix has been written. -/
def fixed : Disk := ⟨[(["a"], .file [63, 62] false)], [], []⟩

/-- The calls of the rewriting and the first pass. -/
def firstCalls (prompt : String) : List Event :=
  [.rewrite "/a" false (.ok true)] ++ (inspection ⟨"/a", false⟩ (.sample 1 0) ++
    [.ask prompt "<" (.applied "?>"), .write "/a" "?>" (.ok ())])

/-- The calls of such a run. -/
def briefCalls (prompt : String) : List Event :=
  firstCalls prompt ++ [.analyze "/a" (.error (.other "no report"))]

section Ending

variable (happens : Effect Script Unit) (more : List Fix) {dir : Path}

theorem exists_first_attempt (dir : Path) (events : List Event) :
    ∃ prompt, (ending dir happens).attempt ⟨"/a", false⟩ (.sample 1 0)
        ⟨⟨briefStage.site.disk, ⟨[], .sample 1 0, .applied "?>" :: more⟩⟩, events⟩ =
      (.ok ⟨prompt, .applied "?>", true⟩, ⟨⟨fixed, ⟨[], .sample 1 0, more⟩⟩,
        events ++ [.ask prompt "<" (.applied "?>"), .write "/a" "?>" (.ok ())]⟩) := by
  let r := ending dir happens
  let a : Site Script := ⟨briefStage.site.disk, ⟨[], .sample 1 0, .applied "?>" :: more⟩⟩
  let prompt := Prompt.build r.language "<" (.sample 1 0)
  have current : "<" = (Target.mk "/a" false).read a.disk r.language := by cbv
  have asked : r.Asks ⟨"/a", false⟩ a (.sample 1 0) prompt "<" (.applied "?>")
      ⟨a.disk, ⟨[], .sample 1 0, more⟩⟩ := ⟨current, rfl, rfl⟩
  have replaced : replacement? (.applied "?>") "<" = some "?>" := by decide
  have wrote : (Target.mk "/a" false).write "?>" a.disk = (.ok (), fixed) := by cbv
  refine ⟨prompt, ?_⟩
  change r.attempt _ _ ⟨a, events⟩ = _
  rw [attempt_of_asks asked, replaced]
  dsimp only
  rw [wrote]
  rfl

/-- If the records of the first pass can be left and the second pass fails, so does the run. -/
theorem exists_execute_of_second {kept : Disk → Prop}
    (recorded : ∀ attempt, ∃ d, writePass dir ⟨1, true, 1, 0, true⟩ (.sample 1 0) (some attempt)
      fixed = (.ok (places dir 1), d) ∧ kept d) :
    ∃ prompt d, kept d ∧ ∀ failure t,
      (ending dir happens).pass ⟨"/a", false⟩ false true 2
          ⟨⟨d, ⟨[], .sample 1 0, more⟩⟩, firstCalls prompt⟩ = (.error failure, t) →
        (ending dir happens).execute "/a" false
            ⟨⟨briefStage.site.disk, .ofLists [.sample 1 0] (.applied "?>" :: more)⟩, []⟩ =
          (.error failure, t) := by
  let r := ending dir happens
  let a : Site Script :=
    ⟨briefStage.site.disk, .ofLists [.sample 1 0] (.applied "?>" :: more)⟩
  let analyzed : Site Script := ⟨a.disk, a.memory.advance⟩
  let asked : Site Script := ⟨fixed, ⟨[], .sample 1 0, more⟩⟩
  have located : Target.resolve a.disk "/a" = .ok ⟨"/a", false⟩ := by cbv
  have rewrote : r.tools.rewrite "/a" false a = (.ok true, a) := rfl
  have inspected : r.Inspects ⟨"/a", false⟩ a (.sample 1 0) analyzed := ⟨analyzed, rfl, rfl⟩
  obtain ⟨prompt, attempted⟩ := exists_first_attempt happens more dir
    ([.rewrite "/a" false (.ok true)] ++ inspection ⟨"/a", false⟩ (.sample 1 0))
  let attempt : Attempt := ⟨prompt, .applied "?>", true⟩
  obtain ⟨d, wrote, holds⟩ := recorded attempt
  let c : Site Script := { asked with disk := d }
  have audited : r.Audits (.ofRound 1 true (.sample 1 0) (some attempt)) (.sample 1 0)
      (some attempt) asked (.ok ()) c := by
    intro events
    have record : Pass.ofRound 1 true (.sample 1 0) (some attempt) = ⟨1, true, 1, 0, true⟩ := rfl
    have same : asked.disk = fixed := rfl
    rw [audit_filing (r := r) rfl, record, same, wrote]
    rfl
  have passed := pass_of_tried (r := r) inspected rfl attempted audited
  refine ⟨prompt, d, holds, fun failure t failed => ?_⟩
  change r.execute "/a" false ⟨a, []⟩ = _
  rw [execute, bind_of_ok (locate_of_resolved (s := ⟨a, []⟩) located),
    bind_of_ok (within_call rewrote _ _)]
  refine bind_of_error ?_
  refine (bind_of_ok passed).trans ?_
  exact bind_of_error failed

end Ending

/-- If the records of the first pass can be left, the run ends in the second. -/
theorem execute_brief {dir : Path} {made : Disk}
    (recorded : ∀ attempt, ∃ d, writePass dir ⟨1, true, 1, 0, true⟩ (.sample 1 0) (some attempt)
      fixed = (.ok (places dir 1), d) ∧ made.Grows d) :
    ∃ prompt c, (brief dir).execute "/a" false briefStage =
        (.error ((Failure.other "no report").within "static analysis"), ⟨c, briefCalls prompt⟩) ∧
      made.Grows c.disk := by
  obtain ⟨prompt, d, grows, fails⟩ :=
    exists_execute_of_second (throw (.other "no report")) [] recorded
  let c : Site Script := ⟨d, ⟨[], .sample 1 0, []⟩⟩
  have failed : (brief dir).tools.analyze "/a" c = (.error (.other "no report"), c) := rfl
  refine ⟨prompt, c, fails _ _ ?_, grows⟩
  refine bind_of_error ?_
  exact bind_of_error (within_call failed _ _)

/-- A file in the root is found there. -/
theorem find_a {d : Disk} {data : Bytes} (lies : d.at? ["a"] = some (.file data false)) :
    d.find "/a" = .ok (["a"], .file data false) ∧
      d.walk .opened "/a" = .ok ⟨.found ["a"] (.file data false), true, false⟩ := by
  have parts : Path.steps "/a" = [.down "a"] := by decide
  have start : (if Path.isAbsolute "/a" then [] else d.cwd) = [] := if_pos (by decide)
  have slash : Path.endsInSlash "/a" = false := by decide
  have walked (last : Disk.LastName) :
      d.walk last "/a" = .ok ⟨.found ["a"] (.file data false), true, false⟩ := by
    refine Disk.walk_eq_ok_iff.mpr ⟨by decide, ?_⟩
    rw [start, parts, slash]
    have in_root : d.Passable last [] "a" [] false := ⟨decide_eq_true rfl, by simp, by decide⟩
    exact .found in_root lies nofun
  exact ⟨Disk.find_eq_ok_iff.mpr ⟨true, false, walked _, nofun⟩, walked _⟩

/-- There is room for two bytes in the file `/a`, and then none. -/
def crammed (d : Disk) : Disk := { d with faults := [(["a"], ⟨some 2, .storageFull⟩)] }

/-- A rehearsal in which the disk is that full once the script has run out. -/
def cramming (dir : Path) : Repair Script :=
  ending dir (modify fun site => { site with disk := crammed site.disk })

/-- Before such a run: the oracle will bring two fixes. -/
def crammedStage : Session Script where
  site := ⟨briefStage.site.disk, .ofLists [.sample 1 0] [.applied "?>", .applied "<?p"]⟩
  events := []

/-- A fix that does not find room takes the place of the one before it, and is not there in full
either. -/
theorem write_crammed {d : Disk} (lies : d.at? ["a"] = some (.file [63, 62] false)) :
    ∃ d', (Target.mk "/a" false).write "<?p" (crammed d) =
        (.error ((Failure.ofCause (.system .storageFull)).within "write /a"), d') ∧
      d'.fileAt? ["a"] = some [60, 63] := by
  obtain ⟨found, walked⟩ := find_a (d := crammed d) lies
  obtain ⟨d', wrote, -, holds⟩ := Disk.write_of_find found [60, 63]
  have bytes : Utf8.encode "<?p" = [60, 63, 112] := by decide
  have replaced : (crammed d).replace "/a" [60, 63, 112] = (.error .storageFull, d') :=
    Disk.replace_of_cut walked rfl (by decide) wrote
  refine ⟨d', ?_, holds⟩
  have doing : "write " ++ Path.shown "/a" = "write /a" := by decide +kernel
  change Filing.writeText ("write " ++ Path.shown "/a") "/a" "<?p" (crammed d) = _
  rw [Filing.writeText_apply, doing, bytes, replaced]
  rfl

/-- If the records of the first pass can be left, the second fix is the one without room. -/
theorem execute_crammed {dir : Path}
    (recorded : ∀ attempt, ∃ d, writePass dir ⟨1, true, 1, 0, true⟩ (.sample 1 0) (some attempt)
      fixed = (.ok (places dir 1), d) ∧ d.at? ["a"] = some (.file [63, 62] false)) :
    ∃ calls failure c, (cramming dir).execute "/a" false crammedStage =
        (.error failure, ⟨c, calls⟩) ∧
      .write "/a" "?>" (.ok ()) ∈ calls ∧ c.disk.fileAt? ["a"] = some [60, 63] := by
  let r := cramming dir
  obtain ⟨prompt, d, lies, fails⟩ := exists_execute_of_second
    (modify fun site => { site with disk := crammed site.disk }) [.applied "<?p"] recorded
  let asked : Site Script := ⟨crammed d, ⟨[], .sample 1 0, [.applied "<?p"]⟩⟩
  have inspected : r.Inspects ⟨"/a", false⟩ ⟨d, ⟨[], .sample 1 0, [.applied "<?p"]⟩⟩
      (.sample 1 0) asked := ⟨asked, rfl, rfl⟩
  have current : "?>" = (Target.mk "/a" false).read asked.disk r.language := by
    have bytes : Utf8.encode "?>" = [63, 62] := by decide
    have found : (crammed d).find "/a" = .ok (["a"], .file (Utf8.encode "?>") false) :=
      bytes ▸ (find_a (d := crammed d) lies).1
    have text := Disk.readText_of_find found
    change _ = ((crammed d).readText "/a").toOption.getD ""
    rw [text]
    rfl
  have asks : r.Asks ⟨"/a", false⟩ asked (.sample 1 0)
      (Prompt.build r.language "?>" (.sample 1 0)) "?>" (.applied "<?p")
      ⟨crammed d, ⟨[], .sample 1 0, []⟩⟩ := ⟨current, rfl, rfl⟩
  have replaced : replacement? (.applied "<?p") "?>" = some "<?p" := by decide
  obtain ⟨d', wrote, holds⟩ := write_crammed lies
  have attempted (events : List Event) := attempt_of_asks asks events
  rw [replaced] at attempted
  dsimp only at attempted
  rw [wrote] at attempted
  let failure := (Failure.ofCause (.system .storageFull)).within "write /a"
  let c : Site Script := ⟨d', ⟨[], .sample 1 0, []⟩⟩
  have passed : r.pass ⟨"/a", false⟩ false true 2
      ⟨⟨d, ⟨[], .sample 1 0, [.applied "<?p"]⟩⟩, firstCalls prompt⟩ =
        (.error failure, ⟨c, firstCalls prompt ++ inspection ⟨"/a", false⟩ (.sample 1 0) ++
          [.ask (Prompt.build r.language "?>" (.sample 1 0)) "?>" (.applied "<?p"),
            .write "/a" "<?p" (.error failure)]⟩) := by
    rw [pass, bind_of_ok (inspect_of_inspects inspected _), if_neg (by decide)]
    exact bind_of_error (bind_of_error (attempted _))
  exact ⟨_, failure, c, fails _ _ passed, by simp [firstCalls], holds⟩

/-- The disk with the directory `/t`, and others in it. -/
def paved (more : List (Location × Entry)) : Disk :=
  ⟨more ++ [([Path.ofText "t"], .directory), ([Path.ofText "a"], .file [63, 62] false)], [], []⟩

theorem make_trail : fixed.makeDirectories "/t" = (.ok (), paved []) := by cbv

theorem missing_fixed {path : Path} (next : Path.Step) (rest : List Path.Step)
    (legal : path.bytes.contains 0 = false ∧ path.bytes ≠ [] ∧
      ¬path.bytes.length > Disk.maxPathBytes)
    (parts : Path.steps path = .down "t" :: next :: rest) (start : fixed.start path = []) :
    fixed.makeDirectory path = .error .notFound := by
  refine Disk.makeDirectory_of_missing legal parts ⟨?_, by simp, by decide⟩ ?_
  · rw [start]
    rfl
  · rw [start]
    rfl

theorem make_plainly :
    fixed.makeDirectories (places "/t" 1).directory =
      (.ok (), paved [(["t", "1"], .directory)]) := by
  have directory : (places "/t" 1).directory = Path.join "/t" "1" := directory_first "/t"
  have missing : fixed.makeDirectory (Path.join "/t" "1") = .error .notFound :=
    missing_fixed (.down "1") [] (by decide) (by decide) (by decide)
  rw [directory]
  exact Disk.makeDirectories_of_missing (by decide) missing (by decide +kernel) make_trail
    (Disk.ensureDirectory_join (opens_trail rfl) legal_used.2.1 rfl rfl)

/-- A way to the directory `/t` that goes through one below. -/
theorem walk_crookedly {d : Disk} (trail : d.at? ["t"] = some .directory)
    (below : d.at? ["t", "9"] = some .directory) (last : Disk.LastName) :
    d.walk last "/t/9/.." = .ok ⟨.found ["t"] .directory, false, false⟩ := by
  have parts : Path.steps "/t/9/.." = [.down "t", .down "9", .up] := by decide
  have start : (if Path.isAbsolute "/t/9/.." then [] else d.cwd) = [] := if_pos (by decide)
  have slash : Path.endsInSlash "/t/9/.." = false := by decide
  refine Disk.walk_eq_ok_iff.mpr ⟨by decide, ?_⟩
  rw [start, parts, slash]
  have arrived (links : Nat) :
      d.Walks last links ["t"] [] false ⟨.found ["t"] .directory, false, false⟩ := by
    have done : d.Walks last links ["t"] [] false _ := .done
    rwa [trail] at done
  have back (links : Nat) := Disk.Walks.up (decide_eq_true below) (arrived links)
  have in_trail : d.Passable last ["t"] "9" [.up] false :=
    ⟨decide_eq_true trail, by simp, by decide⟩
  have in_root : d.Passable last [] "t" [.down "9", .up] false :=
    ⟨decide_eq_true rfl, by simp, by decide⟩
  exact .down in_root trail nofun (.down in_trail below nofun (back _))

theorem opens_crookedly {d : Disk} (trail : d.at? ["t"] = some .directory)
    (below : d.at? ["t", "9"] = some .directory) : d.Opens "/t/9/.." ["t"] := by
  have walked := walk_crookedly trail below .followed
  exact ⟨Disk.find_eq_ok_iff.mpr ⟨false, false, walked, nofun⟩, decide_eq_true trail⟩

theorem legal_crooked : Disk.Legal "/t" "9" ∧ Disk.Legal "/t/9/.." "1" ∧
    ∀ name ∈ fileNames, Disk.Legal (Path.join "/t/9/.." "1") name := by
  decide

theorem make_crookedly :
    fixed.makeDirectories (places "/t/9/.." 1).directory =
      (.ok (), paved [(["t", "1"], .directory), (["t", "9"], .directory)]) := by
  have directory : (places "/t/9/.." 1).directory = Path.join "/t/9/.." "1" :=
    directory_first "/t/9/.."
  obtain ⟨legal_nine, legal_number, -⟩ := legal_crooked
  let nine := paved [(["t", "9"], .directory)]
  have there : nine.ensureDirectory "/t/9/.." = .ok nine := by
    have made : nine.makeDirectory "/t/9/.." = .error .alreadyExists := by
      rw [Disk.makeDirectory, Disk.make, walk_crookedly rfl rfl]
      rfl
    have directory : nine.isDirectory "/t/9/.." = true := by
      rw [Disk.isDirectory, (opens_crookedly rfl rfl).found]
    rw [Disk.ensureDirectory, made]
    simp only [directory, if_true]
  have first : fixed.makeDirectories (Path.join "/t" "9") = (.ok (), nine) :=
    Disk.makeDirectories_of_missing (by decide)
      (missing_fixed (.down "9") [] (by decide) (by decide) (by decide))
      (by decide +kernel) make_trail
      (Disk.ensureDirectory_join (opens_trail rfl) legal_nine rfl rfl)
  have second : fixed.makeDirectories "/t/9/.." = (.ok (), nine) :=
    Disk.makeDirectories_of_missing (by decide)
      (missing_fixed (.down "9") [.up] (by decide) (by decide) (by decide))
      (by decide +kernel) first there
  rw [directory]
  exact Disk.makeDirectories_of_missing (by decide)
    (missing_fixed (.down "9") [.up, .down "1"] (by decide) (by decide)
      (by decide))
    (by decide +kernel) second
    (Disk.ensureDirectory_join (opens_crookedly rfl rfl) legal_number rfl rfl)

/-- The records of the first pass can be left in the directory that was made for it. -/
theorem exists_writePass_paved {dir : Path} {more : List (Location × Entry)}
    (made : fixed.makeDirectories (places dir 1).directory = (.ok (), paved more))
    (opens : (paved more).Opens (places dir 1).directory ["t", "1"])
    (legal : ∀ name ∈ fileNames, Disk.Legal (places dir 1).directory name)
    (empty : ∀ name ∈ fileNames, (paved more).at? ([Path.ofText "t", .ofText "1"] ++ [name]) = none)
    (attempt : Attempt) :
    ∃ d, writePass dir ⟨1, true, 1, 0, true⟩ (.sample 1 0) (some attempt) fixed =
      (.ok (places dir 1), d) ∧ (paved more).Grows d ∧ d.at? ["a"] = (paved more).at? ["a"] := by
  obtain ⟨d, wrote, grows, -, unchanged⟩ := exists_writePass ⟨1, true, 1, 0, true⟩ (.sample 1 0)
    (some attempt) rfl made opens legal fun name mem => .inl (empty name mem)
  exact ⟨d, wrote, grows, unchanged _ fun name => by simp⟩

/-- They can be left in a directory that is only to be made. -/
theorem exists_writePass_plainly (attempt : Attempt) :
    ∃ d, writePass "/t" ⟨1, true, 1, 0, true⟩ (.sample 1 0) (some attempt) fixed =
      (.ok (places "/t" 1), d) ∧ (paved [(["t", "1"], .directory)]).Grows d ∧
        d.at? ["a"] = some (.file [63, 62] false) := by
  have directory : (places "/t" 1).directory = Path.join "/t" "1" := directory_first "/t"
  exact exists_writePass_paved make_plainly
    (directory ▸ (opens_trail rfl).below legal_used.2.1 rfl)
    (directory ▸ legal_used.2.2.2) (by decide) attempt

/-- These collaborators work on no disk. -/
theorem makes_brief (dir path : Path) (dryRun : Bool) {step : Disk → Disk → Prop}
    (refl : ∀ d, step d d) : (brief dir).Makes path dryRun step where
  rewrite _ := refl _
  analyze a := by
    obtain ⟨disk, coming, snapshot, answers⟩ := a
    cases coming <;> exact refl _
  test _ := refl _
  ask prompt current a := by
    obtain ⟨disk, coming, snapshot, answers⟩ := a
    cases answers <;> exact refl _

theorem linkless_brief : briefStage.site.disk.Linkless := by
  intro l target linked
  unfold Disk.at? at linked
  split at linked
  · cases linked
  · simp only [briefStage, List.lookup_cons, List.lookup_nil] at linked
    split at linked <;> cases linked

theorem stands_brief :
    Stands "/t" ["t"] "/a" (fun _ => none) briefStage.site.disk := by
  have steps : Path.steps "/t" = [.down "t"] ∧ Path.steps "/a" = [.down "a"] := by
    decide
  have start : briefStage.site.disk.start "/t" = [] ∧ briefStage.site.disk.start "/a" = [] := by
    decide
  have leads : briefStage.site.disk.LeadsTo "/t" ["t"] := by
    rw [Disk.LeadsTo, steps.1, start.1]
    exact .down (linkless_brief _) .done
  refine ⟨?_, leads, ?_, ?_, ?_⟩
  · intro above below
    obtain rfl := List.prefix_nil.mp below
    rfl
  · intro first l before led below
    rw [start.1] at led
    rw [steps.1] at before
    cases first with
    | nil =>
      cases led
      cases List.prefix_nil.mp below
    | cons step rest =>
      obtain ⟨rfl, nothing⟩ := List.cons_prefix_cons.mp before
      obtain rfl := List.prefix_nil.mp nothing
      exact led.unique (.down (linkless_brief _) .done)
  · intro l led below
    rw [Disk.LeadsTo, steps.2, start.2] at led
    obtain rfl : l = ["a"] := led.unique (.down (linkless_brief _) .done)
    revert below
    decide
  · intro rest
    have other : (Path.ofText "t" == Path.ofText "a") = false := by decide
    simp [briefStage, Disk.at?, List.lookup, other]

/-- A run in which a fix is written, recorded, and then not analyzed. -/
theorem execute_aborted_brief :
    Stands "/t" ["t"] "/a" (fun _ => none) briefStage.site.disk ∧
      ∃ prompt c rounds, (brief "/t").execute "/a" false briefStage =
          (.error ((Failure.other "no report").within "static analysis"),
            ⟨c, briefCalls prompt⟩) ∧
        (∀ rest, c.disk.at? ([Path.ofText "t"] ++ rest) = Round.listing (σ := Script) rounds rest) ∧
        c.disk.at? ["t", "1"] = some .directory ∧ c.disk.read "/a" = .ok [63, 62] := by
  have found : Target.resolve briefStage.site.disk "/a" = .ok ⟨"/a", false⟩ := by cbv
  obtain ⟨prompt, c, ran, grows⟩ := execute_brief fun attempt =>
    (exists_writePass_plainly attempt).imp fun _ wrote => ⟨wrote.1, wrote.2.1⟩
  obtain ⟨calls, rounds, events, -, aborted⟩ := execute_aborted (r := brief "/t") rfl found
    stands_brief (makes_brief _ _ _ fun _ _ stands => stands) ran
  obtain rfl : calls = briefCalls prompt := events.symm
  have failed : .analyze "/a" (.error (.other "no report")) ∈ briefCalls prompt := by
    simp [briefCalls]
  obtain ⟨-, lists, -, -, content⟩ := aborted _ failed _ rfl
  have guards : (brief "/t").Guards "/a" ["a"] [60] briefStage.site.disk := by
    refine ⟨⟨false, by cbv⟩, ?_⟩
    rintro _ ⟨⟩
    exact apart_of_linkless linkless_brief (by decide)
  have spares (data : Bytes) : (brief "/t").Spares "/a" ((brief "/t").Guards "/a" ["a"] data) := by
    let guarded := (brief "/t").Guards "/a" ["a"] data
    have keeps : (brief "/t").Makes "/a" false (fun d d' => guarded d → guarded d') :=
      makes_brief _ _ _ fun _ guards => guards
    exact ⟨keeps.rewrite, keeps.analyze, keeps.test, keeps.ask⟩
  have after : contentAfter [60] (briefCalls prompt) = [63, 62] := by
    rfl
  obtain ⟨held, read, -, whole⟩ := content rfl rfl ["a"] [60] spares guards
  rw [whole (by rintro _ _ _ ⟨⟩), after] at read
  exact ⟨stands_brief, prompt, c, rounds, ran, lists, of_decide_eq_true (grows.isDirectoryAt rfl),
    read⟩

/-- In a directory with a way through one below, the latter is left as well. And where a fix does
not find room, the one before it does not remain. -/
theorem execute_aborted_crookedly :
    (briefStage.site.disk.pathExists "/t/9/.." = false ∧
      (brief "/t/9/..").Makes "/a" false (fun d d' => d' = d) ∧
      ∃ prompt c, (brief "/t/9/..").execute "/a" false briefStage =
          (.error ((Failure.other "no report").within "static analysis"),
            ⟨c, briefCalls prompt⟩) ∧
        c.disk.find "/t/9/.." = .ok (["t"], .directory) ∧
        c.disk.at? ["t", "9"] = some .directory) ∧
    ∃ calls failure c, (cramming "/t").execute "/a" false crammedStage =
        (.error failure, ⟨c, calls⟩) ∧
      .write "/a" "?>" (.ok ()) ∈ calls ∧ c.disk.fileAt? ["a"] = some [60, 63] := by
  have steps : Path.steps "/t/9/.." = [.down "t", .down "9", .up] := by decide
  have start : briefStage.site.disk.start "/t/9/.." = [] := by decide
  have leads : briefStage.site.disk.LeadsTo "/t/9/.." ["t"] := by
    rw [Disk.LeadsTo, steps, start]
    exact .down (linkless_brief _) (.down (linkless_brief _) (.up .done))
  have missing := Disk.not_pathExists stands_brief.homed leads rfl
  have directory : (places "/t/9/.." 1).directory = Path.join "/t/9/.." "1" :=
    directory_first "/t/9/.."
  have recorded := exists_writePass_paved make_crookedly
    (directory ▸ (opens_crookedly rfl rfl).below legal_crooked.2.1 rfl)
    (directory ▸ legal_crooked.2.2) (by decide)
  obtain ⟨prompt, c, ran, grows⟩ := execute_brief fun attempt =>
    (recorded attempt).imp fun _ wrote => ⟨wrote.1, wrote.2.1⟩
  have opens := (opens_crookedly (d := paved [(["t", "1"], .directory), (["t", "9"], .directory)])
    rfl rfl).grow grows
  refine ⟨⟨missing, makes_brief _ _ _ fun _ => rfl, prompt, c, ran, opens.found,
    of_decide_eq_true (grows.isDirectoryAt rfl)⟩, ?_⟩
  exact execute_crammed fun attempt =>
    (exists_writePass_plainly attempt).imp fun _ wrote => ⟨wrote.1, wrote.2.2⟩

end Repair

end Mender
