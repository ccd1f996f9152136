import Mender.Proofs.AuditTrail.Files
import Mender.Proofs.Json.Records
import Mender.Proofs.Repair.Budget
import Mender.Proofs.Repair.Content

/-!
# What a run leaves in its trail

As long as the collaborators leave the trail alone, each of its files holds what the run wrote to
it, and the records in them read back as those of the run.
-/

namespace Mender

namespace AuditTrail

/-- The trail is left alone, as long as its files lie at places of their own. -/
def Untouched (dir other : Path) (d d' : Disk) : Prop :=
  Separate dir other d → Fills dir other [] d d'

theorem Untouched.trans {dir other : Path} {d d' d'' : Disk} (h : Untouched dir other d d')
    (h' : Untouched dir other d' d'') : Untouched dir other d d'' := fun separate =>
  (h separate).trans (h' (h separate).separate) nofun

end AuditTrail

/-- What a file holds as a record. -/
def Disk.record? {α : Type} (ofJson? : Json → Option α) (d : Disk) (path : Path) : Option α := do
  let text ← (d.readText path).toOption
  ofJson? (← Json.ofText? text.toList)

theorem Disk.Shows.read {d : Disk} {path : Path} {data : Bytes} (h : d.Shows path data) :
    d.read path = .ok data := by
  obtain ⟨l, executable, found⟩ := h
  exact read_of_find found

/-- A file that shows the text of a record is read as that record. -/
theorem Disk.Shows.record? {d : Disk} {path : Path} {j : Json}
    (h : d.Shows path (Utf8.encode (j.pretty ++ "\n"))) (writable : j.isWritable = true)
    {α : Type} (ofJson? : Json → Option α) : d.record? ofJson? path = ofJson? j := by
  obtain ⟨l, executable, found⟩ := h
  rw [Disk.record?, readText_of_find found]
  simp only [Except.toOption, Option.bind_eq_bind, Option.bind_some,
    Json.ofText?_pretty_line writable]

/-- The files of a completed pass. -/
def Round.files {σ : Type} (dir : Path) (round : Round σ) : List (Path × Bytes) :=
  AuditTrail.entry dir round.record round.snapshot round.attempt?

/-- The outcome of passes whose numbers fit is read back from its record. -/
theorem History.ofJson?_outcome {history : History}
    (fit : ∀ pass ∈ history.passes, pass.Fits) :
    Outcome.ofJson? history.outcome.toJson = some history.outcome := by
  have last {count : Pass → Nat} (small : ∀ pass ∈ history.passes, count pass < UInt64.size) :
      (history.passes.getLast?.map count).getD 0 < UInt64.size := by
    cases at_last : history.passes.getLast? with
    | none => exact (by decide : 0 < UInt64.size)
    | some pass => exact small pass (List.mem_of_getLast? at_last)
  refine Outcome.ofJson?_toJson ?_ ?_ ?_ fit
  · exact (Nat.min_le_right _ _).trans_lt (by decide)
  · rw [History.outcome_finalErrors]
    exact last fun pass mem => (fit pass mem).staticErrors
  · rw [History.outcome_finalTestFailures]
    exact last fun pass mem => (fit pass mem).testFailures

/-- What the trail tells about a completed pass: its record, what was found in it, and what was
asked and answered. -/
structure Round.Recorded {σ : Type} (dir : Path) (number : Nat) (round : Round σ) (d : Disk) :
    Prop where
  record : d.record? Pass.ofJson? (AuditTrail.places dir number).record = some round.record
  diagnostics : d.record? Snapshot.ofJson? (AuditTrail.places dir number).diagnostics =
    some round.snapshot
  question : ∀ prompt current fix, .ask prompt current fix ∈ round.calls →
    d.read (AuditTrail.places dir number).prompt = .ok (Utf8.encode prompt)
  answer : ∀ prompt current fix, .ask prompt current fix ∈ round.calls →
    ∃ answer, d.record? some (AuditTrail.places dir number).oracle = some answer ∧
      answer.field? "kind" = some (.text fix.kind) ∧
      answer.field? "detail" = fix.detail?.map .text ∧
      answer.field? "written" = some (.bool round.record.fixApplied)

namespace Repair

open AuditTrail
open scoped Mender.Path

variable {σ : Type} (r : Repair σ)

/-- Every call of a collaborator makes such a step of the disk. -/
structure Makes (path : Path) (dryRun : Bool) (step : Disk → Disk → Prop) : Prop where
  rewrite : ∀ a, step a.disk (r.tools.rewrite path dryRun a).2.disk
  analyze : ∀ a, step a.disk (r.tools.analyze path a).2.disk
  test : ∀ a, step a.disk (r.tools.test path a).2.disk
  ask : ∀ prompt current a, step a.disk (r.oracle.ask prompt current a).2.disk

variable {r} {target : Target} {dryRun rewritten : Bool} {index budget : Nat} {a b : Site σ}
  {calls : List Event} {rounds : List (Round σ)} {snapshot : Snapshot} {stop : Option Failure}
  {dir : Path}

section Steps

variable {step : Disk → Disk → Prop} (makes : r.Makes target.path dryRun step)
  (trans : ∀ {d d' d''}, step d d' → step d' d'' → step d d'')
  (write : ∀ text d, step d (target.write text d).2)
include makes trans

theorem Inspects.steps (h : r.Inspects target a snapshot b) : step a.disk b.disk := by
  obtain ⟨c, analyzed, tested⟩ := h
  have first := makes.analyze a
  rw [analyzed] at first
  have second := makes.test c
  rw [tested] at second
  exact trans first second

include write

theorem AttemptCourse.steps {answer : Except Failure Attempt}
    (h : r.AttemptCourse target a snapshot calls b answer) : step a.disk b.disk := by
  have asked {prompt current : String} {fix : Fix} {b : Site σ}
      (asked : r.Asks target a snapshot prompt current fix b) : step a.disk b.disk := by
    have answered := makes.ask prompt current a
    rw [asked.answered] at answered
    exact answered
  cases h with
  | kept question => exact asked question
  | @written b _ _ _ text _ question _ wrote | @refused b _ _ _ text _ _ question _ wrote =>
    have after := write text b.disk
    rw [wrote] at after
    exact trans (asked question) after

/-- If the collaborators and the writes to the target make steps of one kind, so does a pass up
to its records. -/
theorem PassCourse.steps {answer : Except Failure (Snapshot × Option Attempt)}
    (h : r.PassCourse target dryRun a calls b answer) : step a.disk b.disk := by
  cases h with
  | unanalyzed analyzed =>
    have after := makes.analyze a
    rw [analyzed] at after
    exact after
  | @untested b _ _ _ analyzed tested =>
    have first := makes.analyze a
    rw [analyzed] at first
    have second := makes.test b
    rw [tested] at second
    exact trans first second
  | idle inspected => exact Inspects.steps makes trans inspected
  | tried inspected _ attempted | refused inspected _ attempted =>
    exact trans (Inspects.steps makes trans inspected) (attempted.steps makes trans write)

end Steps

theorem PassCourse.untouched {answer : Except Failure (Snapshot × Option Attempt)}
    (h : r.PassCourse target dryRun a calls b answer)
    (spared : r.Makes target.path dryRun (Untouched dir target.path)) :
    Untouched dir target.path a.disk b.disk :=
  h.steps spared Untouched.trans fun text _ separate => fills_of_target_write separate text

theorem writePass_of_audits (kept : r.auditDir? = some dir) {record : Pass}
    {attempt? : Option Attempt} (audited : r.Audits record snapshot attempt? a (.ok ()) b) :
    ∃ found, writePass dir record snapshot attempt? a.disk = (.ok found, b.disk) := by
  have ran := audited []
  rw [audit_filing kept] at ran
  rcases filed : writePass dir record snapshot attempt? a.disk with ⟨failure | found, disk⟩
  · rw [filed] at ran
    cases ran
  · rw [filed] at ran
    cases ran
    exact ⟨found, rfl⟩

theorem writeOutcome_of_finish (kept : r.auditDir? = some dir) {history : History}
    {outcome : Outcome}
    (filed : ∀ events, r.finish history ⟨a, events⟩ = (.ok outcome, ⟨b, events⟩)) :
    ∃ found, writeOutcome dir outcome a.disk = (.ok found, b.disk) := by
  have ran := filed []
  obtain rfl := outcome_of_finish ran
  rw [finish_filing kept] at ran
  rcases wrote : writeOutcome dir history.outcome a.disk with ⟨failure | found, disk⟩
  · rw [wrote] at ran
    cases ran
  · rw [wrote] at ran
    cases ran
    exact ⟨found, rfl⟩

theorem Course.le_index
    (h : r.Course target dryRun rewritten index budget a calls rounds b stop)
    {round : Round σ} (mem : round ∈ rounds) : index ≤ round.record.index := by
  obtain ⟨i, at_i⟩ := List.getElem?_of_mem mem
  rw [h.record_eq at_i]
  exact Nat.le_add_right index i

/-- Completed passes fill their files, one after another. -/
theorem Course.fills (kept : r.auditDir? = some dir)
    (spared : r.Makes target.path dryRun (Untouched dir target.path))
    (h : r.Course target dryRun rewritten index budget a calls rounds b stop)
    (complete : stop = none) (separate : Separate dir target.path a.disk) :
    Fills dir target.path (rounds.flatMap (Round.files dir)) a.disk b.disk := by
  have first {a b c : Site σ} {calls : List Event} {snapshot : Snapshot}
      {attempt? : Option Attempt} {index : Nat}
      (passed : r.PassCourse target dryRun a calls b (.ok (snapshot, attempt?)))
      (audited : r.Audits (.ofRound index rewritten snapshot attempt?) snapshot attempt? b
        (.ok ()) c) (separate : Separate dir target.path a.disk) :
      Fills dir target.path (entry dir (.ofRound index rewritten snapshot attempt?) snapshot
        attempt?) a.disk c.disk := by
    have still := passed.untouched spared separate
    obtain ⟨found, wrote⟩ := writePass_of_audits kept audited
    exact still.trans (fills_of_writePass still.separate wrote) nofun
  induction h with
  | spent => exact .refl separate
  | failed | unaudited => cases complete
  | gold passed audited =>
    rw [List.flatMap_singleton]
    exact first passed audited separate
  | further passed audited _ rest ih =>
    have here := first passed audited separate
    refine here.trans (ih complete here.separate) ?_
    -- later passes have greater numbers
    intro path mem later
    obtain ⟨name, -, named, rfl⟩ := mem_entry mem
    obtain ⟨file, later, same⟩ := List.mem_map.mp later
    obtain ⟨round, mem, later⟩ := List.mem_flatMap.mp later
    obtain ⟨name', -, named', same'⟩ := mem_entry (List.mem_map_of_mem later)
    obtain ⟨number, -⟩ := place_inj named named' (same.symm.trans same')
    have greater := rest.le_index mem
    rw [← number] at greater
    exact absurd greater (Nat.not_succ_le_self _)

/-- A run with an outcome fills the files of its passes and that of its outcome. -/
theorem RunCourse.fills (kept : r.auditDir? = some dir)
    (spared : r.Makes target.path dryRun (Untouched dir target.path)) {outcome : Outcome}
    (h : r.RunCourse target dryRun a calls rounds b (.ok outcome))
    (separate : Separate dir target.path a.disk) :
    Fills dir target.path (rounds.flatMap (Round.files dir) ++
      [(resultPath dir, Utf8.encode (outcome.toJson.pretty ++ "\n"))]) a.disk b.disk := by
  cases h with
  | finished rewrote course filed =>
    have first := spared.rewrite a separate
    rw [rewrote] at first
    have passed := first.trans (course.fills kept spared rfl first.separate) nofun
    obtain ⟨found, wrote⟩ := writeOutcome_of_finish kept filed
    refine passed.trans (fills_of_writeOutcome passed.separate wrote) ?_
    intro path mem result
    obtain ⟨file, inside, rfl⟩ := List.mem_map.mp mem
    obtain ⟨round, -, inside⟩ := List.mem_flatMap.mp inside
    obtain ⟨name, -, named, same⟩ := mem_entry (List.mem_map_of_mem inside)
    rw [same] at result
    exact place_ne_resultPath named (List.mem_singleton.mp result)

/-- A completed pass made an attempt if it asked, and the attempt tells what was asked and
answered. -/
theorem PassCourse.ask_mem_iff {attempt? : Option Attempt}
    (h : r.PassCourse target dryRun a calls b (.ok (snapshot, attempt?))) {prompt : String}
    {fix : Fix} : (∃ current, .ask prompt current fix ∈ calls) ↔
      ∃ attempt, attempt? = some attempt ∧ attempt.prompt = prompt ∧ attempt.fix = fix := by
  cases h with
  | idle => simp [inspection]
  | tried _ _ attempted =>
    cases attempted with
    | @kept _ _ current | @written _ _ current =>
      constructor
      · rintro ⟨current', mem⟩
        obtain ⟨rfl, -, rfl⟩ : prompt = _ ∧ current' = _ ∧ fix = _ := by
          simpa [inspection] using mem
        exact ⟨_, rfl, rfl, rfl⟩
      · rintro ⟨attempt, made, rfl, rfl⟩
        cases made
        exact ⟨current, by simp⟩

theorem PassCourse.inspected {attempt? : Option Attempt}
    (h : r.PassCourse target dryRun a calls b (.ok (snapshot, attempt?))) :
    inspection target snapshot <+: calls := by
  cases h with
  | idle => exact List.prefix_refl _
  | tried => exact List.prefix_append _ _

theorem Course.fits
    (h : r.Course target dryRun rewritten 1 r.maxIterations.toNat a calls rounds b stop)
    (counts : ∀ pass ∈ rounds.map (·.record),
      pass.staticErrors < UInt64.size ∧ pass.testFailures < UInt64.size) :
    ∀ pass ∈ rounds.map (·.record), pass.Fits := by
  intro pass mem
  obtain ⟨errors, failures⟩ := counts pass mem
  refine ⟨?_, errors, failures⟩
  obtain ⟨round, completed, rfl⟩ := List.mem_map.mp mem
  obtain ⟨i, at_i⟩ := List.getElem?_of_mem completed
  obtain ⟨inside, -⟩ := List.getElem?_eq_some_iff.mp at_i
  rw [h.record_eq at_i]
  have budget := h.length_le
  have bound := r.maxIterations.toNat_lt
  simp only [Pass.ofRound, Pass.ofSnapshot, UInt32.size]
  omega

/-- Where the files of completed passes are filled, they tell about these passes. -/
theorem Course.recorded
    (h : r.Course target dryRun rewritten 1 budget a calls rounds b stop)
    (fit : ∀ pass ∈ rounds.map (·.record), pass.Fits) {later : List (Path × Bytes)}
    {d d' : Disk} (fills : Fills dir target.path (rounds.flatMap (Round.files dir) ++ later) d d')
    {i : Nat} {round : Round σ} (at_i : rounds[i]? = some round) :
    round.Recorded dir (i + 1) d' := by
  have mem := List.mem_of_getElem? at_i
  have number : round.record.index = i + 1 := by
    rw [h.record_eq at_i, Nat.add_comm]
    rfl
  obtain ⟨_, _, passed, record⟩ := h.completed mem
  have shown {name : Path} {text : String}
      (inside : (name, text) ∈ contents round.record round.snapshot round.attempt?) :
      d'.Shows (Path.join (places dir (i + 1)).directory name) (Utf8.encode text) := by
    rw [← number]
    refine (fills.written _ _ (List.mem_append_left _ (List.mem_flatMap.mpr ⟨round, mem, ?_⟩))).2
    exact List.mem_map.mpr ⟨(name, text), inside, rfl⟩
  have asked {prompt current : String} {fix : Fix}
      (question : .ask prompt current fix ∈ round.calls) : ∃ attempt,
        round.attempt? = some attempt ∧ attempt.prompt = prompt ∧ attempt.fix = fix :=
    passed.ask_mem_iff.mp ⟨current, question⟩
  refine ⟨?_, ?_, ?_, ?_⟩
  · have file : (Path.ofText "meta.json", round.record.toJson.pretty ++ "\n") ∈
        contents round.record round.snapshot round.attempt? := by simp [contents]
    exact ((shown file).record? (Pass.isWritable_toJson _) _).trans
      (Pass.ofJson?_toJson (fit _ (List.mem_map_of_mem mem)))
  · have file : (Path.ofText "diagnostics.json", round.snapshot.toJson.pretty ++ "\n") ∈
        contents round.record round.snapshot round.attempt? := by simp [contents]
    exact ((shown file).record? (Snapshot.isWritable_toJson _) _).trans
      (Snapshot.ofJson?_toJson _)
  · intro prompt current fix question
    obtain ⟨attempt, made, rfl, -⟩ := asked question
    have file : (Path.ofText "prompt.md", attempt.prompt) ∈
        contents round.record round.snapshot round.attempt? := by simp [contents, made]
    exact (shown file).read
  · intro prompt current fix question
    obtain ⟨attempt, made, -, rfl⟩ := asked question
    have file : (Path.ofText "oracle.json", attempt.toJson.pretty ++ "\n") ∈
        contents round.record round.snapshot round.attempt? := by simp [contents, made]
    have written : round.record.fixApplied = attempt.written := by
      rw [record, Pass.ofRound, made]
      rfl
    refine ⟨attempt.toJson, (shown file).record? (Attempt.isWritable_toJson _) some, ?_⟩
    rw [written]
    exact attempt.field?_toJson

/-- A run with an outcome leaves a trail that tells what it did: the records of its passes, what
each of them found, the questions and the answers, and the outcome. All of it reads back, as long
as no two files of the trail, nor one of them and the target, lie at one place, and the
collaborators leave the trail alone. -/
theorem execute_recorded (kept : r.auditDir? = some dir) {path : Path} {s t : Session σ}
    (found : Target.resolve s.site.disk path = .ok target)
    (separate : Separate dir target.path s.site.disk)
    (spared : r.Makes target.path dryRun (Untouched dir target.path)) {outcome : Outcome}
    (h : r.execute path dryRun s = (.ok outcome, t))
    (fits : ∀ pass ∈ outcome.history,
      pass.staticErrors < UInt64.size ∧ pass.testFailures < UInt64.size) :
    ∃ (calls : List Event) (rounds : List (Round σ)), t.events = s.events ++ calls ∧
      r.RunCourse target dryRun s.site calls rounds t.site (.ok outcome) ∧
      outcome.history = rounds.map (·.record) ∧
      (∀ (i : Nat) (round : Round σ), rounds[i]? = some round →
        inspection target round.snapshot <+: round.calls ∧
          round.Recorded dir (i + 1) t.site.disk) ∧
      t.site.disk.record? Outcome.ofJson? (resultPath dir) = some outcome := by
  obtain ⟨calls, rounds, b, answer, course, ran⟩ := execute_course (r := r) found dryRun
  rw [h] at ran
  cases ran
  have fills := course.fills kept spared separate
  refine ⟨calls, rounds, rfl, course, ?_⟩
  cases course with
  | finished _ course filed =>
    obtain rfl := outcome_of_finish (filed [])
    have history : (History.mk (rounds.map (·.record))).outcome.history = rounds.map (·.record) :=
      rfl
    have fit := course.fits fits
    refine ⟨history, fun i round at_i => ⟨?_, ?_⟩, ?_⟩
    · obtain ⟨_, _, passed, -⟩ := course.completed (List.mem_of_getElem? at_i)
      exact passed.inspected
    · exact course.recorded fit fills at_i
    · have shown := (fills.written _ _ (List.mem_append_right _ (List.mem_singleton_self _))).2
      rw [shown.record? (Outcome.isWritable_toJson _)]
      exact History.ofJson?_outcome fit

/-- A disk with the file `/a` and a trail in `/t` that was used before: a prompt is left in it. -/
def used : Disk where
  entries := [(["a"], .file [60] false), (["t"], .directory), (["t", "1"], .directory),
    (["t", "1", "prompt.md"], .file [112] false)]
  cwd := []
  faults := []

theorem legal_used : Disk.Legal "/" "t" ∧ Disk.Legal "/t" "1" ∧ Disk.Legal "/t" "result.json" ∧
    ∀ name ∈ fileNames, Disk.Legal (Path.join "/t" "1") name := by
  decide

theorem opens_root (d : Disk) : d.Opens "/" [] := by
  have walked : d.walk .followed "/" = .ok ⟨.found [] .directory, false, true⟩ :=
    Disk.walk_eq_ok_iff.mpr ⟨by decide, .done⟩
  exact ⟨Disk.find_eq_ok_iff.mpr ⟨false, true, walked, fun _ => rfl⟩, rfl⟩

theorem opens_trail {d : Disk} (there : d.at? ["t"] = some .directory) : d.Opens "/t" ["t"] := by
  have trail : Path.join "/" "t" = Path.ofText "/t" := by decide
  exact trail ▸ (opens_root d).below legal_used.1 there

theorem exists_writeOutcome_used {d : Disk} (sound : d.faults = [])
    (there : d.at? ["t"] = some .directory)
    (free : d.at? ["t", "result.json"] = none) (outcome : Outcome) :
    ∃ d', writeOutcome "/t" outcome d = (.ok (resultPath "/t"), d') ∧ d.Grows d' ∧
      ∀ l, l ≠ [Path.ofText "t", .ofText "result.json"] → d'.at? l = d.at? l := by
  obtain ⟨legal_trail, -, legal_result, -⟩ := legal_used
  have trail : Path.join "/" "t" = Path.ofText "/t" := by decide
  have made := Disk.makeDirectories_join (opens_root d) legal_trail there
  rw [trail] at made
  obtain ⟨d', wrote, grows, -, unchanged⟩ := exists_wrote sound (opens_trail there)
    (List.forall_mem_singleton.mpr legal_result :
      ∀ file ∈ [(Path.ofText "result.json", outcome.toJson.pretty ++ "\n")], Disk.Legal "/t" file.1)
    (List.forall_mem_singleton.mpr (.inl free))
  exact ⟨d', writeOutcome_eq_ok_iff.mpr ⟨rfl, d, made, wrote⟩, grows,
    fun l other => unchanged l (List.forall_mem_singleton.mpr other)⟩

/-- The files of the first pass can be left on that disk, and the outcome too. -/
theorem exists_writePass_used {pass : Pass} (first : pass.index = 1) (snapshot : Snapshot)
    (attempt? : Option Attempt) :
    ∃ d', writePass "/t" pass snapshot attempt? used = (.ok (places "/t" 1), d') ∧
      ∀ outcome, ∃ d'', writeOutcome "/t" outcome d' = (.ok (resultPath "/t"), d'') := by
  obtain ⟨-, legal_number, -, legal⟩ := legal_used
  have number : (places "/t" pass.index).directory = Path.join "/t" "1" := by
    rw [first, directory_first]
  have opens : used.Opens "/t" ["t"] := opens_trail rfl
  have clear : ∀ name ∈ fileNames, used.at? [.ofText "t", .ofText "1", name] = none ∨
      used.at? [.ofText "t", .ofText "1", name] = some (.file [112] false) := by decide
  obtain ⟨d', wrote, grows, sound, unchanged⟩ := exists_writePass pass snapshot attempt? rfl
    (number ▸ Disk.makeDirectories_join opens legal_number rfl)
    (number ▸ opens.below legal_number rfl) (number ▸ legal)
    fun name mem => (clear name mem).imp_right fun lies => ⟨_, _, lies⟩
  refine ⟨d', first ▸ wrote, fun outcome => ?_⟩
  have there : d'.at? ["t"] = some .directory := of_decide_eq_true (grows.isDirectoryAt rfl)
  have free : d'.at? ["t", "result.json"] = none := unchanged _ fun name => by simp
  obtain ⟨d'', filed, -⟩ := exists_writeOutcome_used sound there free outcome
  exact ⟨d'', filed⟩

/-- A run of one pass. -/
theorem execute_of_pass {dryRun : Bool} {a c : Site Script} {events : List Event} {record : Pass}
    {verdict : Verdict} {d : Disk} (located : Target.resolve a.disk "/a" = .ok ⟨"/a", false⟩)
    (passed : ((rehearsal (some "/t")).withBudget 1).pass ⟨"/a", false⟩ dryRun true 1
      ⟨a, [.rewrite "/a" dryRun (.ok true)]⟩ = (.ok (record, verdict), ⟨c, events⟩))
    (filed : writeOutcome "/t" (History.mk [record]).outcome c.disk = (.ok (resultPath "/t"), d)) :
    ((rehearsal (some "/t")).withBudget 1).execute "/a" dryRun ⟨a, []⟩ =
      (.ok (History.mk [record]).outcome, ⟨{ c with disk := d }, events⟩) := by
  let r := (rehearsal (some "/t")).withBudget 1
  have rewrote : r.tools.rewrite "/a" dryRun a = (.ok true, a) := rfl
  have ran : r.passes ⟨"/a", false⟩ dryRun true .empty 1 ⟨a, [.rewrite "/a" dryRun (.ok true)]⟩ =
      (.ok ⟨[record]⟩, ⟨c, events⟩) := by
    refine (bind_of_ok passed).trans ?_
    cases verdict <;> rfl
  change r.execute "/a" dryRun ⟨a, []⟩ = _
  rw [execute, bind_of_ok (locate_of_resolved (s := ⟨a, []⟩) located),
    bind_of_ok (within_call rewrote _ _)]
  refine (bind_of_ok ran).trans ?_
  rw [finish_filing (r := r) rfl, filed]
  rfl

/-- Before a run on `/a` with that trail: an analysis will find an error, and the oracle will not be
reached. -/
def usedStage : Session Script where
  site := ⟨used, .ofLists [.sample 1 0] [.transportError "\x00\"\n"]⟩
  events := []

def usedEnding : Outcome := ⟨false, 1, 1, 0, [⟨1, true, 1, 0, false⟩]⟩

/-- The pass, whether it asks or not, leaves its records beside what is there. -/
theorem exists_pass_used (dryRun : Bool) (events : List Event) :
    ∃ (c : Site Script) (events' : List Event),
      ((rehearsal (some "/t")).withBudget 1).pass ⟨"/a", false⟩ dryRun true 1
          ⟨usedStage.site, events⟩ = (.ok (⟨1, true, 1, 0, false⟩, .repair), ⟨c, events'⟩) ∧
        ∀ outcome, ∃ d, writeOutcome "/t" outcome c.disk = (.ok (resultPath "/t"), d) := by
  let r := (rehearsal (some "/t")).withBudget 1
  let snapshot := Snapshot.sample 1 0
  let analyzed : Site Script := ⟨used, usedStage.site.memory.advance⟩
  let asked : Site Script := ⟨used, { analyzed.memory with answers := [] }⟩
  have inspected : r.Inspects ⟨"/a", false⟩ usedStage.site snapshot analyzed :=
    ⟨analyzed, rfl, rfl⟩
  have audited (record : Pass) (first : record.index = 1) (attempt? : Option Attempt)
      (b : Site Script) (same : b.disk = used) :
      ∃ c, r.Audits record snapshot attempt? b (.ok ()) c ∧
        ∀ outcome, ∃ d, writeOutcome "/t" outcome c.disk = (.ok (resultPath "/t"), d) := by
    obtain ⟨d, wrote, result⟩ := exists_writePass_used first snapshot attempt?
    refine ⟨{ b with disk := d }, fun events => ?_, result⟩
    rw [audit_filing (r := r) rfl, same, wrote]
    rfl
  cases dryRun with
  | true =>
    obtain ⟨c, left, result⟩ := audited (.ofRound 1 true snapshot none) rfl none analyzed rfl
    exact ⟨c, _, pass_of_idle (r := r) inspected rfl left events, result⟩
  | false =>
    let prompt := Prompt.build r.language ((Target.mk "/a" false).read used r.language) snapshot
    let attempt : Attempt := ⟨prompt, .transportError "\x00\"\n", false⟩
    have question : r.Asks ⟨"/a", false⟩ analyzed snapshot prompt _ attempt.fix asked :=
      ⟨rfl, rfl, rfl⟩
    obtain ⟨c, left, result⟩ :=
      audited (.ofRound 1 true snapshot (some attempt)) rfl (some attempt) asked rfl
    exact ⟨c, _, pass_of_tried (r := r) inspected rfl (attempt_of_asks question _) left, result⟩

/-- So the run has an outcome. -/
theorem exists_execute_used (dryRun : Bool) :
    ∃ t, ((rehearsal (some "/t")).withBudget 1).execute "/a" dryRun usedStage =
      (.ok usedEnding, t) := by
  have located : Target.resolve used "/a" = .ok ⟨"/a", false⟩ := by cbv
  have ending : (History.mk usedEnding.history).outcome = usedEnding := by decide
  obtain ⟨c, events, passed, result⟩ := exists_pass_used dryRun [.rewrite "/a" dryRun (.ok true)]
  obtain ⟨d, filed⟩ := result (History.mk usedEnding.history).outcome
  exact ⟨_, ending ▸ execute_of_pass located passed filed⟩

/-- Rehearsed collaborators leave the disk as it is. -/
theorem makes_rehearsal (auditDir? : Option Path) (budget : UInt32) (path : Path)
    (dryRun : Bool) {step : Disk → Disk → Prop} (refl : ∀ d, step d d) :
    ((rehearsal auditDir?).withBudget budget).Makes path dryRun step where
  rewrite _ := refl _
  analyze _ := refl _
  test _ := refl _
  ask prompt current a := by
    obtain ⟨disk, coming, snapshot, answers⟩ := a
    cases answers <;> exact refl _

theorem separate_used : Separate "/t" "/a" used := by
  have plain {l : Location} {entry : Entry} (lies : used.at? l = some entry) :
      entry = .directory ∨ ∃ data executable, entry = .file data executable := by
    unfold Disk.at? at lies
    split at lies
    · exact .inl (Option.some.inj lies).symm
    · simp only [used, List.lookup_cons, List.lookup_nil] at lies
      repeat' split at lies
      all_goals cases lies
      all_goals simp
  refine separate_of_linkless ?_ ?_ ?_ (by decide)
  · intro l target linked
    obtain same | ⟨_, _, same⟩ := plain linked <;> cases same
  · intro place above
    obtain rfl := List.prefix_nil.mp above
    rfl
  · intro l _ special lies
    obtain same | ⟨_, _, same⟩ := plain lies <;> cases same

theorem execute_recorded_used :
    Separate "/t" "/a" used ∧
      ∃ (rounds : List (Round Script)) (t : Session Script),
        ((rehearsal (some "/t")).withBudget 1).execute "/a" false usedStage =
          (.ok usedEnding, t) ∧
        usedEnding.history = rounds.map (·.record) ∧
        (∀ i (round : Round Script), rounds[i]? = some round →
          round.Recorded "/t" (i + 1) t.site.disk) ∧
        t.site.disk.record? Outcome.ofJson? (resultPath "/t") = some usedEnding := by
  have found : Target.resolve usedStage.site.disk "/a" = .ok ⟨"/a", false⟩ := by cbv
  have fits : ∀ pass ∈ usedEnding.history,
      pass.staticErrors < UInt64.size ∧ pass.testFailures < UInt64.size := by decide
  obtain ⟨t, ran⟩ := exists_execute_used false
  obtain ⟨_, rounds, -, -, history, recorded, result⟩ :=
    execute_recorded (r := (rehearsal (some "/t")).withBudget 1) rfl found separate_used
      (makes_rehearsal (some "/t") 1 "/a" false fun _ separate => Fills.refl separate) ran fits
  exact ⟨separate_used, rounds, t, ran, history,
    fun i round at_i => (recorded i round at_i).2, result⟩

/-- A disk with a trail in which the record of the first pass is a link to its findings. -/
def tied (findings : Bytes) : Disk where
  entries := [(["t", "1", "diagnostics.json"], .file findings false), (["a"], .file [60] false),
    (["t"], .directory), (["t", "1"], .directory),
    (["t", "1", "meta.json"], .link "diagnostics.json")]
  cwd := []
  faults := []

theorem find_tied (findings : Bytes) : (tied findings).find (Path.join "/t/1" "meta.json") =
    .ok (["t", "1", "diagnostics.json"], .file findings false) := by
  cbv

theorem replace_tied (findings data : Bytes) {path : Path}
    (named : path ∈ [Path.join "/t/1" "meta.json", Path.join "/t/1" "diagnostics.json"]) :
    (tied findings).replace path data = (.ok (), tied data) := by
  simp only [List.mem_cons, List.not_mem_nil, or_false] at named
  rcases named with rfl | rfl <;> cbv

/-- Without an attempt, the findings are all that a pass leaves there. -/
theorem writePass_tied {pass : Pass} (first : pass.index = 1) (snapshot : Snapshot)
    (findings : Bytes) : writePass "/t" pass snapshot none (tied findings) =
      (.ok (places "/t" 1), tied (Utf8.encode (snapshot.toJson.pretty ++ "\n"))) := by
  have below : Path.join "/t" "1" = Path.ofText "/t/1" := by decide
  have number : (places "/t" pass.index).directory = Path.ofText "/t/1" := by
    rw [first, directory_first, below]
  have there : (tied findings).makeDirectories "/t/1" = (.ok (), tied findings) :=
    below ▸ Disk.makeDirectories_join (opens_trail rfl) legal_used.2.1 rfl
  refine writePass_eq_ok_iff.mpr ⟨by rw [first], tied findings, ?_, ?_⟩
  · rwa [number]
  · rw [number]
    exact .cons (replace_tied _ _ (by simp)) (.cons (replace_tied _ _ (by simp)) .nil)

theorem exists_execute_tied :
    ∃ t, ((rehearsal (some "/t")).withBudget 1).execute "/a" true
        ⟨⟨tied [], .ofLists [.sample 0 0] []⟩, []⟩ =
          (.ok (History.mk [⟨1, true, 0, 0, false⟩]).outcome, t) ∧
      t.site.disk.Shows (places "/t" 1).record
        (Utf8.encode ((Snapshot.sample 0 0).toJson.pretty ++ "\n")) := by
  let r := (rehearsal (some "/t")).withBudget 1
  let a : Site Script := ⟨tied [], .ofLists [.sample 0 0] []⟩
  let snapshot := Snapshot.sample 0 0
  let findings := Utf8.encode (snapshot.toJson.pretty ++ "\n")
  let analyzed : Site Script := ⟨tied [], a.memory.advance⟩
  let c : Site Script := { analyzed with disk := tied findings }
  have located : Target.resolve (tied []) "/a" = .ok ⟨"/a", false⟩ := by cbv
  have inspected : r.Inspects ⟨"/a", false⟩ a snapshot analyzed := ⟨analyzed, rfl, rfl⟩
  have audited : r.Audits (.ofRound 1 true snapshot none) snapshot none analyzed (.ok ()) c := by
    intro events
    have same : analyzed.disk = tied [] := rfl
    rw [audit_filing (r := r) rfl, same, writePass_tied rfl]
    rfl
  have passed (events : List Event) : r.pass ⟨"/a", false⟩ true true 1 ⟨a, events⟩ = _ :=
    pass_of_idle inspected rfl audited events
  obtain ⟨d, filed, grows, unchanged⟩ := exists_writeOutcome_used (d := tied findings) rfl rfl rfl
    (History.mk [.ofRound 1 true snapshot none]).outcome
  refine ⟨_, execute_of_pass located (passed _) filed, ?_⟩
  have record : (places "/t" 1).record = Path.join "/t/1" "meta.json" :=
    congrArg (Path.join · "meta.json") (directory_first "/t")
  have found : (tied findings).find (places "/t" 1).record =
      .ok (["t", "1", "diagnostics.json"], .file findings false) := by
    rw [record, find_tied]
  have holds : d.fileAt? ["t", "1", "diagnostics.json"] = some findings := by
    rw [Disk.fileAt?, unchanged _ (by simp)]
    rfl
  obtain ⟨executable, found⟩ := Disk.find_grow grows found holds
  exact ⟨_, executable, found⟩

theorem execute_recorded_tied :
    ¬(tied []).lexical "/t" <+: (tied []).lexical "/a" ∧
      ((rehearsal (some "/t")).withBudget 1).Makes "/a" true (fun d d' => d' = d) ∧
      ∃ outcome t, ((rehearsal (some "/t")).withBudget 1).execute "/a" true
          ⟨⟨tied [], .ofLists [.sample 0 0] []⟩, []⟩ = (.ok outcome, t) ∧
        ∃ pass, outcome.history[0]? = some pass ∧
          t.site.disk.record? Pass.ofJson? (places "/t" 1).record ≠ some pass := by
  refine ⟨by decide, makes_rehearsal _ _ _ _ fun _ => rfl, ?_⟩
  obtain ⟨t, ran, shows⟩ := exists_execute_tied
  refine ⟨_, t, ran, _, rfl, ?_⟩
  rw [shows.record? (Snapshot.isWritable_toJson _)]
  decide

end Repair

end Mender
