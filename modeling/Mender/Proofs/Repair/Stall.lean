import Mender.Proofs.Repair.Calls
import Mender.Proofs.Repair.Content

/-!
# Runs that stall

Where the tools and the oracle go by the content of the target alone, a pass is settled by that
content: what it finds, what it asks and what it is answered. So a pass that finds something
and applies nothing is repeated by all passes behind it, and the run uses up its budget.
`Settled` and `Steady` say what is relied on, for every notion of content.
-/

namespace Mender.Repair

variable {σ γ : Type} (r : Repair σ) (target : Target) (safe : Disk → Prop) (content : Disk → γ)

/-- What is read, found and answered depends on the content of the target, as long as the disk
is a safe one. -/
structure Settled : Prop where
  read : ∀ d d', safe d → safe d' → content d = content d' →
    target.read d r.language = target.read d' r.language
  analyze : ∀ a a' : Site σ, safe a.disk → safe a'.disk → content a.disk = content a'.disk →
    (r.tools.analyze target.path a).1 = (r.tools.analyze target.path a').1
  test : ∀ a a' : Site σ, safe a.disk → safe a'.disk → content a.disk = content a'.disk →
    (r.tools.test target.path a).1 = (r.tools.test target.path a').1
  ask : ∀ prompt current (a a' : Site σ), safe a.disk → safe a'.disk →
    (r.oracle.ask prompt current a).1 = (r.oracle.ask prompt current a').1

/-- Behind the rewriting, only a write to the target changes its content, and no disk ceases to be
safe. -/
structure Steady (dryRun : Bool) : Prop where
  rewrite : ∀ a, safe a.disk → safe (r.tools.rewrite target.path dryRun a).2.disk
  analyze : ∀ a, safe a.disk →
    let b := (r.tools.analyze target.path a).2
    safe b.disk ∧ content b.disk = content a.disk
  test : ∀ a, safe a.disk →
    let b := (r.tools.test target.path a).2
    safe b.disk ∧ content b.disk = content a.disk
  ask : ∀ prompt current a, safe a.disk →
    let b := (r.oracle.ask prompt current a).2
    safe b.disk ∧ content b.disk = content a.disk
  write : ∀ text d, safe d → safe (target.write text d).2
  audit : ∀ dir, r.auditDir? = some dir → ∀ pass snapshot attempt? d, safe d →
    let d' := (AuditTrail.writePass dir pass snapshot attempt? d).2
    safe d' ∧ content d' = content d

variable {r target safe content} {dryRun rewritten : Bool} {index budget : Nat}
  {a a' b b' c : Site σ} {calls calls' : List Event} {rounds : List (Round σ)}
  {snapshot snapshot' : Snapshot} {attempt? attempt?' : Option Attempt} {stop : Option Failure}

theorem Steady.inspected (steady : r.Steady target safe content dryRun) (start : safe a.disk)
    (inspected : r.Inspects target a snapshot b) :
    safe b.disk ∧ content b.disk = content a.disk := by
  obtain ⟨c, analyzed, tested⟩ := inspected
  have first := steady.analyze a start
  rw [analyzed] at first
  have second := steady.test c first.1
  rw [tested] at second
  exact ⟨second.1, second.2.trans first.2⟩

theorem Steady.asked (steady : r.Steady target safe content dryRun) (start : safe a.disk)
    {prompt current : String} {fix : Fix} (asked : r.Asks target a snapshot prompt current fix b) :
    safe b.disk ∧ content b.disk = content a.disk := by
  have answered := steady.ask prompt current a start
  rw [asked.answered] at answered
  exact answered

theorem Steady.audited (steady : r.Steady target safe content dryRun) (start : safe a.disk)
    {record : Pass} {answer : Except Failure Unit}
    (audited : r.Audits record snapshot attempt? a answer b) :
    safe b.disk ∧ content b.disk = content a.disk := by
  have ran := audited []
  cases kept : r.auditDir? with
  | none =>
    simp only [Repair.audit, kept] at ran
    cases ran
    exact ⟨start, rfl⟩
  | some dir =>
    rw [audit_filing kept] at ran
    cases ran
    exact steady.audit dir kept record snapshot attempt? a.disk start

theorem AttemptCourse.steady (steady : r.Steady target safe content dryRun) (start : safe a.disk)
    {attempt : Attempt} (h : r.AttemptCourse target a snapshot calls b (.ok attempt)) :
    safe b.disk ∧ (attempt.written = false → content b.disk = content a.disk) := by
  cases h with
  | kept asked =>
    obtain ⟨still, same⟩ := steady.asked start asked
    exact ⟨still, fun _ => same⟩
  | @written b _ _ _ text _ asked _ wrote =>
    have after := steady.write text b.disk (steady.asked start asked).1
    rw [wrote] at after
    exact ⟨after, nofun⟩

/-- A pass that writes nothing leaves the content as it found it. -/
theorem PassCourse.steady (steady : r.Steady target safe content dryRun) (start : safe a.disk)
    (h : r.PassCourse target dryRun a calls b (.ok (snapshot, attempt?))) :
    safe b.disk ∧ (attempt?.any (·.written) = false → content b.disk = content a.disk) := by
  cases h with
  | idle inspected =>
    obtain ⟨still, same⟩ := steady.inspected start inspected
    exact ⟨still, fun _ => same⟩
  | tried inspected _ attempted =>
    obtain ⟨between, first⟩ := steady.inspected start inspected
    obtain ⟨still, unwritten⟩ := attempted.steady steady between
    exact ⟨still, fun none => (unwritten none).trans first⟩

theorem Settled.inspects_eq (settled : r.Settled target safe content)
    (steady : r.Steady target safe content dryRun) (start : safe a.disk) (start' : safe a'.disk)
    (same : content a.disk = content a'.disk) (h : r.Inspects target a snapshot b)
    (h' : r.Inspects target a' snapshot' b') : snapshot = snapshot' := by
  obtain ⟨c, analyzed, tested⟩ := h
  obtain ⟨c', analyzed', tested'⟩ := h'
  have between := steady.analyze a start
  have between' := steady.analyze a' start'
  have errors := settled.analyze a a' start start' same
  rw [analyzed] at between errors
  rw [analyzed'] at between' errors
  have failures := settled.test c c' between.1 between'.1
    (between.2.trans (same.trans between'.2.symm))
  rw [tested, tested'] at failures
  obtain ⟨errors_eq, failures_eq⟩ := And.intro (Except.ok.inj errors) (Except.ok.inj failures)
  cases snapshot
  cases snapshot'
  cases errors_eq
  cases failures_eq
  rfl

/-- The same question gets the same answer, so an attempt comes to the same. -/
theorem AttemptCourse.eq_of_settled (settled : r.Settled target safe content)
    (start : safe a.disk) (start' : safe a'.disk) (same : content a.disk = content a'.disk)
    {attempt attempt' : Attempt} (h : r.AttemptCourse target a snapshot calls b (.ok attempt))
    (h' : r.AttemptCourse target a' snapshot calls' b' (.ok attempt')) : attempt = attempt' := by
  have answers {prompt prompt' current current' : String} {fix fix' : Fix} {b b' : Site σ}
      (asked : r.Asks target a snapshot prompt current fix b)
      (asked' : r.Asks target a' snapshot prompt' current' fix' b') :
      prompt = prompt' ∧ current = current' ∧ fix = fix' := by
    have currents : current = current' := by
      rw [asked.current_eq, asked'.current_eq, settled.read _ _ start start' same]
    subst currents
    have prompts : prompt = prompt' := by rw [asked.prompt_eq, asked'.prompt_eq]
    subst prompts
    have fixes := settled.ask prompt current a a' start start'
    rw [asked.answered, asked'.answered] at fixes
    exact ⟨rfl, rfl, fixes⟩
  cases h with
  | kept asked nothing =>
    cases h' with
    | kept asked' =>
      obtain ⟨rfl, -, rfl⟩ := answers asked asked'
      rfl
    | written asked' replaced =>
      obtain ⟨-, rfl, rfl⟩ := answers asked asked'
      rw [nothing] at replaced
      cases replaced
  | written asked replaced =>
    cases h' with
    | kept asked' nothing =>
      obtain ⟨-, rfl, rfl⟩ := answers asked asked'
      rw [nothing] at replaced
      cases replaced
    | written asked' =>
      obtain ⟨rfl, -, rfl⟩ := answers asked asked'
      rfl

/-- Two passes on the same content find the same and come to the same. -/
theorem PassCourse.eq_of_settled (settled : r.Settled target safe content)
    (steady : r.Steady target safe content dryRun) (start : safe a.disk) (start' : safe a'.disk)
    (same : content a.disk = content a'.disk)
    (h : r.PassCourse target dryRun a calls b (.ok (snapshot, attempt?)))
    (h' : r.PassCourse target dryRun a' calls' b' (.ok (snapshot', attempt?'))) :
    snapshot = snapshot' ∧ attempt? = attempt?' := by
  cases h with
  | idle inspected skipped =>
    cases h' with
    | idle inspected' =>
      exact ⟨settled.inspects_eq steady start start' same inspected inspected', rfl⟩
    | tried inspected' due =>
      cases settled.inspects_eq steady start start' same inspected inspected'
      rw [skipped] at due
      cases due
  | tried inspected due attempted =>
    cases h' with
    | idle inspected' skipped =>
      cases settled.inspects_eq steady start start' same inspected inspected'
      rw [skipped] at due
      cases due
    | tried inspected' _ attempted' =>
      cases settled.inspects_eq steady start start' same inspected inspected'
      obtain ⟨between, first⟩ := steady.inspected start inspected
      obtain ⟨between', first'⟩ := steady.inspected start' inspected'
      have still := first.trans (same.trans first'.symm)
      exact ⟨rfl, congrArg some
        (attempted.eq_of_settled settled between between' still attempted')⟩

/-- Once a pass has written nothing, all later ones repeat it. -/
theorem Course.repeats (settled : r.Settled target safe content)
    (steady : r.Steady target safe content dryRun)
    (passed : r.PassCourse target dryRun a calls b (.ok (snapshot, attempt?)))
    (unwritten : attempt?.any (·.written) = false) (start : safe a.disk) {calls' : List Event}
    (h : r.Course target dryRun rewritten index budget a' calls' rounds b' stop)
    (start' : safe a'.disk) (same : content a.disk = content a'.disk) :
    ∀ round ∈ rounds, round.snapshot = snapshot ∧ round.attempt? = attempt? := by
  induction h with
  | spent | failed | unaudited => exact nofun
  | gold passed' =>
    obtain ⟨rfl, rfl⟩ := passed.eq_of_settled settled steady start start' same passed'
    intro round mem
    cases List.mem_singleton.mp mem
    exact ⟨rfl, rfl⟩
  | further passed' audited _ _ ih =>
    obtain ⟨rfl, rfl⟩ := passed.eq_of_settled settled steady start start' same passed'
    obtain ⟨between, unchanged⟩ := passed'.steady steady start'
    obtain ⟨still, recorded⟩ := steady.audited between audited
    intro round mem
    rcases List.mem_cons.mp mem with rfl | mem
    · exact ⟨rfl, rfl⟩
    · exact ih still (same.trans ((recorded.trans (unchanged unwritten)).symm)) round mem

/-- Behind a pass that wrote nothing, all passes find the same and come to the same. -/
theorem Course.stalls (settled : r.Settled target safe content)
    (steady : r.Steady target safe content dryRun)
    (h : r.Course target dryRun rewritten index budget a calls rounds b stop)
    (start : safe a.disk) {k : Nat} {round : Round σ} (at_k : rounds[k]? = some round)
    (unwritten : round.attempt?.any (·.written) = false) {i : Nat} (behind : k ≤ i)
    {later : Round σ} (at_i : rounds[i]? = some later) :
    later.snapshot = round.snapshot ∧ later.attempt? = round.attempt? := by
  induction h generalizing k i with
  | spent | failed | unaudited => cases at_k
  | gold =>
    cases List.mem_singleton.mp (List.mem_of_getElem? at_k)
    cases List.mem_singleton.mp (List.mem_of_getElem? at_i)
    exact ⟨rfl, rfl⟩
  | further passed audited found rest ih =>
    cases k with
    | zero =>
      cases at_k
      have whole := Course.further passed audited found rest
      exact whole.repeats settled steady passed unwritten start start rfl _
        (List.mem_of_getElem? at_i)
    | succ k =>
      obtain ⟨between, -⟩ := passed.steady steady start
      obtain ⟨still, -⟩ := steady.audited between audited
      cases i with
      | zero => cases behind
      | succ i => exact ih still at_k (Nat.le_of_succ_le_succ behind) at_i

/-- The records behind that of a pass that applied nothing show as many findings as that one, and
nothing applied. -/
theorem Course.repeated (settled : r.Settled target safe content)
    (steady : r.Steady target safe content dryRun)
    (h : r.Course target dryRun rewritten index budget a calls rounds b stop)
    (start : safe a.disk) {k : Nat} {pass : Pass}
    (at_k : (rounds.map (·.record))[k]? = some pass) (unapplied : pass.fixApplied = false)
    (i : Nat) (later : Pass) (behind : k ≤ i)
    (at_i : (rounds.map (·.record))[i]? = some later) :
    later.staticErrors = pass.staticErrors ∧ later.testFailures = pass.testFailures ∧
      later.fixApplied = false := by
  rw [List.getElem?_map, Option.map_eq_some_iff] at at_k at_i
  obtain ⟨round, at_k, rfl⟩ := at_k
  obtain ⟨after, at_i, rfl⟩ := at_i
  rw [h.record_eq at_k] at unapplied
  obtain ⟨snapshots, attempts⟩ := h.stalls settled steady start at_k unapplied behind at_i
  rw [h.record_eq at_k, h.record_eq at_i, snapshots, attempts]
  exact ⟨rfl, rfl, unapplied⟩

/-- In a run with an outcome, a pass that found something and applied nothing is repeated by all
that follow: they find as much and apply nothing either, and the run ends without success when its
budget is used up. -/
theorem execute_stalls (settled : r.Settled target safe content)
    (steady : r.Steady target safe content dryRun) {path : Path} {s t : Session σ}
    (found : Target.resolve s.site.disk path = .ok target) (start : safe s.site.disk)
    {outcome : Outcome} (h : r.execute path dryRun s = (.ok outcome, t)) {k : Nat} {pass : Pass}
    (at_k : outcome.history[k]? = some pass) (findings : pass.found = true)
    (unapplied : pass.fixApplied = false) :
    (∀ i later, k ≤ i → outcome.history[i]? = some later →
      later.staticErrors = pass.staticErrors ∧ later.testFailures = pass.testFailures ∧
        later.fixApplied = false) ∧
      outcome.success = false ∧ outcome.iterations = r.maxIterations.toNat := by
  obtain ⟨calls, rounds, b, answer, course, ran⟩ := execute_course (r := r) found dryRun
  rw [h] at ran
  cases ran
  cases course with
  | finished rewrote course filed =>
    have rewritten := steady.rewrite s.site start
    rw [rewrote] at rewritten
    obtain rfl := outcome_of_finish (filed [])
    have accounts := course.accounts
    have repeated := course.repeated settled steady rewritten at_k unapplied
    have failed : (History.mk (rounds.map (·.record))).outcome.success = false := by
      rw [← Bool.not_eq_true, accounts.success_iff]
      rintro ⟨last, at_last, errors, failures⟩
      rw [List.getLast?_eq_getElem?] at at_last
      obtain ⟨behind, -⟩ := List.getElem?_eq_some_iff.mp at_k
      obtain ⟨same_errors, same_failures, -⟩ :=
        repeated _ last (Nat.le_sub_one_of_lt behind) at_last
      simp [Pass.found, ← same_errors, ← same_failures, errors, failures] at findings
    exact ⟨repeated, failed, accounts.exhausted failed⟩

section File

open scoped Mender.Path

variable {place : Location}

theorem Guards.fileAt?_eq {path : Path} {data : Bytes} {d : Disk}
    (h : r.Guards path place data d) : d.fileAt? place = some data := by
  obtain ⟨executable, found⟩ := h.leads
  exact Disk.fileAt?_of_find found

/-- What a target that is a file reads as is up to its bytes. -/
theorem read_congr (file : target.isDirectory = false) (language : Language) {d d' : Disk}
    (same : d.read target.path = d'.read target.path) :
    target.read d language = target.read d' language := by
  simp only [Target.read, file, Bool.false_eq_true, if_false, Disk.readText, same]

/-- Collaborators that spare a file leave its content to the writes of the run. -/
theorem steady_of_spares (file : target.isDirectory = false)
    (spares : ∀ data, r.Spares target.path (r.Guards target.path place data))
    (rewrites : ∀ data a, r.Guards target.path place data a.disk →
      r.Guards target.path place data (r.tools.rewrite target.path dryRun a).2.disk) :
    r.Steady target (fun d => ∃ data, r.Guards target.path place data d) (·.fileAt? place)
      dryRun where
  rewrite := by
    rintro a ⟨data, guards⟩
    exact ⟨data, rewrites data a guards⟩
  analyze := by
    rintro a ⟨data, guards⟩
    have after := (spares data).analyze a guards
    exact ⟨⟨data, after⟩, after.fileAt?_eq.trans guards.fileAt?_eq.symm⟩
  test := by
    rintro a ⟨data, guards⟩
    have after := (spares data).test a guards
    exact ⟨⟨data, after⟩, after.fileAt?_eq.trans guards.fileAt?_eq.symm⟩
  ask := by
    rintro prompt current a ⟨data, guards⟩
    have after := (spares data).ask prompt current a guards
    exact ⟨⟨data, after⟩, after.fileAt?_eq.trans guards.fileAt?_eq.symm⟩
  write := by
    rintro text d ⟨data, guards⟩
    obtain ⟨held, -, after⟩ := write_of_guards file guards text
    exact ⟨held, after⟩
  audit := by
    rintro dir kept pass snapshot attempt? d ⟨data, guards⟩
    have beside := AuditTrail.beside_writePass (guards.apart dir kept) pass snapshot attempt? d
      (.refl d)
    exact ⟨⟨data, guards.beside beside⟩, beside.fileAt?_eq⟩

/-- Tools that find one error for each byte of a file, and an oracle that knows one answer. -/
def counting : Repair Unit where
  tools :=
    { ready := fun _ => .ok ()
      rewrite := fun _ _ => return false
      analyze := fun path site =>
        (.ok (Snapshot.sample ((site.disk.read path).toOption.getD []).length 0).staticErrors, site)
      test := fun _ => return [] }
  oracle := ⟨fun _ _ => return .applied "<?"⟩
  maxIterations := 3
  language := .default
  auditDir? := none

/-- Before a run on the file `/a`, which holds the data. -/
def countingSite (data : Bytes) : Site Unit := ⟨⟨[(["a"], .file data false)], [], []⟩, ()⟩

theorem find_countingSite (data : Bytes) :
    (countingSite data).disk.find "/a" = .ok (["a"], .file data false) := by
  cbv

theorem replace_countingSite (data after : Bytes) :
    (countingSite data).disk.replace "/a" after = (.ok (), (countingSite after).disk) := by
  cbv

/-- A pass on a file that is not empty finds errors, and writes the answer if that is news. -/
theorem pass_counting (data after : Bytes) (current : String) (written : Bool)
    (found : data ≠ []) (reads : Utf8.decode? data = some current)
    (settles : (match replacement? (.applied "<?") current with
      | none => (false, data)
      | some content => (true, Utf8.encode content)) = (written, after))
    (index : Nat) (events : List Event) :
    ∃ events', counting.pass ⟨"/a", false⟩ false false index ⟨countingSite data, events⟩ =
      (.ok (⟨index, false, data.length, 0, written⟩, .repair), ⟨countingSite after, events'⟩) := by
  let snapshot := Snapshot.sample data.length 0
  have due : snapshot.isGold = false := by
    simpa [snapshot, Snapshot.isGold, Snapshot.sample] using found
  have live : (snapshot.isGold || false) = false := by simp [due]
  have read := Disk.read_of_find (find_countingSite data)
  have inspected : counting.Inspects ⟨"/a", false⟩ (countingSite data) snapshot
      (countingSite data) := by
    refine ⟨countingSite data, ?_, rfl⟩
    simp only [counting, read]
    rfl
  have asked : counting.Asks ⟨"/a", false⟩ (countingSite data) snapshot
      (Prompt.build .default current snapshot) current (.applied "<?") (countingSite data) := by
    refine ⟨?_, rfl, rfl⟩
    simp [Target.read, Disk.readText, read, reads, Except.toOption]
  have attempted := attempt_of_asks asked (events ++ inspection ⟨"/a", false⟩ snapshot)
  have audited (a : Site Unit) (record : Pass) (attempt? : Option Attempt) :
      counting.Audits record snapshot attempt? a (.ok ()) a := fun _ => rfl
  have counted (attempt : Attempt) : Pass.ofRound index false snapshot (some attempt) =
      ⟨index, false, data.length, 0, attempt.written⟩ := by
    simp [Pass.ofRound, Pass.ofSnapshot, snapshot, Snapshot.sample]
  have verdict : snapshot.verdict = .repair := by
    rw [Snapshot.verdict, due]
    rfl
  cases replaced : replacement? (.applied "<?") current with
  | none =>
    rw [replaced] at attempted settles
    cases settles
    have ran := pass_of_tried inspected live attempted (audited _ (.ofRound index false _ _) _)
    rw [counted, verdict] at ran
    exact ⟨_, ran⟩
  | some content =>
    rw [replaced] at attempted settles
    cases settles
    have wrote : (⟨"/a", false⟩ : Target).write content (countingSite data).disk =
        (.ok (), (countingSite (Utf8.encode content)).disk) := by
      rw [Target.write, if_neg (by simp), Filing.writeText_apply, replace_countingSite]
      rfl
    simp only [wrote] at attempted
    have ran := pass_of_tried inspected live attempted (audited _ (.ofRound index false _ _) _)
    rw [counted, verdict] at ran
    exact ⟨_, ran⟩

/-- The passes of a run on one byte: one fix brings another byte, and the next brings nothing. -/
def countingHistory : History :=
  ⟨[⟨1, false, 1, 0, true⟩, ⟨2, false, 2, 0, false⟩, ⟨3, false, 2, 0, false⟩]⟩

def countingStage : Session Unit := ⟨countingSite [60], []⟩

theorem resolve_counting :
    Target.resolve countingStage.site.disk "/a" = .ok ⟨"/a", false⟩ := by cbv

theorem execute_counting :
    ∃ events, counting.execute "/a" false countingStage =
      (.ok countingHistory.outcome, ⟨countingSite [60, 63], events⟩) := by
  have rewrote : counting.tools.rewrite "/a" false (countingSite [60]) =
      (.ok false, countingSite [60]) := rfl
  obtain ⟨events, first⟩ := pass_counting [60] [60, 63] "<" true (by simp) (by decide)
    (by decide) 1 [.rewrite "/a" false (.ok false)]
  have again := pass_counting [60, 63] [60, 63] "<?" false (by simp) (by decide)
    (by decide)
  obtain ⟨events', second⟩ := again 2 events
  obtain ⟨events'', third⟩ := again 3 events'
  have budget : counting.maxIterations.toNat = 3 := rfl
  have passed : counting.passes ⟨"/a", false⟩ false false .empty 3
      ⟨countingSite [60], [.rewrite "/a" false (.ok false)]⟩ =
      (.ok countingHistory, ⟨countingSite [60, 63], events''⟩) :=
    (bind_of_ok first).trans ((bind_of_ok second).trans (bind_of_ok third))
  refine ⟨events'', ?_⟩
  rw [execute, bind_of_ok (locate_of_resolved resolve_counting), countingStage,
    bind_of_ok (within_call rewrote _ _), budget]
  exact bind_of_ok passed

/-- Only the run writes to the file of these collaborators. -/
theorem steady_counting :
    counting.Steady ⟨"/a", false⟩ (fun d => ∃ data, counting.Guards "/a" ["a"] data d)
      (·.fileAt? ["a"]) false :=
  steady_of_spares rfl (fun _ => ⟨fun _ => id, fun _ => id, fun _ => id, fun _ _ _ => id⟩)
    fun _ _ => id

theorem settled_counting :
    counting.Settled ⟨"/a", false⟩ (fun d => ∃ data, counting.Guards "/a" ["a"] data d)
      (·.fileAt? ["a"]) := by
  have read_eq (d d' : Disk) (guarded : ∃ data, counting.Guards "/a" ["a"] data d)
      (guarded' : ∃ data, counting.Guards "/a" ["a"] data d')
      (same : d.fileAt? ["a"] = d'.fileAt? ["a"]) : d.read "/a" = d'.read "/a" := by
    obtain ⟨data, guards⟩ := guarded
    obtain ⟨data', guards'⟩ := guarded'
    have held : some data = some data' :=
      guards.fileAt?_eq.symm.trans (same.trans guards'.fileAt?_eq)
    rw [guards.read, guards'.read, Option.some.inj held]
  constructor
  · intro d d' guarded guarded' same
    exact read_congr rfl _ (read_eq d d' guarded guarded' same)
  · intro a a' guarded guarded' same
    simp only [counting, read_eq a.disk a'.disk guarded guarded' same]
  · intros
    rfl
  · intros
    rfl

/-- The second pass on one byte applies nothing, and the third finds what it found. -/
theorem execute_stalls_counting :
    ∃ t, counting.execute "/a" false countingStage = (.ok countingHistory.outcome, t) ∧
      countingHistory.outcome.history[1]? = some ⟨2, false, 2, 0, false⟩ ∧
      (∀ i later, 1 ≤ i → countingHistory.outcome.history[i]? = some later →
        later.staticErrors = 2 ∧ later.testFailures = 0 ∧ later.fixApplied = false) ∧
      countingHistory.outcome.success = false ∧ countingHistory.outcome.iterations = 3 := by
  have start : ∃ data, counting.Guards "/a" ["a"] data countingStage.site.disk :=
    ⟨[60], ⟨false, find_countingSite [60]⟩, nofun⟩
  have at_second : countingHistory.outcome.history[1]? = some ⟨2, false, 2, 0, false⟩ := rfl
  obtain ⟨events, ran⟩ := execute_counting
  obtain ⟨repeated, failed, iterations⟩ :=
    execute_stalls settled_counting steady_counting resolve_counting start ran at_second rfl rfl
  exact ⟨_, ran, at_second, repeated, failed, iterations⟩

end File

end Mender.Repair
