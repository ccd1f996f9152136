import Mender.Proofs.Cli.Exit
import Mender.Proofs.Project

/-!
# Commands and what they report

A command first gets everything ready, in a fixed order, and fails with the first thing that
is wrong; only then it works. `TargetCourse` and `WorklistCourse` say how its answer comes
about. `perform_agrees` says that the exit of a command tells about this answer.
-/

namespace Mender

namespace Settings

theorem validate_of_load {disk : Disk} {path : Path} {s : Settings}
    (h : load disk path = .ok s) : s.validate = .ok () := by
  unfold load at h
  split at h
  · cases h
    rfl
  · cases read : disk.readText path with
    | error cause =>
      rw [read] at h
      cases h
    | ok text =>
      rw [read] at h
      cases found : ofText? text with
      | none =>
        simp only [found] at h
        cases h
      | some settings =>
        simp only [found] at h
        cases valid : settings.validate with
        | error failure =>
          rw [valid] at h
          cases h
        | ok =>
          rw [valid] at h
          cases h
          exact valid

/-- Valid settings allow a pass at least. -/
theorem one_le_of_validate {s : Settings} (valid : s.validate = .ok ()) :
    1 ≤ s.maxIterations.toNat := by
  by_contra none
  have zero : s.maxIterations = 0 := UInt32.toNat_inj.mp (by simpa using none)
  have refused : firstFault? s.faults = some "max_iterations must be > 0" := by
    simp [firstFault?, faults, zero]
  rw [validate, refused] at valid
  cases valid

end Settings

namespace Repair

variable {σ : Type} {r : Repair σ}

/-- The findings of each call can be counted in a word of 64 bits. -/
def Countable (r : Repair σ) : Prop :=
  ∀ target a found b, r.tools.analyze target a = (.ok found, b) ∨
    r.tools.test target a = (.ok found, b) → found.length < UInt64.size

theorem PassCourse.inspects {target : Target} {dryRun : Bool} {a b : Site σ} {calls : List Event}
    {snapshot : Snapshot} {attempt? : Option Attempt}
    (h : r.PassCourse target dryRun a calls b (.ok (snapshot, attempt?))) :
    ∃ c, r.Inspects target a snapshot c := by
  cases h with
  | idle inspected => exact ⟨_, inspected⟩
  | tried inspected => exact ⟨_, inspected⟩

theorem exists_fitting_of_execute (countable : r.Countable) {path : Path} {dryRun : Bool}
    {s t : Session σ} {outcome : Outcome} (h : r.execute path dryRun s = (.ok outcome, t)) :
    ∃ history : History, outcome = history.outcome ∧ ∀ pass ∈ history.passes, pass.Fits := by
  obtain ⟨target, calls, rounds, course, -⟩ := course_of_execute h
  have counts : ∀ pass ∈ rounds.map (·.record),
      pass.staticErrors < UInt64.size ∧ pass.testFailures < UInt64.size := by
    intro pass mem
    obtain ⟨round, inside, rfl⟩ := List.mem_map.mp mem
    obtain ⟨i, rewritten, c, passed, record⟩ := course.completed inside
    obtain ⟨d, e, analyzed, tested⟩ := passed.inspects
    rw [record]
    exact ⟨countable _ _ _ _ (.inl analyzed), countable _ _ _ _ (.inr tested)⟩
  cases course with
  | finished _ course filed => exact ⟨_, outcome_of_finish (filed []), course.fits counts⟩

end Repair

theorem Project.countable_toolchain {σ : Type} {machine : Machine σ} {p : Project} {r : Repair σ}
    (uses : r.tools = p.toolchain machine) (limit : p.outputLimit < UInt64.size) :
    r.Countable := by
  intro target a found b answered
  rw [uses] at answered
  have few : found.length ≤ max 1 p.outputLimit := by
    rcases answered with analyzed | tested
    · exact (length_analyze_le analyzed).trans (Nat.le_max_right _ _)
    · exact length_test_le tested
  have one : 1 < UInt64.size := by decide
  omega

namespace Cli

open scoped Mender.Path

variable {σ : Type} (s : Surroundings σ)

section Preparing

variable (options : ProjectOptions) (disk : Disk)

/-- Where the project is, as it was named. -/
def rootOf : Except Failure Path := (options.root?.map .ok).getD (here disk)

/-- Where the settings of the project at a root are. -/
def configOf (root : Path) : Path :=
  options.config?.getD (root.join (.ofText Settings.fileName))

/-- How the root of a project and its settings are found. -/
inductive Loaded : Except Failure (Path × Settings) → Prop
  | unplaced {failure} (gone : rootOf options disk = .error failure) : Loaded (.error failure)
  | unread {root failure} (placed : rootOf options disk = .ok root)
      (refused : Settings.load disk (configOf options root) = .error failure) :
      Loaded (.error failure)
  | astray {root settings failure} (placed : rootOf options disk = .ok root)
      (read : Settings.load disk (configOf options root) = .ok settings)
      (gone : absolute disk root = .error failure) : Loaded (.error failure)
  | found {root settings place} (placed : rootOf options disk = .ok root)
      (read : Settings.load disk (configOf options root) = .ok settings)
      (there : absolute disk root = .ok place) : Loaded (.ok (place, settings))

variable (root : Path) (settings : Settings)

/-- What keeps a command from working with settings: there is no service to ask, or a tool
is not there. -/
inductive Unprepared : Failure → Prop
  | keyless {failure} (refused : chooseOracle s options.dryRun settings = .error failure) :
    Unprepared failure
  | toolless {oracle failure} (chosen : chooseOracle s options.dryRun settings = .ok oracle)
      (missing : (Project.ofSettings root settings).ready disk = .error failure) :
    Unprepared failure

/-- What a command works with: the tools of the project, the oracle of the surroundings and
the limits of the settings. -/
structure Prepared (repair : Repair σ) : Prop where
  chosen : chooseOracle s options.dryRun settings = .ok repair.oracle
  ready : repair.tools.ready disk = .ok ()
  tools_eq : repair.tools = (Project.ofSettings root settings).toolchain s.machine
  maxIterations_eq : repair.maxIterations = settings.maxIterations
  language_eq : repair.language = settings.language
  auditDir_eq : repair.auditDir? = settings.auditDir?.map .ofText

end Preparing

/-- How the answer for a target comes about. Whatever is wrong before the loop is reported
before anything is changed. -/
inductive TargetCourse (options : RunOptions) (session : Session σ) :
    Except Failure Outcome → Session σ → Prop
  | unloaded {failure} (loaded : Loaded options.project session.site.disk (.error failure)) :
      TargetCourse options session (.error failure) session
  | unusable {root settings failure}
      (loaded : Loaded options.project session.site.disk (.ok (root, settings)))
      (refused : (override options settings).validate = .error failure) :
      TargetCourse options session (.error failure) session
  | unprepared {root settings failure}
      (loaded : Loaded options.project session.site.disk (.ok (root, settings)))
      (valid : (override options settings).validate = .ok ())
      (refused : Unprepared s options.project session.site.disk root (override options settings)
        failure) :
      TargetCourse options session (.error failure) session
  | looped {root settings repair auditDir? answer after}
      (loaded : Loaded options.project session.site.disk (.ok (root, settings)))
      (prepared : Prepared s options.project session.site.disk root (override options settings)
        repair)
      (limit : repair.maxIterations = options.maxIterations?.getD settings.maxIterations)
      (some_pass : 1 ≤ repair.maxIterations.toNat)
      (trail : auditDir? = match options.auditDir? with
        | some dir => some dir
        | none => settings.auditDir?.map .ofText)
      (ran : { repair with auditDir? }.execute options.target options.project.dryRun session =
        (answer, after))
      (accounted : ∀ outcome, answer = .ok outcome → ∃ calls,
        after.events = session.events ++ calls ∧
          outcome.Accounts repair.maxIterations.toNat calls) :
      TargetCourse options session answer after

/-- How the answer for a worklist comes about. -/
inductive WorklistCourse (options : BatchOptions) (session : Session σ) :
    Except Failure Batch.Summary → Session σ → Prop
  | unloaded {failure} (loaded : Loaded options.project session.site.disk (.error failure)) :
      WorklistCourse options session (.error failure) session
  | unlisted {root settings failure}
      (loaded : Loaded options.project session.site.disk (.ok (root, settings)))
      (refused : Worklist.load session.site.disk options.worklist = .error failure) :
      WorklistCourse options session (.error failure) session
  | unprepared {root settings items failure}
      (loaded : Loaded options.project session.site.disk (.ok (root, settings)))
      (listed : Worklist.load session.site.disk options.worklist = .ok items)
      (refused : Unprepared s options.project session.site.disk root settings failure) :
      WorklistCourse options session (.error failure) session
  | batched {root settings items repair summary after}
      (loaded : Loaded options.project session.site.disk (.ok (root, settings)))
      (listed : Worklist.load session.site.disk options.worklist = .ok items)
      (prepared : Prepared s options.project session.site.disk root settings repair)
      (some_pass : 1 ≤ repair.maxIterations.toNat)
      (ran : Batch.run repair s.wording options.project.dryRun
        (Worklist.plan items options.maxItems?) session = (summary, after)) :
      WorklistCourse options session (.ok summary) after

variable {s}

theorem ofExcept_apply {α : Type} (answer : Except Failure α) (session : Session σ) :
    (MonadExcept.ofExcept answer : Run σ α) session = (answer, session) := by
  cases answer <;> rfl

theorem disk_apply (session : Session σ) :
    (Run.disk : Run σ Disk) session = (.ok session.site.disk, session) := rfl

section Loading

variable {options : ProjectOptions} {disk : Disk}

/-- A project is loaded in one way. -/
theorem Loaded.unique {answer answer' : Except Failure (Path × Settings)}
    (h : Loaded options disk answer) (h' : Loaded options disk answer') : answer = answer' := by
  cases h <;> cases h' <;> simp_all only [Except.ok.injEq, Except.error.injEq, reduceCtorEq]

theorem Loaded.valid {place : Path} {settings : Settings}
    (h : Loaded options disk (.ok (place, settings))) : settings.validate = .ok () := by
  cases h with
  | found _ read => exact Settings.validate_of_load read

theorem loadProject_of_placed {session : Session σ} {root : Path}
    (placed : rootOf options session.site.disk = .ok root) :
    loadProject options session =
      (do
        let settings ← MonadExcept.ofExcept
          (Settings.load session.site.disk (configOf options root))
        let place ← MonadExcept.ofExcept (absolute session.site.disk root)
        return (place, settings) : Run σ (Path × Settings)) session := by
  unfold loadProject
  rw [bind_of_ok (disk_apply session)]
  exact bind_of_ok ((ofExcept_apply _ _).trans (congrArg (·, session) placed))

/-- Loading a project changes nothing, and answers as `Loaded` says. -/
theorem loadProject_course (options : ProjectOptions) (session : Session σ) :
    ∃ answer, Loaded options session.site.disk answer ∧
      loadProject options session = (answer, session) := by
  cases placed : rootOf options session.site.disk with
  | error failure =>
    refine ⟨_, .unplaced placed, ?_⟩
    unfold loadProject
    rw [bind_of_ok (disk_apply session)]
    exact bind_of_error ((ofExcept_apply _ _).trans (congrArg (·, session) placed))
  | ok root =>
    rw [loadProject_of_placed placed]
    cases read : Settings.load session.site.disk (configOf options root) with
    | error failure => exact ⟨_, .unread placed read, bind_of_error (ofExcept_apply _ _)⟩
    | ok settings =>
      rw [bind_of_ok (ofExcept_apply _ _)]
      cases there : absolute session.site.disk root with
      | error failure =>
        exact ⟨_, .astray placed read there, bind_of_error (ofExcept_apply _ _)⟩
      | ok place =>
        exact ⟨_, .found placed read there, (bind_of_ok (ofExcept_apply _ _)).trans rfl⟩

theorem loadProject_of_loaded {session : Session σ} {answer : Except Failure (Path × Settings)}
    (h : Loaded options session.site.disk answer) :
    loadProject options session = (answer, session) := by
  obtain ⟨answer', loaded, ran⟩ := loadProject_course options session
  rw [ran, loaded.unique h]

end Loading

/-- Getting ready changes nothing, and fails only for what `Unprepared` names. -/
theorem prepare_cases (options : ProjectOptions) (root : Path) (settings : Settings)
    (session : Session σ) :
    (∃ failure, Unprepared s options session.site.disk root settings failure ∧
      prepare s root options.dryRun settings session = (.error failure, session)) ∨
    ∃ repair, Prepared s options session.site.disk root settings repair ∧
      prepare s root options.dryRun settings session = (.ok repair, session) := by
  unfold prepare
  cases chosen : chooseOracle s options.dryRun settings with
  | error failure => exact .inl ⟨failure, .keyless chosen, bind_of_error (ofExcept_apply _ _)⟩
  | ok oracle =>
    rw [bind_of_ok (ofExcept_apply _ _)]
    rw [bind_of_ok (disk_apply session)]
    cases ready : (Project.ofSettings root settings).ready session.site.disk with
    | error failure =>
      exact .inl ⟨failure, .toolless chosen ready, bind_of_error (ofExcept_apply _ _)⟩
    | ok =>
      exact .inr ⟨_, ⟨chosen, ready, rfl, rfl, rfl, rfl⟩,
        (bind_of_ok (ofExcept_apply _ _)).trans rfl⟩

/-- The answer for a target comes about as its course says. -/
theorem repairTarget_course (options : RunOptions) (session : Session σ) :
    ∃ answer after, TargetCourse s options session answer after ∧
      repairTarget s options session = (answer, after) := by
  unfold repairTarget
  obtain ⟨answer, loaded, load⟩ := loadProject_course options.project session
  cases answer with
  | error failure => exact ⟨_, _, .unloaded loaded, bind_of_error load⟩
  | ok project =>
    obtain ⟨root, settings⟩ := project
    rw [bind_of_ok load]
    dsimp only
    cases valid : (override options settings).validate with
    | error failure =>
      exact ⟨_, _, .unusable loaded valid, bind_of_error (ofExcept_apply _ _)⟩
    | ok =>
      rw [bind_of_ok (ofExcept_apply _ _)]
      rcases prepare_cases (s := s) options.project root (override options settings) session with
        ⟨failure, refused, prepared⟩ | ⟨repair, parts, prepared⟩
      · exact ⟨_, _, .unprepared loaded valid refused, bind_of_error prepared⟩
      · refine ⟨_, _, .looped loaded parts parts.maxIterations_eq ?_ ?_ (Prod.mk.eta).symm ?_,
          bind_of_ok prepared⟩
        · rw [parts.maxIterations_eq]
          exact Settings.one_le_of_validate valid
        · rw [parts.auditDir_eq]
          cases options.auditDir? <;> rfl
        · intro outcome ended
          obtain ⟨target, calls, rounds, course, events⟩ :=
            Repair.course_of_execute (Prod.ext ended rfl)
          exact ⟨calls, events, course.accounts⟩

/-- The answer for a worklist comes about as its course says. -/
theorem repairWorklist_course (options : BatchOptions) (session : Session σ) :
    ∃ answer after, WorklistCourse s options session answer after ∧
      repairWorklist s options session = (answer, after) := by
  unfold repairWorklist
  obtain ⟨answer, loaded, load⟩ := loadProject_course options.project session
  cases answer with
  | error failure => exact ⟨_, _, .unloaded loaded, bind_of_error load⟩
  | ok project =>
    obtain ⟨root, settings⟩ := project
    rw [bind_of_ok load]
    dsimp only
    rw [bind_of_ok (disk_apply session)]
    cases listed : Worklist.load session.site.disk options.worklist with
    | error failure =>
      exact ⟨_, _, .unlisted loaded listed, bind_of_error (ofExcept_apply _ _)⟩
    | ok items =>
      rw [bind_of_ok (ofExcept_apply _ _)]
      rcases prepare_cases (s := s) options.project root settings session with
        ⟨failure, refused, prepared⟩ | ⟨repair, parts, prepared⟩
      · exact ⟨_, _, .unprepared loaded listed refused, bind_of_error prepared⟩
      · refine ⟨_, _, .batched loaded listed parts ?_ (Prod.mk.eta).symm,
          (bind_of_ok prepared).trans rfl⟩
        rw [parts.maxIterations_eq]
        exact Settings.one_le_of_validate loaded.valid

/-- Whatever the settings, the tools and the oracle are, the answer of a run can be told. -/
theorem TargetCourse.told {options : RunOptions} {session after : Session σ}
    {answer : Except Failure Outcome} (h : TargetCourse s options session answer after)
    {outcome : Outcome} (ended : answer = .ok outcome) :
    ∃ history : History, outcome = history.outcome ∧ ∀ pass ∈ history.passes, pass.Fits := by
  cases h with
  | unloaded | unusable | unprepared => cases ended
  | looped _ prepared _ _ _ ran =>
    rw [ended] at ran
    refine Repair.exists_fitting_of_execute ?_ ran
    exact Project.countable_toolchain prepared.tools_eq (UInt64.toNat_lt _)

/-- On every disk and with whatever tools and service, the exit code of a command, the record
that it prints and its answer agree. -/
theorem perform_agrees (s : Surroundings σ) (session : Session σ) :
    (∀ options : RunOptions, ∃ answer exit after, TargetCourse s options session answer after ∧
      perform s (.run options) session = (exit, after) ∧
        exit.TellsRun s.wording options.format answer) ∧
    ∀ options : BatchOptions, ∃ answer exit after,
      WorklistCourse s options session answer after ∧
        perform s (.batch options) session = (exit, after) ∧
          exit.TellsBatch s.times answer := by
  constructor
  · intro options
    obtain ⟨answer, after, course, ran⟩ := repairTarget_course (s := s) options session
    refine ⟨answer, runExit s.wording options.format answer, after, course, ?_,
      tellsRun_runExit s.wording options.format fun _ ended => course.told ended⟩
    exact congrArg (fun done : Except Failure Outcome × Session σ =>
      (runExit s.wording options.format done.1, done.2)) ran
  · intro options
    obtain ⟨answer, after, course, ran⟩ := repairWorklist_course (s := s) options session
    refine ⟨answer, batchExit s.wording s.times answer, after, course, ?_,
      tellsBatch_batchExit s.wording s.times answer⟩
    exact congrArg (fun done : Except Failure Batch.Summary × Session σ =>
      (batchExit s.wording s.times done.1, done.2)) ran

/-- No program ever ends, nobody can be reached, and nobody says what is wrong with a text. -/
def adrift : Surroundings Unit where
  machine := ⟨fun _ site => (.overran, site)⟩
  carrier := .unreachable
  engine := .standard
  env := []
  wording := fun _ _ => ""
  times := ⟨fun _ => 0, 0⟩

/-- The settings of a project allow no pass, and the command line allows one. -/
def passless : Session Unit :=
  ⟨⟨⟨[(["c"], .file (Utf8.encode "max_iterations = 0\n") false)], [], []⟩, ()⟩, []⟩

@[inherit_doc passless]
def onePass : RunOptions := ⟨"/a", ⟨some "/", some "/c", true⟩, .json, some 1, none⟩

theorem load_passless : Settings.load passless.site.disk "/c" =
    .error (.ofCause (.invalidConfig "max_iterations must be > 0")) := by
  have found : passless.site.disk.pathExists "/c" = true := by cbv
  have read : passless.site.disk.readText "/c" = .ok "max_iterations = 0\n" := by cbv
  have said : Toml.ofText? "max_iterations = 0\n".toList =
      some (.table [("max_iterations", .integer 0)]) := by cbv
  have settings : Settings.ofText? "max_iterations = 0\n" =
      some { Settings.default with maxIterations := 0 } := by
    rw [Settings.ofText?, said]
    rfl
  unfold Settings.load
  rw [found, read]
  dsimp only
  rw [settings]
  rfl

/-- A project with all tools, and a worklist in a directory whose name is no text. -/
def listed : Session Unit where
  site := ⟨⟨[([⟨[0xff]⟩, "w"], .file (Utf8.encode "[[item]]\nid = \"1\"\npath = \"a\"\n") false),
    ([⟨[0xff]⟩], .directory), (["vendor", "bin", "rector"], .file [] true),
    (["vendor", "bin", "phpstan"], .file [] true), (["vendor", "bin", "pest"], .file [] true),
    (["vendor", "bin"], .directory), (["vendor"], .directory)], [], []⟩, ()⟩
  events := []

@[inherit_doc listed]
def listedBatch : BatchOptions := ⟨⟨[47, 0xff, 47, 119]⟩, ⟨some "/", none, true⟩, none, 0⟩

/-- The one item of this worklist. -/
def listedItem : WorkItem := ⟨"1", ⟨[47, 0xff, 47, 97]⟩, 0⟩

theorem load_listed :
    Worklist.load listed.site.disk listedBatch.worklist = .ok [listedItem] := by
  have read : listed.site.disk.readText listedBatch.worklist =
      .ok "[[item]]\nid = \"1\"\npath = \"a\"\n" := by cbv
  have said : Toml.ofText? "[[item]]\nid = \"1\"\npath = \"a\"\n".toList = some (.table
      [("item", .array [.table [("id", .string "1"), ("path", .string "a")]])]) := by cbv
  unfold Worklist.load
  rw [read]
  dsimp only
  rw [said]
  rfl

theorem loaded_listed : Loaded listedBatch.project listed.site.disk (.ok ("/", .default)) := by
  have placed : rootOf listedBatch.project listed.site.disk = .ok "/" := rfl
  have missing : listed.site.disk.pathExists "/repair-loop.toml" = false := by cbv
  refine .found placed ?_ rfl
  change Settings.load listed.site.disk "/repair-loop.toml" = _
  rw [Settings.load, missing]
  rfl

theorem ready_listed : (Project.ofSettings "/" .default).ready listed.site.disk = .ok () := by
  cbv

theorem repairWorklist_listed : ∃ result : ItemResult, result.success = false ∧
    result.path.text? = none ∧ (repairWorklist adrift listedBatch listed).1 = .ok ⟨[result]⟩ := by
  have lost : Target.resolve listed.site.disk listedItem.path =
      .error (.ofCause (.targetNotFound listedItem.path)) := by cbv
  obtain ⟨answer, after, course, ran⟩ := repairWorklist_course (s := adrift) listedBatch listed
  rw [ran]
  cases course with
  | unloaded loaded => cases loaded.unique loaded_listed
  | unlisted _ refused => cases load_listed.symm.trans refused
  | unprepared loaded _ refused =>
    cases loaded.unique loaded_listed
    cases refused with
    | keyless refused => cases refused
    | toolless _ missing => cases ready_listed.symm.trans missing
  | @batched _ _ _ repair _ _ _ items _ _ batch =>
    cases load_listed.symm.trans items
    have plan : Worklist.plan [listedItem] listedBatch.maxItems? = [listedItem] :=
      List.mergeSort_singleton listedItem
    rw [plan, Batch.run_cons, Repair.execute_of_unresolved lost] at batch
    cases batch
    exact ⟨_, rfl, by decide, rfl⟩

/-- A flag does not help where the settings themselves are refused, and a summary with a path that
is no text is not printed. -/
theorem perform_disagrees :
    onePass.maxIterations? = some 1 ∧
      (override onePass { Settings.default with maxIterations := 0 }).validate = .ok () ∧
      perform adrift (.run onePass) passless =
        (⟨1, printed (failureRecord "invalid config: max_iterations must be > 0"),
          "invalid config: max_iterations must be > 0\n"⟩, passless) ∧
      (∃ result, (repairWorklist adrift listedBatch listed).1 = .ok ⟨[result]⟩ ∧
        result.success = false) ∧
      (perform adrift (.batch listedBatch) listed).1 = ⟨2, "", unprintable⟩ := by
  have placed : rootOf onePass.project passless.site.disk = .ok "/" := rfl
  have unloaded : Loaded onePass.project passless.site.disk
      (.error (.ofCause (.invalidConfig "max_iterations must be > 0"))) :=
    .unread placed load_passless
  have refused : repairTarget adrift onePass passless =
      (.error (.ofCause (.invalidConfig "max_iterations must be > 0")), passless) :=
    bind_of_error (loadProject_of_loaded unloaded)
  obtain ⟨result, unsuccessful, unshown, batched⟩ := repairWorklist_listed
  refine ⟨rfl, rfl, ?_, ⟨result, batched, unsuccessful⟩, ?_⟩
  · exact congrArg (fun done : Except Failure Outcome × Session Unit =>
      (runExit adrift.wording .json done.1, done.2)) refused
  · change batchExit adrift.wording adrift.times (repairWorklist adrift listedBatch listed).1 = _
    rw [batched, batchExit, Batch.Summary.no_record _ ⟨result, List.mem_singleton_self _, unshown⟩]
    simp [Exit.ofSuccess, Exit.exhausted, Batch.Summary.allSuccessful, Batch.Summary.successes,
      Batch.Summary.total, unsuccessful]

end Cli

end Mender
