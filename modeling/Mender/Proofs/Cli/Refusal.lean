import Mender.Proofs.Cli.Agreement
import Mender.Proofs.Repair.Operational

/-!
# Runs that are refused

What is wrong with the settings, the tools or the target of a run is found before anything is
done. `repairTarget_unaided` says that a run which fails for such a reason has run no tool,
asked nobody and changed nothing, and that a run for which there is such a reason is refused.
-/

namespace Mender

namespace Settings

/-- What the file of a project says, whether or not a run can use it. A missing file says what
the defaults say. -/
def Written (disk : Disk) (path : Path) (settings : Settings) : Prop :=
  if disk.pathExists path then
    ∃ text, disk.readText path = .ok text ∧ ofText? text = some settings
  else settings = default

theorem written_of_load {disk : Disk} {path : Path} {settings : Settings}
    (loaded : load disk path = .ok settings) : Written disk path settings := by
  unfold Written
  unfold load at loaded
  by_cases found : disk.pathExists path = true
  · rw [if_pos found]
    rw [found] at loaded
    cases read : disk.readText path with
    | error cause =>
      rw [read] at loaded
      cases loaded
    | ok text =>
      rw [read] at loaded
      cases parsed : ofText? text with
      | none =>
        simp only [parsed] at loaded
        cases loaded
      | some own =>
        simp only [parsed] at loaded
        cases valid : own.validate <;> rw [valid] at loaded <;> cases loaded
        exact ⟨text, rfl, parsed⟩
  · rw [if_neg found]
    rw [Bool.not_eq_true] at found
    rw [found] at loaded
    cases loaded
    rfl

theorem Written.unique {disk : Disk} {path : Path} {settings settings' : Settings}
    (h : Written disk path settings) (h' : Written disk path settings') :
    settings = settings' := by
  unfold Written at h h'
  split at h
  · next found =>
    rw [if_pos found] at h'
    obtain ⟨text, read, parsed⟩ := h
    obtain ⟨text', read', parsed'⟩ := h'
    rw [read] at read'
    cases read'
    exact Option.some.inj (parsed.symm.trans parsed')
  · next missing =>
    rw [if_neg missing] at h'
    rw [h, h']

end Settings

namespace Cli

open scoped Mender.Path

variable {σ : Type} {s : Surroundings σ}

/-- Whatever runs programs and delivers requests, the run is refused with the failure, and the
session stays as it was, with the calls that it holds. -/
def Unaided (s : Surroundings σ) (options : RunOptions) (session : Session σ)
    (failure : Failure) : Prop :=
  ∀ machine carrier,
    repairTarget { s with machine, carrier } options session = (.error failure, session)

/-- What can be wrong about a run before anything is done. -/
inductive Misconfigured (options : RunOptions) (disk : Disk) : Prop
  /-- No settings are written that the run could use. -/
  | invalid (unusable : ∀ root settings, rootOf options.project disk = .ok root →
      Settings.Written disk (configOf options.project root) settings →
        (override options settings).validate ≠ .ok ())
  /-- A tool is not there. -/
  | toolless {root place settings tool} (placed : rootOf options.project disk = .ok root)
      (there : absolute disk root = .ok place)
      (written : Settings.Written disk (configOf options.project root) settings)
      (named : tool ∈ (Project.ofSettings place (override options settings)).namedTools)
      (missing : disk.pathExists (tool.2.binaryPath place) = false)
  | targetless (missing : disk.pathExists options.target = false)

section Preparing

variable {options : ProjectOptions} {disk : Disk} {root : Path} {settings : Settings}
  {failure : Failure} {repair : Repair σ}

/-- Whether there is an oracle is up to the environment. -/
theorem chooseOracle_elsewhere (s : Surroundings σ) (machine : Machine σ) (carrier : Carrier σ)
    (dryRun : Bool) (settings : Settings) :
    (chooseOracle { s with machine, carrier } dryRun settings).map (fun _ => ()) =
      (chooseOracle s dryRun settings).map fun _ => () := by
  cases dryRun with
  | true => rfl
  | false =>
    simp only [chooseOracle, Bool.false_eq_true, if_false]
    cases Service.ofEnvironment s.env settings.oracle settings.language <;> rfl

theorem Unprepared.elsewhere (h : Unprepared s options disk root settings failure)
    (machine : Machine σ) (carrier : Carrier σ) :
    Unprepared { s with machine, carrier } options disk root settings failure := by
  have same := chooseOracle_elsewhere s machine carrier options.dryRun settings
  cases h with
  | keyless refused =>
    rw [refused] at same
    cases chosen : chooseOracle { s with machine, carrier } options.dryRun settings with
    | ok oracle =>
      rw [chosen] at same
      cases same
    | error failure' =>
      rw [chosen] at same
      cases same
      exact .keyless chosen
  | toolless chosen missing =>
    rw [chosen] at same
    cases chosen' : chooseOracle { s with machine, carrier } options.dryRun settings with
    | ok oracle => exact .toolless chosen' missing
    | error failure' =>
      rw [chosen'] at same
      cases same

theorem Prepared.not_unprepared (h : Prepared s options disk root settings repair) :
    ¬Unprepared s options disk root settings failure := by
  intro unprepared
  cases unprepared with
  | keyless refused =>
    rw [h.chosen] at refused
    cases refused
  | toolless _ missing =>
    have ready := h.ready
    rw [h.tools_eq] at ready
    have found := ready.symm.trans missing
    cases found

theorem prepare_of_unprepared {session : Session σ}
    (h : Unprepared s options session.site.disk root settings failure) :
    prepare s root options.dryRun settings session = (.error failure, session) := by
  unfold prepare
  cases h with
  | keyless refused =>
    rw [refused]
    exact bind_of_error (ofExcept_apply _ _)
  | toolless chosen missing =>
    rw [chosen, bind_of_ok (ofExcept_apply _ _), bind_of_ok (disk_apply session), missing]
    exact bind_of_error (ofExcept_apply _ _)

theorem Prepared.pathExists (h : Prepared s options disk root settings repair)
    {tool : String × ToolSpec} (named : tool ∈ (Project.ofSettings root settings).namedTools) :
    disk.pathExists (tool.2.binaryPath root) = true := by
  have ready := h.ready
  rw [h.tools_eq] at ready
  change Project.ready _ disk = .ok () at ready
  unfold Project.ready at ready
  split at ready
  · cases ready
  · next all =>
    have found := List.find?_eq_none.mp all tool named
    rw [Bool.not_eq_true, Bool.not_eq_false'] at found
    exact found

end Preparing

/-- What is executed where the command line may name another audit directory. -/
def audited (options : RunOptions) (repair : Repair σ) : Repair σ :=
  { repair with auditDir? := options.auditDir? <|> repair.auditDir? }

variable (s) in
/-- A run that gets as far as its target: nothing is wrong about it. -/
structure Started (options : RunOptions) (session : Session σ) (root : Path) (settings : Settings)
    (repair : Repair σ) (target : Target) : Prop where
  loaded : Loaded options.project session.site.disk (.ok (root, settings))
  valid : (override options settings).validate = .ok ()
  prepared : Prepared s options.project session.site.disk root (override options settings) repair
  resolved : Target.resolve session.site.disk options.target = .ok target
  ran : repairTarget s options session =
    (audited options repair).execute options.target options.project.dryRun session

section Stages

variable {options : RunOptions} {session : Session σ} {root : Path} {settings : Settings}

theorem repairTarget_of_invalid {failure : Failure} (s : Surroundings σ)
    (loaded : Loaded options.project session.site.disk (.ok (root, settings)))
    (invalid : (override options settings).validate = .error failure) :
    repairTarget s options session = (.error failure, session) := by
  rw [repairTarget, bind_of_ok (loadProject_of_loaded loaded)]
  dsimp only
  rw [invalid]
  exact bind_of_error (ofExcept_apply _ _)

theorem repairTarget_of_valid (s : Surroundings σ)
    (loaded : Loaded options.project session.site.disk (.ok (root, settings)))
    (valid : (override options settings).validate = .ok ()) :
    repairTarget s options session =
      (prepare s root options.project.dryRun (override options settings) >>= fun repair =>
        (audited options repair).execute options.target options.project.dryRun) session := by
  rw [repairTarget, bind_of_ok (loadProject_of_loaded loaded)]
  dsimp only
  rw [valid]
  exact bind_of_ok (ofExcept_apply _ _)

/-- A target that is not found is not found with other programs either. -/
theorem unaided_of_unresolved {failure : Failure} {repair : Repair σ}
    (loaded : Loaded options.project session.site.disk (.ok (root, settings)))
    (valid : (override options settings).validate = .ok ())
    (prepared : Prepared s options.project session.site.disk root (override options settings)
      repair)
    (unresolved : Target.resolve session.site.disk options.target = .error failure) :
    Unaided s options session failure := by
  intro machine carrier
  rw [repairTarget_of_valid _ loaded valid]
  rcases prepare_cases (s := { s with machine, carrier }) options.project root
    (override options settings) session with ⟨own, unprepared, -⟩ | ⟨repair', -, ran⟩
  · exact absurd (unprepared.elsewhere s.machine s.carrier) prepared.not_unprepared
  · rw [bind_of_ok ran]
    exact Repair.execute_of_unresolved unresolved

end Stages

/-- A run is refused whatever the machine and the carrier are, or gets as far as its target. -/
theorem unaided_or_started (s : Surroundings σ) (options : RunOptions) (session : Session σ) :
    (∃ failure, Unaided s options session failure) ∨
      ∃ root settings repair target, Started s options session root settings repair target := by
  obtain ⟨answer, loaded, -⟩ := loadProject_course options.project session
  cases answer with
  | error failure =>
    exact .inl ⟨failure, fun _ _ => bind_of_error (loadProject_of_loaded loaded)⟩
  | ok project =>
    obtain ⟨root, settings⟩ := project
    cases valid : (override options settings).validate with
    | error failure =>
      exact .inl ⟨failure, fun _ _ => repairTarget_of_invalid _ loaded valid⟩
    | ok =>
      rcases prepare_cases (s := s) options.project root (override options settings) session with
        ⟨failure, unprepared, -⟩ | ⟨repair, prepared, ran⟩
      · refine .inl ⟨failure, fun machine carrier => ?_⟩
        rw [repairTarget_of_valid _ loaded valid]
        exact bind_of_error (prepare_of_unprepared (unprepared.elsewhere machine carrier))
      · cases resolved : Target.resolve session.site.disk options.target with
        | error failure =>
          exact .inl ⟨failure, unaided_of_unresolved loaded valid prepared resolved⟩
        | ok target =>
          exact .inr ⟨root, settings, repair, target, loaded, valid, prepared, resolved,
            (repairTarget_of_valid s loaded valid).trans (bind_of_ok ran)⟩

variable {options : RunOptions} {session : Session σ} {root : Path} {settings : Settings}
  {repair : Repair σ} {target : Target}

theorem Started.not_misconfigured (h : Started s options session root settings repair target) :
    ¬Misconfigured options session.site.disk := by
  obtain ⟨own, placed, there, written⟩ : ∃ own, rootOf options.project session.site.disk = .ok own ∧
      absolute session.site.disk own = .ok root ∧
      Settings.Written session.site.disk (configOf options.project own) settings := by
    cases h.loaded with
    | found placed read there => exact ⟨_, placed, there, Settings.written_of_load read⟩
  intro wrong
  cases wrong with
  | invalid unusable => exact unusable own settings placed written h.valid
  | toolless placed' there' written' named missing =>
    cases placed.symm.trans placed'
    cases there.symm.trans there'
    cases written'.unique written
    rw [h.prepared.pathExists named] at missing
    cases missing
  | targetless missing =>
    have resolved := h.resolved
    rw [Target.resolve, missing] at resolved
    cases resolved

/-- A run that fails for its configuration, and every run whose settings, tools or target are
not there or cannot be used, is refused before anything is done. -/
theorem repairTarget_unaided (s : Surroundings σ) (options : RunOptions) (session : Session σ) :
    ∃ answer after, repairTarget s options session = (answer, after) ∧
      perform s (.run options) session = (runExit s.wording options.format answer, after) ∧
      (∀ failure, answer = .error failure → failure.cause.isConfiguration = true →
        after = session ∧ Unaided s options session failure) ∧
      (Misconfigured options session.site.disk →
        after = session ∧ ∃ failure, answer = .error failure ∧
          Unaided s options session failure) := by
  rcases answered : repairTarget s options session with ⟨answer, after⟩
  have performed : perform s (.run options) session =
      (runExit s.wording options.format answer, after) :=
    congrArg (fun done : Except Failure Outcome × Session σ =>
      (runExit s.wording options.format done.1, done.2)) answered
  refine ⟨answer, after, rfl, performed, ?_⟩
  rcases unaided_or_started s options session with
    ⟨failure, unaided⟩ | ⟨root, settings, repair, target, started⟩
  · have refused := unaided s.machine s.carrier
    rw [answered] at refused
    cases refused
    refine ⟨?_, fun _ => ⟨rfl, failure, rfl, unaided⟩⟩
    rintro _ ⟨⟩ _
    exact ⟨rfl, unaided⟩
  · refine ⟨?_, fun wrong => absurd wrong started.not_misconfigured⟩
    rintro failure rfl configuration
    obtain ⟨calls, rounds, b, answer, course, ran⟩ :=
      Repair.execute_course (r := audited options repair) started.resolved options.project.dryRun
    rw [started.ran, ran] at answered
    cases answered
    have tools : (audited options repair).tools.Operational := by
      change repair.tools.Operational
      rw [started.prepared.tools_eq]
      exact Project.operational_toolchain s.machine _
    rw [course.operational tools] at configuration
    cases configuration

/-- A target is there, but no settings are. -/
def unsettled : Session Unit := ⟨⟨⟨[(["a"], .file [] false)], [], []⟩, ()⟩, []⟩

/-- A live run that is allowed no pass. -/
def noPasses : RunOptions := ⟨"/a", ⟨some "/", some "/c", false⟩, .json, some 0, none⟩

/-- The defaults would allow some passes, but the command line has the last word. -/
theorem repairTarget_unaided_noPasses :
    Misconfigured noPasses unsettled.site.disk ∧
      repairTarget adrift noPasses unsettled =
        (.error (.ofCause (.invalidConfig "max_iterations must be > 0")), unsettled) ∧
      Unaided adrift noPasses unsettled
        (.ofCause (.invalidConfig "max_iterations must be > 0")) := by
  have config (root : Path) : configOf noPasses.project root = "/c" := rfl
  have missing : unsettled.site.disk.pathExists "/c" = false := by cbv
  have invalid : (override noPasses .default).validate =
      .error (.ofCause (.invalidConfig "max_iterations must be > 0")) := by rfl
  have read (root : Path) :
      Settings.load unsettled.site.disk (configOf noPasses.project root) = .ok .default := by
    rw [config, Settings.load, missing]
    rfl
  have placed : rootOf noPasses.project unsettled.site.disk = .ok "/" := rfl
  have loaded : Loaded noPasses.project unsettled.site.disk (.ok ("/", .default)) :=
    .found placed (read _) rfl
  have wrong : Misconfigured noPasses unsettled.site.disk := by
    refine .invalid fun root settings _ written => ?_
    cases written.unique (Settings.written_of_load (read root))
    rw [invalid]
    intro valid
    cases valid
  have ran : repairTarget adrift noPasses unsettled =
      (.error (.ofCause (.invalidConfig "max_iterations must be > 0")), unsettled) :=
    repairTarget_of_invalid adrift loaded invalid
  obtain ⟨answer, after, answered, -, configuration, -⟩ :=
    repairTarget_unaided adrift noPasses unsettled
  rw [ran] at answered
  cases answered
  obtain ⟨-, unaided⟩ := configuration _ rfl rfl
  exact ⟨wrong, ran, unaided⟩

end Cli

end Mender
