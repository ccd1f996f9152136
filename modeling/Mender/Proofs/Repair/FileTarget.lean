import Mender.Proofs.AuditTrail
import Mender.Proofs.Repair.Applied

/-!
# Runs on a file

As long as neither the collaborators nor the audit trail touch the file, it holds
what was applied last, whatever the oracle answers, and every question is about that
content. Only a write that fails, and so ends the run, may leave something else. The invariant is
`Guards`, with the data that the calls so far leave.
-/

namespace Mender

namespace Repair

open Event

variable {σ : Type} (r : Repair σ)

/-- The collaborators of a live run keep to the fact about the disk. -/
structure Spares (path : Path) (fact : Disk → Prop) : Prop where
  rewrite : ∀ a, fact a.disk → fact (r.tools.rewrite path false a).2.disk
  analyze : ∀ a, fact a.disk → fact (r.tools.analyze path a).2.disk
  test : ∀ a, fact a.disk → fact (r.tools.test path a).2.disk
  ask : ∀ prompt current a, fact a.disk → fact (r.oracle.ask prompt current a).2.disk

/-- The audit trail of the runs, if there is one, is apart from the place. -/
def Apart (place : Location) (d : Disk) : Prop :=
  ∀ dir, r.auditDir? = some dir → AuditTrail.Apart dir place d

/-- The path leads to the file at the place, which holds the data, and the audit trail stays
away from it. -/
structure Guards (path : Path) (place : Location) (data : Bytes) (d : Disk) : Prop where
  leads : ∃ executable, d.find path = .ok (place, .file data executable)
  apart : r.Apart place d

/-- The file at the place holds the data, or there is none, and the audit trail stays away
from it. -/
structure Holds (place : Location) (data? : Option Bytes) (d : Disk) : Prop where
  fileAt?_eq : d.fileAt? place = data?
  apart : r.Apart place d

variable {r} {target : Target} {place : Location} {data : Bytes} {dryRun rewritten : Bool}
  {index budget : Nat} {a b : Site σ} {calls : List Event} {rounds : List (Round σ)}
  {snapshot : Snapshot} {stop : Option Failure}

theorem Apart.grow {d d' : Disk} (h : r.Apart place d) (grows : d.Grows d') : r.Apart place d' :=
  fun dir kept => (h dir kept).grow grows

theorem Holds.beside {data? : Option Bytes} {d d' : Disk} (h : r.Holds place data? d)
    (beside : d.GrowsBeside place d') : r.Holds place data? d' :=
  ⟨beside.fileAt?_eq.trans h.fileAt?_eq, h.apart.grow beside.grows⟩

theorem Guards.beside {path : Path} {d d' : Disk} (h : r.Guards path place data d)
    (beside : d.GrowsBeside place d') : r.Guards path place data d' := by
  obtain ⟨executable, found⟩ := h.leads
  refine ⟨Disk.find_grow beside.grows found ?_, h.apart.grow beside.grows⟩
  rw [beside.fileAt?_eq, Disk.fileAt?_of_find found]

theorem Guards.read {path : Path} {d : Disk} (h : r.Guards path place data d) :
    d.read path = .ok data := by
  obtain ⟨executable, found⟩ := h.leads
  exact Disk.read_of_find found

/-- A write changes the file and nothing else, as far as it comes. -/
theorem Guards.replace {path : Path} {d : Disk} (h : r.Guards path place data d)
    (new : Bytes) :
    ∃ held, Disk.Remains data new (d.replace path new).1 held ∧
      r.Guards path place held (d.replace path new).2 := by
  obtain ⟨executable, found⟩ := h.leads
  obtain ⟨held, remains, grows, holds⟩ := Disk.replace_of_find found new
  exact ⟨held, remains, Disk.find_grow grows found holds, h.apart.grow grows⟩

theorem beside_of_audits {record : Pass} {attempt? : Option Attempt}
    {answer : Except Failure Unit} (apart : r.Apart place a.disk)
    (audited : r.Audits record snapshot attempt? a answer b) :
    a.disk.GrowsBeside place b.disk := by
  have ran := audited []
  cases kept : r.auditDir? with
  | none =>
    simp only [audit, kept] at ran
    cases ran
    exact .refl place a.disk
  | some dir =>
    rw [audit_filing kept] at ran
    cases ran
    exact AuditTrail.beside_writePass (apart dir kept) record snapshot attempt? _ (.refl _)

theorem beside_of_finish {history : History} {answer : Except Failure Outcome}
    (apart : r.Apart place a.disk)
    (filed : ∀ events, r.finish history ⟨a, events⟩ = (answer, ⟨b, events⟩)) :
    a.disk.GrowsBeside place b.disk := by
  have ran := filed []
  cases kept : r.auditDir? with
  | none =>
    simp only [finish, kept] at ran
    cases ran
    exact .refl place a.disk
  | some dir =>
    rw [finish_filing kept] at ran
    cases ran
    exact AuditTrail.beside_writeOutcome (apart dir kept).dry history.outcome _ (.refl _)

theorem Spares.inspected {fact : Disk → Prop} (spares : r.Spares target.path fact)
    (inspected : r.Inspects target a snapshot b) (holds : fact a.disk) : fact b.disk := by
  obtain ⟨c, analyzed, tested⟩ := inspected
  have first := spares.analyze a holds
  rw [analyzed] at first
  have second := spares.test c first
  rw [tested] at second
  exact second

theorem Spares.asked {fact : Disk → Prop} (spares : r.Spares target.path fact)
    {prompt current : String} {fix : Fix} (asked : r.Asks target a snapshot prompt current fix b)
    (holds : fact a.disk) : fact b.disk := by
  have answered := spares.ask prompt current a holds
  rw [asked.answered] at answered
  exact answered

theorem read_of_guards (file : target.isDirectory = false)
    (guards : r.Guards target.path place data a.disk) :
    target.read a.disk r.language = (Utf8.decode? data).getD "" := by
  unfold Target.read Disk.readText
  rw [if_neg (by simp [file]), guards.read]
  dsimp only
  cases Utf8.decode? data <;> rfl

theorem write_of_guards {d : Disk} (file : target.isDirectory = false)
    (guards : r.Guards target.path place data d) (content : String) :
    ∃ held, Disk.Remains data (Utf8.encode content) (target.write content d).1 held ∧
      r.Guards target.path place held (target.write content d).2 := by
  obtain ⟨held, remains, after⟩ := guards.replace (Utf8.encode content)
  rw [Target.write, if_neg (by simp [file]), Filing.writeText_apply]
  exact ⟨held, remains.mapError _, after⟩

/-- An attempt asks about what the file holds. -/
theorem AttemptCourse.informed {answer : Except Failure Attempt}
    (h : r.AttemptCourse target a snapshot calls b answer) (file : target.isDirectory = false)
    (guards : r.Guards target.path place data a.disk) : Informed data calls := by
  have first {prompt current : String} {fix : Fix} {b : Site σ} {rest : List Event}
      (asked : r.Asks target a snapshot prompt current fix b)
      (silent : ∀ prompt current fix, Event.ask prompt current fix ∉ rest) :
      Informed data (.ask prompt current fix :: rest) := by
    intro i prompt' current' fix' at_i
    cases i with
    | zero =>
      cases at_i
      rw [asked.current_eq, read_of_guards file guards]
      rfl
    | succ i =>
      rw [List.getElem?_cons_succ] at at_i
      exact absurd (List.mem_of_getElem? at_i) (silent prompt' current' fix')
  cases h with
  | kept asked => exact first asked (by simp)
  | written asked | refused asked => exact first asked (by simp)

/-- After an attempt the file holds what the answer brought, or what it held before, if the write
did not fail. -/
theorem AttemptCourse.leaves {answer : Except Failure Attempt}
    (h : r.AttemptCourse target a snapshot calls b answer) (file : target.isDirectory = false)
    (spares : r.Spares target.path (r.Guards target.path place data))
    (guards : r.Guards target.path place data a.disk) :
    ∃ held, r.Guards target.path place held b.disk ∧
      Leaves data calls (answer = .error ·) held := by
  cases h with
  | kept asked nothing =>
    refine ⟨data, spares.asked asked guards, leaves_of_silent ?_ ?_⟩
    · simp [AllWritten]
    · rw [lastApplied?_ask, nothing]
  | @written b prompt current fix content disk asked replaced wrote =>
    obtain ⟨held, remains, after⟩ := write_of_guards file (spares.asked asked guards) content
    rw [wrote] at remains after
    cases remains
    refine ⟨_, after, .inl ⟨by simp [AllWritten], ?_⟩⟩
    rw [contentAfter, lastApplied?_ask_write, replaced]
    rfl
  | @refused b prompt current fix content failure disk asked replaced wrote =>
    obtain ⟨held, remains, after⟩ := write_of_guards file (spares.asked asked guards) content
    rw [wrote] at remains after
    obtain rfl := applied_of_replacement? replaced
    exact ⟨held, after, .inr ⟨failure, rfl, [], prompt, current, content, target.path, rfl,
      by simp [AllWritten], remains⟩⟩

theorem PassCourse.informed {answer : Except Failure (Snapshot × Option Attempt)}
    (h : r.PassCourse target dryRun a calls b answer) (file : target.isDirectory = false)
    (spares : r.Spares target.path (r.Guards target.path place data))
    (guards : r.Guards target.path place data a.disk) : Informed data calls := by
  cases h with
  | unanalyzed | untested | idle => exact informed_of_no_ask (by simp [inspection])
  | tried inspected _ attempted | refused inspected _ attempted =>
    refine (informed_of_no_ask no_ask_inspection).append ?_
    rw [contentAfter_of_silent silent_inspection]
    exact attempted.informed file (spares.inspected inspected guards)

theorem allWritten_inspection : AllWritten (inspection target snapshot) := by
  simp [AllWritten, inspection]

theorem PassCourse.leaves {answer : Except Failure (Snapshot × Option Attempt)}
    (h : r.PassCourse target dryRun a calls b answer) (file : target.isDirectory = false)
    (spares : r.Spares target.path (r.Guards target.path place data))
    (guards : r.Guards target.path place data a.disk) :
    ∃ held, r.Guards target.path place held b.disk ∧
      Leaves data calls (answer = .error ·) held := by
  cases h with
  | unanalyzed analyzed =>
    have after := spares.analyze a guards
    rw [analyzed] at after
    exact ⟨data, after, leaves_of_silent (by simp [AllWritten]) rfl⟩
  | @untested b _ _ _ analyzed tested =>
    have between := spares.analyze a guards
    rw [analyzed] at between
    have after := spares.test b between
    rw [tested] at after
    exact ⟨data, after, leaves_of_silent (by simp [AllWritten]) rfl⟩
  | idle inspected =>
    exact ⟨data, spares.inspected inspected guards, leaves_of_silent allWritten_inspection rfl⟩
  | tried inspected _ attempted =>
    obtain ⟨held, after, leaves⟩ :=
      attempted.leaves file spares (spares.inspected inspected guards)
    exact ⟨held, after, (leaves.mono nofun).behind allWritten_inspection silent_inspection⟩
  | refused inspected _ attempted =>
    obtain ⟨held, after, leaves⟩ :=
      attempted.leaves file spares (spares.inspected inspected guards)
    refine ⟨held, after, Leaves.behind ?_ allWritten_inspection silent_inspection⟩
    exact leaves.mono fun failure ended => congrArg Except.error (Except.error.inj ended)

/-- In a pass that got as far as its records, no write has failed. -/
theorem PassCourse.guards {attempt? : Option Attempt}
    (h : r.PassCourse target dryRun a calls b (.ok (snapshot, attempt?)))
    (file : target.isDirectory = false)
    (spares : r.Spares target.path (r.Guards target.path place data))
    (guards : r.Guards target.path place data a.disk) :
    AllWritten calls ∧ r.Guards target.path place (contentAfter data calls) b.disk := by
  obtain ⟨held, after, ⟨written, rfl⟩ | ⟨failure, ended, -⟩⟩ := h.leaves file spares guards
  · exact ⟨written, after⟩
  · cases ended

/-- The file follows the answers of the oracle through the calls, round by round. -/
structure Tracks (target : Target) (data : Bytes) (calls : List Event)
    (rounds : List (Round σ)) : Prop where
  informed : Informed data calls
  fixApplied_iff : ∀ round ∈ rounds, round.record.fixApplied = true ↔
    ∃ prompt current content, .ask prompt current (.applied content) ∈ round.calls ∧
      content.rightTrimmed ≠ current.rightTrimmed
  applied : ∀ round ∈ rounds, ∀ prompt current content,
    .ask prompt current (.applied content) ∈ round.calls →
      content.rightTrimmed ≠ current.rightTrimmed →
        round.after.disk.read target.path = .ok (Utf8.encode content)
  unapplied : ∀ round ∈ rounds, round.record.fixApplied = false →
    round.after.disk.read target.path = round.before.disk.read target.path

theorem Tracks.append {later : List Event} {rounds' : List (Round σ)}
    (h : Tracks target data calls rounds)
    (more : Tracks target (contentAfter data calls) later rounds') :
    Tracks target data (calls ++ later) (rounds ++ rounds') where
  informed := h.informed.append more.informed
  fixApplied_iff round mem := by
    rcases List.mem_append.mp mem with mem | mem
    · exact h.fixApplied_iff round mem
    · exact more.fixApplied_iff round mem
  applied round mem := by
    rcases List.mem_append.mp mem with mem | mem
    · exact h.applied round mem
    · exact more.applied round mem
  unapplied round mem := by
    rcases List.mem_append.mp mem with mem | mem
    · exact h.unapplied round mem
    · exact more.unapplied round mem

theorem tracks_of_informed (informed : Informed data calls) :
    Tracks (σ := σ) target data calls [] :=
  ⟨informed, nofun, nofun, nofun⟩

/-- A pass that was completed tracks the answer that it got. -/
theorem PassCourse.tracks {attempt? : Option Attempt} {c : Site σ}
    (h : r.PassCourse target dryRun a calls b (.ok (snapshot, attempt?)))
    (audited : r.Audits (.ofRound index rewritten snapshot attempt?) snapshot attempt? b (.ok ()) c)
    (file : target.isDirectory = false)
    (spares : r.Spares target.path (r.Guards target.path place data))
    (guards : r.Guards target.path place data a.disk) :
    Tracks target data calls
        [⟨a, calls, snapshot, attempt?, .ofRound index rewritten snapshot attempt?, c⟩] ∧
      AllWritten calls ∧ r.Guards target.path place (contentAfter data calls) c.disk := by
  obtain ⟨written, attempted⟩ := h.guards file spares guards
  have after : r.Guards target.path place (contentAfter data calls) c.disk :=
    attempted.beside (beside_of_audits attempted.apart audited)
  have applied : (Pass.ofRound index rewritten snapshot attempt?).fixApplied =
      (lastApplied? calls).isSome := h.written_eq
  refine ⟨⟨h.informed file spares guards, ?_, ?_, ?_⟩, written, after⟩
  · rintro _ (_ | ⟨_, ⟨⟩⟩)
    dsimp only
    rw [applied]
    exact isSome_lastApplied?_iff calls
  · rintro _ (_ | ⟨_, ⟨⟩⟩) prompt current content mem other
    have brought := applied?_eq_some_iff.mpr ⟨prompt, current, rfl, other⟩
    rw [contentAfter, h.lastApplied?_eq mem, ← applied?_ask prompt, brought] at after
    exact after.read
  · rintro _ (_ | ⟨_, ⟨⟩⟩) unapplied
    dsimp only at unapplied ⊢
    rw [applied, Option.isSome_eq_false_iff, Option.isNone_iff_eq_none] at unapplied
    rw [contentAfter_of_silent unapplied] at after
    rw [after.read, guards.read]

/-- Through passes that spare the file, it holds what was applied last. -/
theorem Course.tracks
    (h : r.Course target dryRun rewritten index budget a calls rounds b stop)
    (file : target.isDirectory = false)
    (spares : ∀ data, r.Spares target.path (r.Guards target.path place data))
    (guards : r.Guards target.path place data a.disk) :
    Tracks target data calls rounds ∧ ∃ held, r.Guards target.path place held b.disk ∧
      Leaves data calls (stop = some ·) held := by
  induction h generalizing data with
  | spent => exact ⟨tracks_of_informed nofun, data, guards, leaves_of_silent nofun rfl⟩
  | failed passed =>
    obtain ⟨held, after, leaves⟩ := passed.leaves file (spares data) guards
    refine ⟨tracks_of_informed (passed.informed file (spares data) guards), held, after, ?_⟩
    exact leaves.mono fun failure ended => congrArg some (Except.error.inj ended)
  | unaudited passed audited =>
    obtain ⟨written, after⟩ := passed.guards file (spares data) guards
    exact ⟨tracks_of_informed (passed.informed file (spares data) guards), _,
      after.beside (beside_of_audits after.apart audited), .inl ⟨written, rfl⟩⟩
  | gold passed audited =>
    obtain ⟨tracked, written, after⟩ := passed.tracks audited file (spares data) guards
    exact ⟨tracked, _, after, .inl ⟨written, rfl⟩⟩
  | further passed audited _ _ ih =>
    obtain ⟨first, written, between⟩ := passed.tracks audited file (spares data) guards
    obtain ⟨later, held, after, leaves⟩ := ih between
    exact ⟨first.append later, held, after, leaves.prepend written⟩

/-- Through a run that spares the file, it holds what was applied last. -/
theorem RunCourse.tracks {answer : Except Failure Outcome}
    (h : r.RunCourse target false a calls rounds b answer) (file : target.isDirectory = false)
    (spares : ∀ data, r.Spares target.path (r.Guards target.path place data))
    (guards : r.Guards target.path place data a.disk) :
    Tracks target data calls rounds ∧ ∃ held, r.Guards target.path place held b.disk ∧
      Leaves data calls (answer = .error ·) held := by
  have rewriting (answer : Except Failure Bool) :
      Tracks (σ := σ) target data [.rewrite target.path false answer] [] :=
    tracks_of_informed (informed_of_no_ask (by simp))
  have unwritten (answer : Except Failure Bool) :
      AllWritten [.rewrite target.path false answer] := by
    simp [AllWritten]
  have rewritten {b : Site σ} {answer : Except Failure Bool}
      (rewrote : r.tools.rewrite target.path false a = (answer, b)) :
      r.Guards target.path place data b.disk := by
    have after := (spares data).rewrite a guards
    rw [rewrote] at after
    exact after
  cases h with
  | unrewritten rewrote =>
    exact ⟨rewriting _, data, rewritten rewrote, leaves_of_silent (unwritten _) rfl⟩
  | stopped rewrote course =>
    obtain ⟨tracked, held, after, leaves⟩ := course.tracks file spares (rewritten rewrote)
    refine ⟨(rewriting _).append tracked, held, after, Leaves.behind ?_ (unwritten _) rfl⟩
    exact leaves.mono fun failure ended => congrArg Except.error (Option.some.inj ended)
  | finished rewrote course filed =>
    obtain ⟨tracked, held, after, leaves⟩ := course.tracks file spares (rewritten rewrote)
    have beside := beside_of_finish after.apart filed
    exact ⟨(rewriting _).append tracked, held, after.beside beside,
      (leaves.mono nofun).behind (unwritten _) rfl⟩

end Repair

end Mender
