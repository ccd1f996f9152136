import Mender.Proofs.Disk.Alike
import Mender.Proofs.Repair.Course

/-!
# Runs that keep to their target

If the tools answer by the target and its content and touch nothing else, and the oracle
answers by what it is asked, then the same holds of a whole run without an audit trail: its
answer and what it leaves in the target are functions of what the target held.
-/

namespace Mender

/-- Calls on a path that leads to a file, or to where there may be one, answer by the path, the
content and what keeps it from being changed, and change nothing but this content. -/
def Effect.Local {σ α : Type} (call : Path → Effect σ α) : Prop :=
  ∃ (answer : Path → Option Fault → Option Bytes → Except Failure α)
    (content : Path → Option Fault → Option Bytes → Option Bytes),
    ∀ path l (a : Site σ), a.disk.Houses path l →
      (call path a).1 = answer path (a.disk.fault? l) (a.disk.fileAt? l) ∧
        a.disk.Touches l (call path a).2.disk ∧
        (call path a).2.disk.fileAt? l = content path (a.disk.fault? l) (a.disk.fileAt? l)

/-- An oracle that answers by what it is asked, and changes nothing. -/
def Oracle.Functional {σ : Type} (oracle : Oracle σ) : Prop :=
  ∃ answer : String → String → Fix, ∀ prompt current (a : Site σ),
    (oracle.ask prompt current a).1 = answer prompt current ∧
      (oracle.ask prompt current a).2.disk = a.disk

namespace Run

variable {σ α β : Type} {path : Path} {l : Location}

/-- The part of a run goes by what the file at the place holds and what keeps it from being
changed, and touches nothing else. -/
def Confined (path : Path) (l : Location) (part : Run σ α) : Prop :=
  ∃ (answer : Option Fault → Option Bytes → Except Failure α)
    (content : Option Fault → Option Bytes → Option Bytes),
    ∀ s : Session σ, s.site.disk.Houses path l →
      (part s).1 = answer (s.site.disk.fault? l) (s.site.disk.fileAt? l) ∧
        s.site.disk.Touches l (part s).2.site.disk ∧
        (part s).2.site.disk.fileAt? l =
          content (s.site.disk.fault? l) (s.site.disk.fileAt? l)

theorem confined_pure (a : α) : Confined path l (pure a : Run σ α) :=
  ⟨fun _ _ => .ok a, fun _ held => held, fun _ housed => ⟨rfl, .refl housed.loose, rfl⟩⟩

theorem Confined.bind {x : Run σ α} {f : α → Run σ β} (first : Confined path l x)
    (then_ : ∀ a, Confined path l (f a)) : Confined path l (x >>= f) := by
  obtain ⟨answer, content, first⟩ := first
  choose answers contents then_ using then_
  refine ⟨fun fault? held => match answer fault? held with
      | .ok a => answers a fault? (content fault? held)
      | .error failure => .error failure,
    fun fault? held => match answer fault? held with
      | .ok a => contents a fault? (content fault? held)
      | .error _ => content fault? held, fun s housed => ?_⟩
  obtain ⟨answered, touches, left⟩ := first s housed
  dsimp only
  rw [← answered]
  rcases ran : x s with ⟨failure | a, t⟩
  · rw [ran] at touches left
    rw [bind_of_error ran]
    exact ⟨rfl, touches, left⟩
  · rw [ran] at touches left
    have same_fault : t.site.disk.fault? l = s.site.disk.fault? l :=
      congrArg (List.lookup l) touches.faults_eq
    rw [bind_of_ok ran, ← left, ← same_fault]
    obtain ⟨answered', touches', left'⟩ := then_ a t (touches.houses housed)
    exact ⟨answered', touches.trans touches', left'⟩

theorem Confined.within {part : Run σ α} (h : Confined path l part) (doing : String) :
    Confined path l (part.within doing) := by
  obtain ⟨answer, content, h⟩ := h
  refine ⟨fun fault? held => (answer fault? held).mapError (Failure.within doing), content,
    fun s housed => ?_⟩
  obtain ⟨answered, touches, left⟩ := h s housed
  exact ⟨congrArg (Except.mapError (Failure.within doing)) answered, touches, left⟩

theorem confined_call {call : Path → Effect σ α} (localized : Effect.Local call)
    (event : Except Failure α → Event) : Confined path l (Run.call event (call path)) := by
  obtain ⟨answer, content, localized⟩ := localized
  exact ⟨answer path, content path, fun s housed => localized path l s.site housed⟩

theorem confined_ask {oracle : Oracle σ} (functional : oracle.Functional)
    (prompt current : String) : Confined path l (Run.ask oracle prompt current) := by
  obtain ⟨answer, functional⟩ := functional
  refine ⟨fun _ _ => .ok (answer prompt current), fun _ held => held, fun s housed => ?_⟩
  obtain ⟨answered, same⟩ := functional prompt current s.site
  have unchanged : (Run.ask oracle prompt current s).2.site.disk = s.site.disk := same
  rw [unchanged]
  exact ⟨congrArg Except.ok answered, .refl housed.loose, rfl⟩

/-- Work goes on from the content of the target. -/
theorem confined_reading {language : Language} {work : String → Run σ α}
    (each : ∀ text, Confined path l (work text)) :
    Confined path l (do work (Target.read (← Run.disk) language ⟨path, false⟩)) := by
  choose answers contents each using each
  let text (held : Option Bytes) := (held.bind Utf8.decode?).getD ""
  refine ⟨fun fault? held => answers (text held) fault? held,
    fun fault? held => contents (text held) fault? held, fun s housed => ?_⟩
  rw [bind_of_ok (x := Run.disk) (a := s.site.disk) (t := s) rfl]
  have reads : Target.read s.site.disk language ⟨path, false⟩ = text (s.site.disk.fileAt? l) :=
    congrArg (Option.getD · "") housed.readText
  rw [reads]
  exact each _ s housed

theorem confined_write (content : String) (event : Except Failure Unit → Event) :
    Confined path l
      (Run.call event (Effect.ofFiling ((Target.mk path false).write content)) : Run σ Unit) := by
  let failed := fun e => (Failure.ofCause (.system e)).within ("write " ++ path.shown)
  let data := Utf8.encode content
  refine ⟨fun fault? held => (Disk.renewed fault? held data).1.mapError failed,
    fun fault? held => (Disk.renewed fault? held data).2, fun s housed => ?_⟩
  obtain ⟨d, replaced, touches, left⟩ := housed.replace data
  have written := Filing.writeText_apply ("write " ++ path.shown) path content s.site.disk
  rw [replaced] at written
  have wrote : (Target.mk path false).write content s.site.disk = _ := written
  simp only [Run.call, Effect.ofFiling, wrote]
  exact ⟨rfl, touches, left⟩

end Run

namespace Repair

open Run

variable {σ : Type} {r : Repair σ} {path : Path} {l : Location} {dryRun : Bool}

/-- A run whose tools keep to their target and whose oracle is a function, without an audit
trail. -/
structure Local (r : Repair σ) (dryRun : Bool) : Prop where
  rewrite : Effect.Local fun path => r.tools.rewrite path dryRun
  analyze : Effect.Local r.tools.analyze
  test : Effect.Local r.tools.test
  functional : r.oracle.Functional
  unaudited : r.auditDir? = none

theorem confined_inspect (localized : r.Local dryRun) :
    Confined path l (r.inspect ⟨path, false⟩) := by
  unfold inspect
  apply ((confined_call localized.analyze _).within _).bind
  intro staticErrors
  apply ((confined_call localized.test _).within _).bind
  intro testFailures
  exact confined_pure _

/-- What an attempt does once the target has been read. -/
def respond (r : Repair σ) (target : Target) (snapshot : Snapshot) (current : String) :
    Run σ Attempt := do
  let prompt := Prompt.build r.language current snapshot
  let fix ← Run.ask r.oracle prompt current
  match replacement? fix current with
  | none => return { prompt, fix, written := false }
  | some content =>
    Run.call (.write target.path content) (Effect.ofFiling (target.write content))
    return { prompt, fix, written := true }

theorem attempt_eq_respond (r : Repair σ) (target : Target) (snapshot : Snapshot) :
    r.attempt target snapshot =
      (do r.respond target snapshot (target.read (← Run.disk) r.language)) := rfl

theorem confined_attempt (localized : r.Local dryRun) (snapshot : Snapshot) :
    Confined path l (r.attempt ⟨path, false⟩ snapshot) := by
  rw [attempt_eq_respond]
  apply confined_reading
  intro current
  unfold respond
  apply (confined_ask localized.functional _ _).bind
  intro fix
  split
  · exact confined_pure _
  · apply (confined_write _ _).bind
    intro _
    exact confined_pure _

theorem confined_pass (localized : r.Local dryRun) (rewritten : Bool) (index : Nat) :
    Confined path l (r.pass ⟨path, false⟩ dryRun rewritten index) := by
  unfold pass audit
  rw [localized.unaudited]
  apply (confined_inspect localized).bind
  intro snapshot
  dsimp only
  -- a dry run, and one that found nothing, attempts nothing
  split
  · exact (confined_pure none).bind fun _ => (confined_pure ()).bind fun _ => confined_pure _
  · exact ((confined_attempt localized snapshot).bind fun _ => confined_pure _).bind fun _ =>
      (confined_pure ()).bind fun _ => confined_pure _

theorem confined_passes (localized : r.Local dryRun) (rewritten : Bool) (history : History)
    (budget : Nat) : Confined path l (r.passes ⟨path, false⟩ dryRun rewritten history budget) := by
  induction budget generalizing history with
  | zero => exact confined_pure history
  | succ budget ih =>
    rw [passes]
    apply (confined_pass localized rewritten _).bind
    rintro ⟨record, verdict⟩
    cases verdict with
    | success => exact confined_pure _
    | repair => exact ih _

/-- What a run does once it has found its target. -/
def proceed (r : Repair σ) (target : Target) (dryRun : Bool) : Run σ Outcome := do
  let rewritten ←
    (Run.call (.rewrite target.path dryRun) (r.tools.rewrite target.path dryRun)).within
      "deterministic pass"
  let history ← r.passes target dryRun rewritten .empty r.maxIterations.toNat
  r.finish history

theorem execute_of_resolved {target : Target} {s : Session σ}
    (found : Target.resolve s.site.disk path = .ok target) (dryRun : Bool) :
    r.execute path dryRun s = r.proceed target dryRun s :=
  bind_of_ok (locate_of_resolved found)

/-- A run keeps to its target if its parts do. -/
theorem confined_proceed (localized : r.Local dryRun) :
    Confined path l (r.proceed ⟨path, false⟩ dryRun) := by
  unfold proceed finish
  rw [localized.unaudited]
  apply ((confined_call localized.rewrite _).within _).bind
  intro rewritten
  apply (confined_passes localized rewritten _ _).bind
  intro history
  exact confined_pure _

end Repair

end Mender
