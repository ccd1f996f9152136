import Mender.Proofs.Repair.Course

/-!
# Dry runs and the oracle

A dry run is indifferent to its oracle. To say so for oracles that remember things, a memory
is put beside that of the tools: `execute_consulting` says that a dry run with any oracle over
both memories is the run over the memory of the tools alone, and leaves the other one as it was.
-/

namespace Mender

variable {σ ω α β : Type}

/-- The session with a further memory beside its own. -/
def Session.beside (s : Session σ) (v : ω) : Session (σ × ω) :=
  ⟨⟨s.site.disk, s.site.memory, v⟩, s.events⟩

/-- The effect where a further memory lies beside its own, which it neither sees nor changes. -/
def Effect.beside (ω : Type) (effect : Effect σ α) : Effect (σ × ω) α := fun site =>
  let (result, after) := effect ⟨site.disk, site.memory.1⟩
  (result, ⟨after.disk, after.memory, site.memory.2⟩)

def Toolchain.beside (ω : Type) (tools : Toolchain σ) : Toolchain (σ × ω) where
  ready := tools.ready
  rewrite target dryRun := (tools.rewrite target dryRun).beside ω
  analyze target := (tools.analyze target).beside ω
  test target := (tools.test target).beside ω

/-- The repair with an oracle that has a memory of its own beside that of the tools. -/
def Repair.consulting (r : Repair σ) (oracle : Oracle (σ × ω)) : Repair (σ × ω) where
  tools := r.tools.beside ω
  oracle
  maxIterations := r.maxIterations
  language := r.language
  auditDir? := r.auditDir?

namespace Run

/-- The first run does what the second one does and leaves the further memory alone. -/
def Mirrors (v : ω) (wide : Run (σ × ω) α) (narrow : Run σ α) : Prop :=
  ∀ s : Session σ, wide (s.beside v) = ((narrow s).1, (narrow s).2.beside v)

variable {v : ω} {wide : Run (σ × ω) α} {narrow : Run σ α}

theorem mirrors_pure (a : α) : Mirrors v (pure a : Run (σ × ω) α) (pure a) := fun _ => rfl

theorem mirrors_throw (failure : Failure) :
    Mirrors v (throw failure : Run (σ × ω) α) (throw failure) := fun _ => rfl

theorem mirrors_disk : Mirrors (σ := σ) v Run.disk Run.disk := fun _ => rfl

theorem mirrors_call (event : Except Failure α → Event) (effect : Effect σ α) :
    Mirrors v (call event (effect.beside ω)) (call event effect) := fun _ => rfl

theorem mirrors_perform (work : Filing α) :
    Mirrors (σ := σ) v (perform (.ofFiling work)) (perform (.ofFiling work)) := fun _ => rfl

theorem Mirrors.within (h : Mirrors v wide narrow) (doing : String) :
    Mirrors v (wide.within doing) (narrow.within doing) := by
  intro s
  simp only [Run.within, h s]
  rfl

theorem Mirrors.bind {f : α → Run (σ × ω) β} {g : α → Run σ β} (h : Mirrors v wide narrow)
    (then_ : ∀ a, Mirrors v (f a) (g a)) : Mirrors v (wide >>= f) (narrow >>= g) := by
  intro s
  have first := h s
  rcases ran : narrow s with ⟨failure | a, t⟩
  · rw [ran] at first
    rw [bind_of_error ran, bind_of_error first]
  · rw [ran] at first
    rw [bind_of_ok ran, bind_of_ok first]
    exact then_ a t

end Run

namespace Repair

open Run

variable (r : Repair σ) (oracle : Oracle (σ × ω)) (v : ω)

theorem mirrors_inspect (target : Target) :
    Mirrors v ((r.consulting oracle).inspect target) (r.inspect target) := by
  refine ((mirrors_call _ _).within _).bind fun errors => ?_
  exact ((mirrors_call _ _).within _).bind fun failures => mirrors_pure _

theorem mirrors_audit (pass : Pass) (snapshot : Snapshot) (attempt? : Option Attempt) :
    Mirrors v ((r.consulting oracle).audit pass snapshot attempt?)
      (r.audit pass snapshot attempt?) := by
  have same : (r.consulting oracle).auditDir? = r.auditDir? := rfl
  unfold audit
  rw [same]
  cases r.auditDir? with
  | none => exact mirrors_pure ()
  | some dir => exact (mirrors_perform _).bind fun _ => mirrors_pure ()

/-- In a dry run no pass comes to the oracle. -/
theorem mirrors_pass (target : Target) (rewritten : Bool) (index : Nat) :
    Mirrors v ((r.consulting oracle).pass target true rewritten index)
      (r.pass target true rewritten index) := by
  refine (mirrors_inspect r oracle v target).bind fun snapshot => ?_
  simp only [Bool.or_true, if_true]
  refine (mirrors_pure none).bind fun attempt? => ?_
  exact (mirrors_audit r oracle v _ snapshot attempt?).bind fun _ => mirrors_pure _

theorem mirrors_passes (target : Target) (rewritten : Bool) (history : History) (budget : Nat) :
    Mirrors v ((r.consulting oracle).passes target true rewritten history budget)
      (r.passes target true rewritten history budget) := by
  induction budget generalizing history with
  | zero => exact mirrors_pure history
  | succ budget ih =>
    refine (mirrors_pass r oracle v target rewritten (history.length + 1)).bind ?_
    rintro ⟨record, verdict⟩
    cases verdict with
    | success => exact mirrors_pure _
    | repair => exact ih _

theorem mirrors_finish (history : History) :
    Mirrors v ((r.consulting oracle).finish history) (r.finish history) := by
  have same : (r.consulting oracle).auditDir? = r.auditDir? := rfl
  unfold finish
  rw [same]
  cases r.auditDir? with
  | none => exact mirrors_pure _
  | some dir => exact (mirrors_perform _).bind fun _ => mirrors_pure _

theorem mirrors_locate (path : Path) : Mirrors (σ := σ) v (locate path) (locate path) := by
  refine mirrors_disk.bind fun disk => ?_
  cases Target.resolve disk path with
  | ok target => exact mirrors_pure target
  | error failure => exact mirrors_throw failure

/-- A dry run with any oracle does what it does without the oracle's memory. -/
theorem execute_consulting (path : Path) (s : Session σ) :
    (r.consulting oracle).execute path true (s.beside v) =
      ((r.execute path true s).1, (r.execute path true s).2.beside v) := by
  suffices Mirrors v ((r.consulting oracle).execute path true) (r.execute path true) from this s
  refine (mirrors_locate v path).bind fun target => ?_
  refine ((mirrors_call _ _).within _).bind fun rewritten => ?_
  refine (mirrors_passes r oracle v target rewritten .empty _).bind fun history => ?_
  exact mirrors_finish r oracle v history

/-- A dry run is the same with any two oracles that remember nothing of their own. -/
theorem execute_oracle (other : Oracle σ) (path : Path) (s : Session σ) :
    ({ r with oracle := other } : Repair σ).execute path true s = r.execute path true s := by
  have through (r : Repair σ) := execute_consulting r (.disabled : Oracle (σ × Unit)) () path s
  have same := (through { r with oracle := other }).symm.trans (through r)
  obtain ⟨answer, after⟩ := Prod.mk.inj same
  refine Prod.ext answer ?_
  generalize (({ r with oracle := other } : Repair σ).execute path true s).2 = t at after
  generalize (r.execute path true s).2 = u at after
  obtain ⟨⟨disk, memory⟩, events⟩ := t
  cases after
  rfl

end Repair

end Mender
