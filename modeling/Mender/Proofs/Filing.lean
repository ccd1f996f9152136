import Mender.Filing
import Mender.Proofs.Disk.Replacing

/-!
# Filings that only add

A filing may fail at every step, and what it did before stays done. `Beside` says
that it only adds to the disk, however it ends, and leaves one file alone; it is
checked step by step.
-/

namespace Mender

section Bind

variable {ε S α β : Type} {x : ExceptT ε (StateM S) α} {f : α → ExceptT ε (StateM S) β} {s t : S}

theorem bind_of_ok {a : α} (h : x s = (.ok a, t)) : (x >>= f) s = f a t := by
  change (ExceptT.bindCont f (x s).1) (x s).2 = _
  rw [h]
  rfl

theorem bind_of_error {e : ε} (h : x s = (.error e, t)) : (x >>= f) s = (.error e, t) := by
  change (ExceptT.bindCont f (x s).1) (x s).2 = _
  rw [h]
  rfl

/-- Work in two steps has succeeded if both have. -/
theorem ok_of_bind {b : β} (h : (x >>= f) s = (.ok b, t)) :
    ∃ a u, x s = (.ok a, u) ∧ f a u = (.ok b, t) := by
  rcases ran : x s with ⟨failure | a, u⟩
  · rw [bind_of_error ran] at h
    cases h
  · rw [bind_of_ok ran] at h
    exact ⟨a, u, rfl, h⟩

end Bind

namespace Filing

theorem makeDirectories_apply (doing : String) (path : Path) (d : Disk) :
    makeDirectories doing path d =
      ((d.makeDirectories path).1.mapError fun cause => (Failure.ofCause cause).within doing,
        (d.makeDirectories path).2) := by
  unfold makeDirectories
  refine (bind_of_ok (a := d) (t := d) rfl).trans ?_
  rcases d.makeDirectories path with ⟨_ | _, d'⟩ <;> rfl

theorem change_apply (doing : String) (step : Disk → Except SystemError Disk) (d : Disk) :
    change doing step d =
      match step d with
      | .ok d' => (.ok (), d')
      | .error e => (.error ((Failure.ofCause (.system e)).within doing), d) := by
  unfold change
  refine (bind_of_ok (a := d) (t := d) rfl).trans ?_
  cases step d <;> rfl

theorem ok_of_change {doing : String} {step : Disk → Except SystemError Disk} {d d' : Disk}
    (h : change doing step d = (.ok (), d')) : step d = .ok d' := by
  rw [change_apply] at h
  cases changed : step d with
  | error e =>
    rw [changed] at h
    cases h
  | ok d'' =>
    rw [changed] at h
    cases h
    rfl

/-- How a replacement fails says what was being done. -/
theorem writeText_apply (doing : String) (path : Path) (text : String) (d : Disk) :
    writeText doing path text d =
      ((d.replace path (Utf8.encode text)).1.mapError fun e =>
          (Failure.ofCause (.system e)).within doing,
        (d.replace path (Utf8.encode text)).2) := by
  unfold writeText
  refine (bind_of_ok (a := d) (t := d) rfl).trans ?_
  rcases d.replace path (Utf8.encode text) with ⟨_ | _, d'⟩ <;> rfl

theorem ok_of_writeText {doing : String} {path : Path} {text : String} {d d' : Disk}
    (h : writeText doing path text d = (.ok (), d')) :
    d.write path (Utf8.encode text) = .ok d' := by
  rw [writeText_apply] at h
  rcases replaced : d.replace path (Utf8.encode text) with ⟨_ | _, d''⟩
  · rw [replaced] at h
    cases h
  · rw [replaced] at h
    cases h
    exact Disk.write_of_replace replaced

theorem grows_of_makeDirectories {doing : String} {path : Path} {d d' : Disk}
    {a : Except Failure Unit} (h : makeDirectories doing path d = (a, d')) : d.Grows d' := by
  rw [makeDirectories_apply] at h
  cases h
  exact (d.growsBeside_makeDirectories path []).grows

variable {α β : Type} {l : Location} {d : Disk}

/-- On every disk that has grown out of `d`, the work only adds, and not at `l`. -/
def Beside (l : Location) (d : Disk) (work : Filing α) : Prop :=
  ∀ d', d.Grows d' → d'.GrowsBeside l (work d').2

theorem beside_pure (a : α) : Beside l d (pure a) := by
  intro d' _
  exact .refl l d'

theorem Beside.bind {x : Filing α} {f : α → Filing β} (first : Beside l d x)
    (then_ : ∀ a, Beside l d (f a)) : Beside l d (x >>= f) := by
  intro d' grows
  have done := first d' grows
  rcases ran : x d' with ⟨failure | a, d''⟩
  · rw [ran] at done
    rw [bind_of_error ran]
    exact done
  · rw [ran] at done
    rw [bind_of_ok ran]
    exact done.trans (then_ a d'' (grows.trans done.grows))

theorem beside_makeDirectories (doing : String) (path : Path) :
    Beside l d (makeDirectories doing path) := by
  intro d' _
  rw [makeDirectories_apply]
  exact d'.growsBeside_makeDirectories path l

/-- A file may be written wherever its path never comes to lead to the location. -/
theorem beside_writeText {path : Path} (doing text : String)
    (apart : ∀ d', d.Grows d' → ∀ a, d'.walk .opened path = .ok a → a.place.location ≠ l) :
    Beside l d (writeText doing path text) := by
  intro d' grows
  rw [writeText_apply]
  exact Disk.growsBeside_replace (apart d' grows)

end Filing

end Mender
