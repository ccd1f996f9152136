import Mender.Proofs.Disk.Growth

/-!
# Replaced files

A file is emptied before its new bytes are put in, so where they do not all find room it
ends up with a part of them: neither the old bytes nor the new ones. Where it is not even
opened, nothing changes.
-/

namespace Mender.Disk

variable {d d' : Disk} {path : Path} {data : Bytes} {l : Location}

/-- What comes of replacing the bytes of a file. -/
inductive Replaced (d : Disk) (path : Path) (data : Bytes) :
    Except SystemError Unit × Disk → Prop
  | whole {d' : Disk} (wrote : d.write path data = .ok d') : Replaced d path data (.ok (), d')
  | refused (e : SystemError) : Replaced d path data (.error e, d)
  | cut {d' : Disk} (e : SystemError) {room : Nat} (short : room < data.length)
      (wrote : d.write path (data.take room) = .ok d') : Replaced d path data (.error e, d')

theorem replaced (d : Disk) (path : Path) (data : Bytes) :
    Replaced d path data (d.replace path data) := by
  unfold replace
  dsimp only
  split
  · split
    · next d' wrote => exact .whole wrote
    · next e _ => exact .refused e
  · next e _ => exact .refused e
  · next room e _ =>
    by_cases short : data.length ≤ room
    · rw [if_pos short]
      split
      · next d' wrote => exact .whole wrote
      · next e _ => exact .refused e
    · rw [if_neg short]
      split
      · next d' wrote => exact .cut e (Nat.lt_of_not_le short) wrote
      · next e _ => exact .refused e

/-- Bytes are replaced in full where the replacement succeeds. -/
theorem write_of_replace (h : d.replace path data = (.ok (), d')) : d.write path data = .ok d' := by
  have came := replaced d path data
  rw [h] at came
  cases came with
  | whole wrote => exact wrote

/-- Where nothing keeps a file from being changed, it is replaced in full if it can be
written at all. -/
theorem replace_of_write (sound : ∀ a, d.walk .opened path = .ok a →
      d.fault? a.place.location = none) (wrote : d.write path data = .ok d') :
    d.replace path data = (.ok (), d') := by
  have free : ((d.walk .opened path).toOption.bind fun a => d.fault? a.place.location) = none := by
    cases walked : d.walk .opened path with
    | error e => rfl
    | ok a => exact sound a walked
  unfold replace
  rw [free]
  dsimp only
  rw [wrote]

/-- Where not all bytes find room, as many are left as do. -/
theorem replace_of_cut {a : Arrival} {room : Nat} {e : SystemError}
    (walked : d.walk .opened path = .ok a)
    (fault : d.fault? a.place.location = some ⟨some room, e⟩) (short : room < data.length)
    (wrote : d.write path (data.take room) = .ok d') :
    d.replace path data = (.error e, d') := by
  have full : ((d.walk .opened path).toOption.bind fun a => d.fault? a.place.location) =
      some ⟨some room, e⟩ := by
    rw [walked]
    exact fault
  unfold replace
  rw [full]
  dsimp only
  rw [if_neg (Nat.not_le.mpr short), wrote]

theorem growsBeside_replace
    (apart : ∀ a, d.walk .opened path = .ok a → a.place.location ≠ l) :
    GrowsBeside l d (d.replace path data).2 := by
  have came := replaced d path data
  generalize d.replace path data = result at came
  cases came with
  | whole wrote => exact growsBeside_write wrote apart
  | refused => exact .refl l d
  | cut _ _ wrote => exact growsBeside_write wrote apart

/-- What a file holds when its bytes have been replaced: the new ones, or after a failure the
old ones or a part of the new ones. -/
inductive Remains {ε : Type} (old new : Bytes) : Except ε Unit → Bytes → Prop
  | written : Remains old new (.ok ()) new
  | kept (e : ε) : Remains old new (.error e) old
  | cut (e : ε) {room : Nat} (short : room < new.length) :
      Remains old new (.error e) (new.take room)

theorem Remains.mapError {ε ε' : Type} {old new held : Bytes} {answer : Except ε Unit}
    (h : Remains old new answer held) (f : ε → ε') : Remains old new (answer.mapError f) held := by
  cases h with
  | written => exact .written
  | kept e => exact .kept (f e)
  | cut e short => exact .cut (f e) short

/-- The file that a path leads to is the one whose bytes are replaced there. -/
theorem replace_of_find {old : Bytes} {executable : Bool}
    (h : d.find path = .ok (l, .file old executable)) (data : Bytes) :
    ∃ held, Remains old data (d.replace path data).1 held ∧ d.Grows (d.replace path data).2 ∧
      (d.replace path data).2.fileAt? l = some held := by
  have came := replaced d path data
  generalize d.replace path data = result at came
  cases came with
  | @whole d' wrote =>
    obtain ⟨_, wrote', grows, holds⟩ := write_of_find h data
    cases wrote.symm.trans wrote'
    exact ⟨data, .written, grows, holds⟩
  | refused e => exact ⟨old, .kept e, .refl d, fileAt?_of_find h⟩
  | @cut d' e room short wrote =>
    obtain ⟨_, wrote', grows, holds⟩ := write_of_find h (data.take room)
    cases wrote.symm.trans wrote'
    exact ⟨data.take room, .cut e short, grows, holds⟩

end Mender.Disk
