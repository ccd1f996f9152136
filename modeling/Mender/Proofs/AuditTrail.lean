import Mender.AuditTrail
import Mender.Proofs.Disk.Linkless
import Mender.Proofs.Filing
import Mender.Proofs.Text.Decimal

/-!
# Where an audit trail writes

An audit trail only adds to a disk, and it leaves a location alone that none of its
files comes to lie at.
-/

namespace Mender.AuditTrail

open scoped Mender.Path

/-- The path is that of a file that the trail may write. -/
inductive IsFile (dir : Path) : (path : Path) → Prop
  | record (index : Nat) : IsFile dir (places dir index).record
  | diagnostics (index : Nat) : IsFile dir (places dir index).diagnostics
  | prompt (index : Nat) : IsFile dir (places dir index).prompt
  | oracle (index : Nat) : IsFile dir (places dir index).oracle
  | result : IsFile dir (resultPath dir)

/-- However the disk grows, no file of the trail comes to lie at the location. -/
def Apart (dir : Path) (l : Location) (d : Disk) : Prop :=
  ∀ d', d.Grows d' → ∀ path, IsFile dir path →
    ∀ a, d'.walk .opened path = .ok a → a.place.location ≠ l

variable {dir : Path} {l : Location} {d d' : Disk}

theorem Apart.grow (apart : Apart dir l d) (grows : d.Grows d') : Apart dir l d' :=
  fun _ grows' => apart _ (grows.trans grows')

theorem beside_writeText (apart : Apart dir l d) {path : Path} (file : IsFile dir path)
    (text : String) : Filing.Beside l d (writeText path text) :=
  Filing.beside_writeText _ text fun d' grows => apart d' grows path file

/-- The path is that of a file that the trail writes even if the oracle was never asked. -/
inductive IsDryFile (dir : Path) : (path : Path) → Prop
  | record (index : Nat) : IsDryFile dir (places dir index).record
  | diagnostics (index : Nat) : IsDryFile dir (places dir index).diagnostics
  | result : IsDryFile dir (resultPath dir)

/-- However the disk grows, no file of the trail of a dry run comes to lie at the location. -/
def DryApart (dir : Path) (l : Location) (d : Disk) : Prop :=
  ∀ d', d.Grows d' → ∀ path, IsDryFile dir path →
    ∀ a, d'.walk .opened path = .ok a → a.place.location ≠ l

/-- What the trail of a dry run writes is part of what a trail may write. -/
theorem Apart.dry (apart : Apart dir l d) : DryApart dir l d := by
  intro d' grows path dry
  refine apart d' grows path ?_
  cases dry with
  | record index => exact .record index
  | diagnostics index => exact .diagnostics index
  | result => exact .result

theorem DryApart.grow (apart : DryApart dir l d) (grows : d.Grows d') : DryApart dir l d' :=
  fun _ grows' => apart _ (grows.trans grows')

theorem beside_writePass_dry (apart : DryApart dir l d) (pass : Pass) (snapshot : Snapshot) :
    Filing.Beside l d (writePass dir pass snapshot none) := by
  have file {path : Path} (dry : IsDryFile dir path) (text : String) :
      Filing.Beside l d (writeText path text) :=
    Filing.beside_writeText _ text fun d' grows => apart d' grows path dry
  refine (Filing.beside_makeDirectories _ _).bind fun _ => ?_
  refine (file (.record pass.index) _).bind fun _ => ?_
  exact (file (.diagnostics pass.index) _).bind fun _ => Filing.beside_pure _

theorem beside_writeOutcome (apart : DryApart dir l d) (outcome : Outcome) :
    Filing.Beside l d (writeOutcome dir outcome) := by
  refine (Filing.beside_makeDirectories _ _).bind fun _ => ?_
  refine (Filing.beside_writeText _ _ ?_).bind fun _ => Filing.beside_pure _
  exact fun d' grows => apart d' grows _ .result

theorem beside_writePass (apart : Apart dir l d) (pass : Pass) (snapshot : Snapshot)
    (attempt? : Option Attempt) : Filing.Beside l d (writePass dir pass snapshot attempt?) := by
  cases attempt? with
  | none => exact beside_writePass_dry apart.dry pass snapshot
  | some attempt =>
    refine (Filing.beside_makeDirectories _ _).bind fun _ => ?_
    refine (beside_writeText apart (.record pass.index) _).bind fun _ => ?_
    refine (beside_writeText apart (.diagnostics pass.index) _).bind fun _ => ?_
    refine (beside_writeText apart (.prompt pass.index) _).bind fun _ => ?_
    exact (beside_writeText apart (.oracle pass.index) _).bind fun _ => Filing.beside_pure _

theorem directory_first (dir : Path) : (places dir 1).directory = dir.join "1" :=
  congrArg (fun number => dir.join (.ofText number)) Decimal.natText_one

theorem lexical_place (d : Disk) (dir : Path) (index : Nat) {name : Path}
    (plain : Path.Plain name) :
    d.lexical ((dir.join (.ofText (Decimal.natText index))).join name) =
      d.lexical dir ++ [.ofText (Decimal.natText index), name] := by
  rw [Disk.lexical_join d _ plain, Disk.lexical_join d _ (Path.plain_natText index),
    List.append_assoc]
  rfl

@[simp] theorem lexical_record (d : Disk) (dir : Path) (index : Nat) :
    d.lexical (places dir index).record =
      d.lexical dir ++ [.ofText (Decimal.natText index), .ofText "meta.json"] :=
  lexical_place d dir index (by decide)

@[simp] theorem lexical_diagnostics (d : Disk) (dir : Path) (index : Nat) :
    d.lexical (places dir index).diagnostics =
      d.lexical dir ++ [.ofText (Decimal.natText index), .ofText "diagnostics.json"] :=
  lexical_place d dir index (by decide)

@[simp] theorem lexical_prompt (d : Disk) (dir : Path) (index : Nat) :
    d.lexical (places dir index).prompt =
      d.lexical dir ++ [.ofText (Decimal.natText index), .ofText "prompt.md"] :=
  lexical_place d dir index (by decide)

@[simp] theorem lexical_oracle (d : Disk) (dir : Path) (index : Nat) :
    d.lexical (places dir index).oracle =
      d.lexical dir ++ [.ofText (Decimal.natText index), .ofText "oracle.json"] :=
  lexical_place d dir index (by decide)

@[simp] theorem lexical_result (d : Disk) (dir : Path) :
    d.lexical (resultPath dir) = d.lexical dir ++ [.ofText "result.json"] :=
  Disk.lexical_join d dir (by decide)

/-- The files of the trail lie one or two names below its directory. -/
theorem lexical_file (d : Disk) {path : Path} (file : IsFile dir path) :
    d.lexical dir <+: d.lexical path := by
  cases file <;> simp

/-- Where there are no links, a trail is apart from every location that is not at or below its
directory. -/
theorem apart_of_linkless (linkless : d.Linkless) (outside : ¬d.lexical dir <+: l) :
    Apart dir l d := by
  intro d' grows path file a walked here
  have below := lexical_file d' file
  rw [← Disk.location_of_walk (linkless.grow grows) walked, here, grows.lexical_eq] at below
  exact outside below

/-- Where there are no links, the trail of a dry run is apart from every location that is not that
of one of its files. -/
theorem dryApart_of_linkless (linkless : d.Linkless)
    (other : ∀ path, IsDryFile dir path → d.lexical path ≠ l) : DryApart dir l d := by
  intro d' grows path dry a walked here
  rw [Disk.location_of_walk (linkless.grow grows) walked, grows.lexical_eq] at here
  exact other path dry here

/-- Where there are no links, the trail of a dry run is apart from the files that hold what was
asked and answered. -/
theorem dryApart_question (linkless : d.Linkless) (dir : Path) (index : Nat) :
    DryApart dir (d.lexical (places dir index).prompt) d ∧
      DryApart dir (d.lexical (places dir index).oracle) d := by
  constructor
  · refine dryApart_of_linkless linkless fun path dry => ?_
    cases dry <;> simp
  · refine dryApart_of_linkless linkless fun path dry => ?_
    cases dry <;> simp

end Mender.AuditTrail
