import Mender.Proofs.Disk.Growth
import Mender.Proofs.Text.Search
import Mender.Text.Decimal

/-!
# Disks without links

Where there are no links, a path says where it leads: its steps are taken one
after another, and the disk only decides whether they can be taken.
-/

namespace Mender

namespace Path

open Text

theorem steps_join (base : Path) {path : Path} (relative : isAbsolute path = false) :
    steps (join base path) = steps base ++ steps path := by
  unfold join
  rw [if_neg (by simp [relative])]
  split
  · next plain =>
    rcases Bool.or_eq_true_iff.mp plain with empty | slashed
    · simp [steps, List.isEmpty_iff.mp empty, splitOn, Step.ofPart?]
    · obtain ⟨bs, bytes⟩ := List.getLast?_eq_some_iff.mp (of_decide_eq_true slashed)
      simp [steps, bytes, splitOn_append, splitOn, Step.ofPart?]
  · simp [steps, splitOn_append]

theorem isAbsolute_join (base : Path) {path : Path} (relative : isAbsolute path = false) :
    isAbsolute (join base path) = isAbsolute base := by
  unfold join
  rw [if_neg (by simp [relative])]
  cases bytes : base.bytes with
  | nil => simpa [isAbsolute, bytes] using relative
  | cons b bs => split <;> simp [isAbsolute, bytes]

/-- A path that is one name and nothing else. -/
structure Plain (name : Path) : Prop where
  no_slash : slash ∉ name.bytes
  not_empty : name.bytes ≠ []
  not_stay : name.bytes ≠ [dot]
  not_up : name.bytes ≠ [dot, dot]

instance (name : Path) : Decidable (Plain name) :=
  decidable_of_iff (slash ∉ name.bytes ∧ name.bytes ≠ [] ∧ name.bytes ≠ [dot] ∧
      name.bytes ≠ [dot, dot])
    ⟨fun ⟨no_slash, not_empty, not_stay, not_up⟩ => ⟨no_slash, not_empty, not_stay, not_up⟩,
      fun h => ⟨h.no_slash, h.not_empty, h.not_stay, h.not_up⟩⟩

theorem Plain.relative {name : Path} (h : Plain name) : isAbsolute name = false := by
  have no_slash := h.no_slash
  unfold isAbsolute
  cases bytes : name.bytes with
  | nil => rfl
  | cons b bs =>
    rw [bytes, List.mem_cons, not_or] at no_slash
    simpa using Ne.symm no_slash.1

/-- A name is a step down. -/
theorem Plain.ofPart?_eq {name : Path} (h : Plain name) :
    Step.ofPart? name.bytes = some (.down name) := by
  rw [Step.ofPart?, if_neg h.not_empty, if_neg h.not_stay, if_neg h.not_up]

theorem Plain.steps_eq {name : Path} (h : Plain name) : steps name = [.down name] := by
  rw [steps, splitOn_of_not_mem h.no_slash]
  simp [h.ofPart?_eq]

/-- A number written in digits is a name. -/
theorem plain_natText (n : Nat) : Plain (ofText (Decimal.natText n)) := by
  have digit {c : Char} (mem : c ∈ (Decimal.natText n).toList) : isDigit c = true := by
    rw [Decimal.natText, String.toList_ofList] at mem
    exact List.all_eq_true.mp (Decimal.all_isDigit_digits n) c mem
  have no_dot : dot ∉ (ofText (Decimal.natText n)).bytes := fun mem =>
    absurd (digit (dot_mem_ofText.mp mem)) (by decide)
  constructor
  · exact fun mem => absurd (digit (slash_mem_ofText.mp mem)) (by decide)
  · intro empty
    have none : ofText (Decimal.natText n) = ofText "" := congrArg Path.mk empty
    simpa [Decimal.natText, Decimal.digits_ne_nil] using
      congrArg String.toList (ofText_injective none)
  · exact fun stay => no_dot (stay ▸ List.mem_cons_self)
  · exact fun up => no_dot (up ▸ List.mem_cons_self)

end Path

/-- Where steps lead that never meet a link. -/
def Location.follow (l : Location) : List Path.Step → Location
  | [] => l
  | .stay :: rest => follow l rest
  | .up :: rest => follow l.dropLast rest
  | .down name :: rest => follow (l ++ [name]) rest

theorem Location.follow_append (l : Location) (steps rest : List Path.Step) :
    l.follow (steps ++ rest) = (l.follow steps).follow rest := by
  induction steps generalizing l with
  | nil => rfl
  | cons step steps ih => cases step <;> exact ih _

namespace Disk

def Linkless (d : Disk) : Prop := ∀ l target, d.at? l ≠ some (.link target)

/-- Additions bring no links. -/
theorem Linkless.grow {d d' : Disk} (h : d.Linkless) (grows : d.Grows d') : d'.Linkless := by
  intro l target linked
  have grown := grows.entry l
  rw [linked] at grown
  cases here : d.at? l with
  | none =>
    rw [here] at grown
    cases grown
  | some e =>
    rw [here] at grown
    cases grown
    exact h l target here

theorem Walks.location_eq {d : Disk} (linkless : d.Linkless) {last : LastName} {links : Nat}
    {here : Location} {steps : List Path.Step} {slash : Bool} {a : Arrival}
    (h : d.Walks last links here steps slash a) : a.place.location = here.follow steps := by
  induction h with
  | done | vacant | found => rfl
  | stay _ _ ih | up _ _ ih | down _ _ _ _ ih => exact ih
  | kept _ linked => exact absurd linked (linkless _ _)
  | followed _ linked => exact absurd linked (linkless _ _)

/-- Where a path leads on a disk without links. -/
def lexical (d : Disk) (path : Path) : Location :=
  Location.follow (if Path.isAbsolute path then [] else d.cwd) (Path.steps path)

theorem Grows.lexical_eq {d d' : Disk} (grows : d.Grows d') (path : Path) :
    d'.lexical path = d.lexical path := by
  rw [lexical, lexical, grows.cwd_eq]

theorem lexical_join (d : Disk) (base : Path) {name : Path} (plain : Path.Plain name) :
    d.lexical (Path.join base name) = d.lexical base ++ [name] := by
  unfold lexical
  rw [Path.isAbsolute_join base plain.relative, Path.steps_join base plain.relative,
    Location.follow_append, plain.steps_eq]
  rfl

theorem location_of_walk {d : Disk} (linkless : d.Linkless) {last : LastName} {path : Path}
    {a : Arrival} (h : d.walk last path = .ok a) : a.place.location = d.lexical path :=
  (walk_eq_ok_iff.mp h).2.location_eq linkless

end Disk

end Mender
