import Mathlib
import Mender.Disk

/-!
# Walks

`Walks` says which steps lead where. It is the walk of a path told without its
refusals, one rule for each way to take a step, and `walkFrom_eq_ok_iff` says that it
is the same.
-/

namespace Mender.Disk

/-- Nothing refuses a step down to a name, with the rest of the steps behind it. -/
structure Passable (d : Disk) (last : LastName) (here : Location) (name : Path)
    (rest : List Path.Step) (slash : Bool) : Prop where
  directory : d.isDirectoryAt here = true
  may_open : (rest.isEmpty && slash && decide (last = .opened)) = false
  short : ¬name.bytes.length > maxNameBytes

inductive Walks (d : Disk) (last : LastName) :
    (links : Nat) → Location → List Path.Step → (slash : Bool) → Arrival → Prop
  | done {links here slash} :
      Walks d last links here [] slash
        ⟨.found here ((d.at? here).getD .directory), false, slash⟩
  | stay {links here rest slash a} (directory : d.isDirectoryAt here = true)
      (walked : Walks d last links here rest slash a) :
      Walks d last links here (.stay :: rest) slash a
  | up {links here rest slash a} (directory : d.isDirectoryAt here = true)
      (walked : Walks d last links here.dropLast rest slash a) :
      Walks d last links here (.up :: rest) slash a
  | vacant {links here name slash} (passable : d.Passable last here name [] slash)
      (free : d.at? (here ++ [name]) = none) :
      Walks d last links here [.down name] slash ⟨.vacant here name, true, slash⟩
  | kept {links here name slash target} (passable : d.Passable last here name [] slash)
      (linked : d.at? (here ++ [name]) = some (.link target))
      (unfollowed : last.follows slash = false) :
      Walks d last links here [.down name] slash
        ⟨.found (here ++ [name]) (.link target), true, slash⟩
  | followed {links here name rest slash target a}
      (passable : d.Passable last here name rest slash)
      (linked : d.at? (here ++ [name]) = some (.link target))
      (follows : (rest.isEmpty && !last.follows slash) = false)
      (walked : Walks d last links (if Path.isAbsolute target then [] else here)
        (Path.steps target ++ rest) (slash || (rest.isEmpty && Path.endsInSlash target)) a) :
      Walks d last (links + 1) here (.down name :: rest) slash a
  | found {links here name slash e} (passable : d.Passable last here name [] slash)
      (lies : d.at? (here ++ [name]) = some e) (no_link : ∀ target, e ≠ .link target) :
      Walks d last links here [.down name] slash ⟨.found (here ++ [name]) e, true, slash⟩
  | down {links here name next rest slash e a}
      (passable : d.Passable last here name (next :: rest) slash)
      (lies : d.at? (here ++ [name]) = some e) (no_link : ∀ target, e ≠ .link target)
      (walked : Walks d last links (here ++ [name]) (next :: rest) slash a) :
      Walks d last links here (.down name :: next :: rest) slash a

variable {d : Disk} {last : LastName} {links : Nat} {here : Location}
  {steps : List Path.Step} {slash : Bool} {a : Arrival}

theorem walks_of_walkFrom (h : d.walkFrom last links here steps slash = .ok a) :
    d.Walks last links here steps slash a := by
  fun_induction walkFrom d last links here steps slash with
  | case1 =>
    cases h
    exact .done
  | case2 | case5 | case6 | case8 | case10 => cases h
  | case3 _ _ _ _ directory ih => exact .stay (by simpa using directory) (ih h)
  | case4 _ _ _ _ directory ih => exact .up (by simpa using directory) (ih h)
  | case7 links here slash rest directory name isLast may_open short free last_step =>
    cases h
    obtain rfl := List.isEmpty_iff.mp last_step
    exact .vacant ⟨by simpa using directory, Bool.eq_false_iff.mpr may_open, short⟩ free
  | case9 links here slash rest directory name isLast may_open short target linked kept =>
    cases h
    obtain ⟨last_step, unfollowed⟩ := Bool.and_eq_true_iff.mp kept
    obtain rfl := List.isEmpty_iff.mp last_step
    exact .kept ⟨by simpa using directory, Bool.eq_false_iff.mpr may_open, short⟩ linked
      (by simpa using unfollowed)
  | case11 here slash rest directory name isLast may_open short target linked follows links start
      ih =>
    exact .followed ⟨by simpa using directory, Bool.eq_false_iff.mpr may_open, short⟩ linked
      (Bool.eq_false_iff.mpr follows) (ih h)
  | case12 links here slash rest directory name isLast may_open short e no_link lies last_step =>
    cases h
    obtain rfl := List.isEmpty_iff.mp last_step
    exact .found ⟨by simpa using directory, Bool.eq_false_iff.mpr may_open, short⟩ lies no_link
  | case13 links here slash rest directory name isLast may_open short e no_link lies further ih =>
    cases rest with
    | nil => exact absurd rfl further
    | cons next rest =>
      exact .down ⟨by simpa using directory, Bool.eq_false_iff.mpr may_open, short⟩ lies no_link
        (ih h)

/-- What becomes of a step down that nothing refuses. -/
theorem walkFrom_down {name : Path} {rest : List Path.Step}
    (passable : d.Passable last here name rest slash) :
    d.walkFrom last links here (.down name :: rest) slash =
      match d.at? (here ++ [name]) with
      | none => if rest.isEmpty then .ok ⟨.vacant here name, true, slash⟩ else .error .notFound
      | some (.link target) =>
        if rest.isEmpty && !last.follows slash then
          .ok ⟨.found (here ++ [name]) (.link target), true, slash⟩
        else
          match links with
          | 0 => .error .tooManyLinks
          | links + 1 =>
            d.walkFrom last links (if Path.isAbsolute target then [] else here)
              (Path.steps target ++ rest) (slash || (rest.isEmpty && Path.endsInSlash target))
      | some e =>
        if rest.isEmpty then .ok ⟨.found (here ++ [name]) e, true, slash⟩
        else d.walkFrom last links (here ++ [name]) rest slash := by
  obtain ⟨directory, may_open, short⟩ := passable
  rw [walkFrom, directory]
  refine (if_neg (by simp)).trans ?_
  refine (if_neg (by simp [may_open])).trans ?_
  exact if_neg short

theorem walkFrom_of_walks (h : d.Walks last links here steps slash a) :
    d.walkFrom last links here steps slash = .ok a := by
  induction h with
  | done => rw [walkFrom]
  | stay directory _ ih =>
    rw [walkFrom]
    simpa [directory] using ih
  | up directory _ ih =>
    rw [walkFrom]
    simpa [directory] using ih
  | vacant passable free =>
    rw [walkFrom_down passable, free]
    rfl
  | kept passable linked unfollowed =>
    rw [walkFrom_down passable, linked]
    simp [unfollowed]
  | followed passable linked follows _ ih =>
    rw [walkFrom_down passable, linked]
    simpa [follows] using ih
  | @found links here name slash e passable lies no_link =>
    rw [walkFrom_down passable, lies]
    cases e with
    | link target => exact absurd rfl (no_link target)
    | _ => rfl
  | @down links here name next rest slash e a passable lies no_link walked ih =>
    rw [walkFrom_down passable, lies]
    cases e with
    | link target => exact absurd rfl (no_link target)
    | _ => exact ih

theorem walkFrom_eq_ok_iff :
    d.walkFrom last links here steps slash = .ok a ↔ d.Walks last links here steps slash a :=
  ⟨walks_of_walkFrom, walkFrom_of_walks⟩

/-- A walk goes on from directories only. -/
theorem Walks.directory_of_more (h : d.Walks last links here steps slash a) (more : steps ≠ []) :
    d.isDirectoryAt here = true := by
  cases h with
  | done => exact absurd rfl more
  | stay directory | up directory => exact directory
  | vacant passable | kept passable | followed passable | found passable | down passable =>
    exact passable.directory

/-- Where a walk found an entry, that entry lies. -/
theorem Walks.lies {l : Location} {e : Entry} {named ends : Bool}
    (h : d.Walks last links here steps slash ⟨.found l e, named, ends⟩) :
    (d.at? l).getD .directory = e := by
  generalize arrived : Arrival.mk (.found l e) named ends = a at h
  induction h with
  | done =>
    cases arrived
    rfl
  | stay _ _ ih | up _ _ ih | followed _ _ _ _ ih | down _ _ _ _ ih => exact ih arrived
  | vacant => cases arrived
  | kept _ linked =>
    cases arrived
    rw [linked]
    rfl
  | found _ lies =>
    cases arrived
    rw [lies]
    rfl

theorem Walks.at?_eq {l : Location} {e : Entry} {named ends : Bool}
    (h : d.Walks last links here steps slash ⟨.found l e, named, ends⟩) (other : e ≠ .directory) :
    d.at? l = some e := by
  have lies := h.lies
  cases there : d.at? l with
  | none =>
    rw [there] at lies
    exact absurd lies.symm other
  | some e =>
    rw [there] at lies
    exact congrArg some lies

/-- Where a walk ended at a free name, nothing lies. -/
theorem Walks.free {l : Location} {name : Path} {named ends : Bool}
    (h : d.Walks last links here steps slash ⟨.vacant l name, named, ends⟩) :
    d.at? (l ++ [name]) = none := by
  generalize arrived : Arrival.mk (.vacant l name) named ends = a at h
  induction h with
  | done | kept | found => cases arrived
  | stay _ _ ih | up _ _ ih | followed _ _ _ _ ih | down _ _ _ _ ih => exact ih arrived
  | vacant _ free =>
    cases arrived
    exact free

theorem Walks.vacant_directory {l : Location} {name : Path} {named ends : Bool}
    (h : d.Walks last links here steps slash ⟨.vacant l name, named, ends⟩) :
    d.isDirectoryAt l = true := by
  generalize arrived : Arrival.mk (.vacant l name) named ends = a at h
  induction h with
  | done | kept | found => cases arrived
  | stay _ _ ih | up _ _ ih | followed _ _ _ _ ih | down _ _ _ _ ih => exact ih arrived
  | vacant passable =>
    cases arrived
    exact passable.directory

/-- A slash that a walk came upon stays behind the last name. -/
theorem Walks.slash_of_slash (h : d.Walks last links here steps slash a) (s : slash = true) :
    a.slash = true := by
  induction h with
  | done | vacant | kept | found => exact s
  | stay _ _ ih | up _ _ ih | down _ _ _ _ ih => exact ih s
  | followed _ _ _ _ ih => exact ih (by simp [s])

/-- A walk that came upon no slash may as well have opened a file. -/
theorem Walks.opened (h : d.Walks .followed links here steps slash a) (s : a.slash = false) :
    d.Walks .opened links here steps slash a := by
  have passable {here : Location} {name : Path} {rest : List Path.Step} {slash : Bool}
      (passable : d.Passable .followed here name rest slash) (s : slash = false) :
      d.Passable .opened here name rest slash :=
    ⟨passable.directory, by simp [s], passable.short⟩
  induction h with
  | done => exact .done
  | stay directory _ ih => exact .stay directory (ih s)
  | up directory _ ih => exact .up directory (ih s)
  | vacant passed free => exact .vacant (passable passed s) free
  | kept _ _ unfollowed => cases unfollowed
  | followed passed linked follows walked ih =>
    have unslashed := mt walked.slash_of_slash (Bool.not_eq_true _ ▸ s)
    rw [Bool.not_eq_true, Bool.or_eq_false_iff] at unslashed
    exact .followed (passable passed unslashed.1) linked (by simp [LastName.follows]) (ih s)
  | found passed lies no_link => exact .found (passable passed s) lies no_link
  | down passed lies no_link walked ih =>
    have unslashed := mt walked.slash_of_slash (Bool.not_eq_true _ ▸ s)
    exact .down (passable passed (Bool.not_eq_true _ ▸ unslashed)) lies no_link (ih s)

end Mender.Disk
