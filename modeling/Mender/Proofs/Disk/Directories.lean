import Mender.Proofs.Disk.Leading
import Mender.Proofs.Path

/-!
# Directories that are made for a path

Making a directory with those above it adds directories where the first steps of its path lead,
and changes nothing else.
-/

namespace Mender.Disk

/-- Directories have been added where first steps of the path lead, and nothing else. -/
structure Paves (path : Path) (d d' : Disk) : Prop where
  grows : d.Grows d'
  added : ∀ l, d'.at? l ≠ d.at? l → d.at? l = none ∧ d'.at? l = some .directory ∧
    ∃ steps, steps <+: Path.steps path ∧ d.Leads (d.start path) steps l

variable {d d' d'' : Disk} {path : Path}

theorem Paves.refl (path : Path) (d : Disk) : Paves path d d :=
  ⟨.refl d, fun _ changed => absurd rfl changed⟩

theorem Paves.trans (h : Paves path d d') (h' : Paves path d' d'') : Paves path d d'' := by
  refine ⟨h.grows.trans h'.grows, fun l changed => ?_⟩
  by_cases early : d'.at? l = d.at? l
  · obtain ⟨free, made, steps, first, led⟩ := h'.added l (early ▸ changed)
    rw [h.grows.start_eq] at led
    exact ⟨early ▸ free, made, steps, first, led.shrink h.grows⟩
  · obtain ⟨free, made, first⟩ := h.added l early
    have still := h'.grows.entry l
    rw [made] at still
    exact ⟨free, still.directory, first⟩

/-- What is made for the directory above a path is made for the path. -/
theorem Paves.below {parent : Path} (h : Paves parent d d')
    (above : Path.parent? path = some parent) : Paves path d d' := by
  refine ⟨h.grows, fun l changed => ?_⟩
  obtain ⟨free, made, steps, first, led⟩ := h.added l changed
  rw [start, Path.isAbsolute_parent? above] at led
  exact ⟨free, made, steps, first.trans (Path.steps_parent? above), led⟩

theorem paves_of_makeDirectory (h : d.makeDirectory path = .ok d') : Paves path d d' := by
  refine ⟨(growsBeside_makeDirectory h []).grows, fun l changed => ?_⟩
  obtain ⟨directory, name, _, _, walked, rfl⟩ := put_of_makeDirectory h
  by_cases here : l = directory ++ [name]
  · subst here
    exact ⟨(walk_eq_ok_iff.mp walked).2.free, at?_put_self d (by simp) _, _, List.prefix_refl _,
      leadsTo_of_walk walked nofun⟩
  · exact absurd (at?_put_of_ne d here _) changed

theorem paves_of_ensureDirectory (h : d.ensureDirectory path = .ok d') : Paves path d d' := by
  unfold ensureDirectory at h
  cases made : d.makeDirectory path with
  | ok d'' =>
    rw [made] at h
    cases h
    exact paves_of_makeDirectory made
  | error e =>
    rw [made] at h
    dsimp only at h
    split at h
    · cases h
      exact .refl path d
    · cases h

/-- No directory is made below a name that is missing. -/
theorem makeDirectory_of_missing {name : Path} {next : Path.Step} {rest : List Path.Step}
    (legal : path.bytes.contains 0 = false ∧ path.bytes ≠ [] ∧
      ¬path.bytes.length > maxPathBytes)
    (parts : Path.steps path = .down name :: next :: rest)
    (passable : d.Passable .listed (d.start path) name (next :: rest) (Path.endsInSlash path))
    (free : d.at? (d.start path ++ [name]) = none) : d.makeDirectory path = .error .notFound := by
  obtain ⟨no_nul, not_empty, path_short⟩ := legal
  have walked : d.walk .listed path = .error .notFound := by
    have ends : d.walkFrom .listed maxLinks (d.start path) (Path.steps path)
        (Path.endsInSlash path) = .error .notFound := by
      rw [parts, walkFrom_down passable, free]
      rfl
    rw [walk, if_neg (by rw [no_nul]; simp), if_neg not_empty, if_neg path_short]
    unfold start at ends
    split at ends
    · next absolute => rwa [if_pos absolute]
    · next relative =>
      rw [if_neg relative, ends]
      split <;> rfl
  rw [makeDirectory, make, walked]
  rfl

/-- Where the directory above is missing, it is made first. -/
theorem makeDirectories_of_missing {parent : Path} (nonempty : path.bytes ≠ [])
    (missing : d.makeDirectory path = .error .notFound) (above : Path.parent? path = some parent)
    (made : d.makeDirectories parent = (.ok (), d')) (ensured : d'.ensureDirectory path = .ok d'') :
    d.makeDirectories path = (.ok (), d'') := by
  rw [makeDirectories, if_neg (by simp [nonempty]), missing]
  dsimp only
  split
  · next none =>
    rw [above] at none
    cases none
  · next parent' up =>
    obtain rfl : parent = parent' := Option.some.inj (above.symm.trans up)
    rw [made]
    dsimp only
    rw [ensured]

/-- However it ends, making directories has added nothing but directories on the way. -/
theorem paves_makeDirectories (d : Disk) (path : Path) :
    Paves path d (d.makeDirectories path).2 := by
  fun_induction makeDirectories d path with
  | case1 | case3 | case7 => exact .refl _ _
  | case2 _ _ _ made => exact paves_of_makeDirectory made
  | case4 _ _ _ parent up _ _ above ih | case6 _ _ _ parent up _ above _ _ ih =>
    have first := ih.below up
    rw [above] at first
    exact first
  | case5 _ _ _ parent up _ above _ made ih =>
    have first := ih.below up
    rw [above] at first
    exact first.trans (paves_of_ensureDirectory made)

end Mender.Disk
