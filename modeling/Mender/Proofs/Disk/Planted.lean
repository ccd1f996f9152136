import Mender.Proofs.Disk.Alike
import Mender.Proofs.Disk.Directories

/-!
# Disks on which entries lie in directories

On a disk as systems keep it, whatever lies somewhere lies in a directory. Making directories
and putting files into directories keeps it so, and then nothing lies below what is no
directory.
-/

namespace Mender.Disk

/-- Whatever lies on the disk lies in a directory. -/
def Planted (d : Disk) : Prop :=
  ∀ l name, d.at? (l ++ [name]) ≠ none → d.isDirectoryAt l = true

variable {d d' : Disk} {l place : Location} {path : Path}

theorem planted_of_entries (h : ∀ f ∈ d.entries, d.isDirectoryAt f.1.dropLast = true) :
    d.Planted := by
  intro l name lies
  rw [at?, if_neg (by simp)] at lies
  obtain ⟨e, found⟩ := Option.ne_none_iff_exists'.mp lies
  obtain ⟨before, behind, entries, -⟩ := List.lookup_eq_some_iff.mp found
  simpa using h (l ++ [name], e) (by simp [entries])

/-- All places above one where something lies are directories. -/
theorem Planted.above (planted : d.Planted) (lies : d.at? l ≠ none) (above : place <+: l)
    (other : place ≠ l) : d.isDirectoryAt place = true := by
  induction l using List.reverseRecOn with
  | nil => exact absurd (List.prefix_nil.mp above) other
  | append_singleton home name ih =>
    have directory := planted home name lies
    rcases List.prefix_concat_iff.mp above with same | inside
    · exact absurd same other
    · by_cases here : place = home
      · exact here ▸ directory
      · have there : d.at? home = some .directory := of_decide_eq_true directory
        exact ih (by simp [there]) inside here

theorem Planted.rooted (planted : d.Planted) : d.Rooted := by
  intro l place directory above
  by_cases here : place = l
  · exact here ▸ directory
  · have there : d.at? l = some .directory := of_decide_eq_true directory
    exact planted.above (by simp [there]) above here

/-- Nothing lies below what is no directory. -/
theorem Planted.leaf (planted : d.Planted) (no_directory : d.isDirectoryAt l = false) :
    d.Leaf l := by
  intro f mem below
  by_contra other
  have lies : d.at? f.1 ≠ none := by
    unfold Disk.at?
    split
    · exact Option.some_ne_none _
    · intro missing
      have absent := List.lookup_eq_none_iff.mp missing f mem
      simp at absent
  rw [planted.above lies below (Ne.symm other)] at no_directory
  cases no_directory

theorem Planted.put {home : Location} {name : Path} (planted : d.Planted)
    (directory : d.isDirectoryAt home = true)
    (no_directory : d.isDirectoryAt (home ++ [name]) = false) (e : Entry) :
    (d.put (home ++ [name]) e).Planted := by
  have still {place : Location} (there : d.isDirectoryAt place = true) :
      (d.put (home ++ [name]) e).isDirectoryAt place = true := by
    have other : place ≠ home ++ [name] := by
      rintro rfl
      rw [no_directory] at there
      cases there
    rw [isDirectoryAt, at?_put_of_ne d other]
    exact there
  intro l last lies
  by_cases here : l ++ [last] = home ++ [name]
  · obtain ⟨rfl, -⟩ := List.append_inj' here rfl
    exact still directory
  · rw [at?_put_of_ne d here] at lies
    exact still (planted l last lies)

theorem Planted.makeDirectory (planted : d.Planted) (h : d.makeDirectory path = .ok d') :
    d'.Planted := by
  obtain ⟨home, name, _, _, walked, rfl⟩ := put_of_makeDirectory h
  have walks := (walk_eq_ok_iff.mp walked).2
  refine planted.put walks.vacant_directory ?_ .directory
  rw [isDirectoryAt, walks.free]
  rfl

theorem Planted.ensureDirectory (planted : d.Planted) (h : d.ensureDirectory path = .ok d') :
    d'.Planted := by
  unfold Disk.ensureDirectory at h
  cases made : d.makeDirectory path with
  | ok d'' =>
    rw [made] at h
    cases h
    exact planted.makeDirectory made
  | error e =>
    rw [made] at h
    dsimp only at h
    split at h
    · cases h
      exact planted
    · cases h

/-- However it ends, making directories leaves every entry in a directory. -/
theorem Planted.makeDirectories (planted : d.Planted) (path : Path) :
    (d.makeDirectories path).2.Planted := by
  fun_induction Disk.makeDirectories d path with
  | case1 | case3 | case7 => exact planted
  | case2 _ _ _ made => exact planted.makeDirectory made
  | case4 _ _ _ _ _ _ _ above ih | case6 _ _ _ _ _ _ above _ _ ih =>
    rw [above] at ih
    exact ih
  | case5 _ _ _ _ _ _ above _ made ih =>
    rw [above] at ih
    exact ih.ensureDirectory made

end Mender.Disk
