import Mender.Proofs.Disk.Leading
import Mender.Proofs.Disk.Replacing

/-!
# Below a directory

What is asked for below a directory that is there goes through: a name is walked to, a file is
written where nothing or a file is in its place, and a directory that is there need not be made.
-/

namespace Mender

theorem Path.endsInSlash_join (base : Path) {name : Path} (plain : Plain name) :
    endsInSlash (join base name) = false := by
  have last (front : Bytes) : endsInSlash ⟨front ++ name.bytes⟩ = false := by
    rw [endsInSlash, List.getLast?_append_of_ne_nil _ plain.not_empty]
    exact decide_eq_false fun slashed => plain.no_slash (List.mem_of_getLast? slashed)
  unfold join
  rw [if_neg (by simp [plain.relative])]
  split
  · exact last _
  · simpa using last (base.bytes ++ [slash])

namespace Disk

variable {d d' : Disk} {here m : Location} {steps rest : List Path.Step} {last : LastName}
  {links : Nat} {slash : Bool} {a : Arrival}

/-- From the directory where a walk ended, it can be gone on. -/
theorem Walks.append {ends slash' named : Bool}
    (first : d.Walks .followed links here steps slash ⟨.found m .directory, named, ends⟩)
    (then_ : ∀ links, d.Walks last links m rest slash' a) (more : rest ≠ []) :
    d.Walks last links here (steps ++ rest) slash' a := by
  have pass {here : Location} {name : Path} {front : List Path.Step} {slash : Bool}
      (passable : d.Passable .followed here name front slash) :
      d.Passable last here name (front ++ rest) slash' :=
    ⟨passable.directory, by simp [more], passable.short⟩
  generalize arrived : Arrival.mk (.found m .directory) named ends = b at first
  induction first with
  | done =>
    obtain rfl := (Place.found.inj (Arrival.mk.inj arrived).1).1
    exact then_ _
  | stay directory _ ih => exact .stay directory (ih arrived)
  | up directory _ ih => exact .up directory (ih arrived)
  | vacant | kept => cases arrived
  | @followed _ _ _ front _ target _ passable linked _ _ ih =>
    have further := ih arrived
    have unslashed : (slash' || ((front ++ rest).isEmpty && Path.endsInSlash target)) = slash' := by
      simp [more]
    rw [List.append_assoc, ← unslashed] at further
    exact .followed (pass passable) linked (by simp [more]) further
  | found passable lies no_link =>
    cases arrived
    obtain ⟨next, rest, rfl⟩ := List.exists_cons_of_ne_nil more
    exact .down (pass passable) lies no_link (then_ _)
  | down passable lies no_link _ ih => exact .down (pass passable) lies no_link (ih arrived)

/-- The path leads to a directory that is there. -/
structure Opens (d : Disk) (path : Path) (m : Location) : Prop where
  found : d.find path = .ok (m, .directory)
  directory : d.isDirectoryAt m = true

theorem Opens.grow {path : Path} (h : d.Opens path m) (grows : d.Grows d') :
    d'.Opens path m := by
  have still := grows.isDirectoryAt h.directory
  obtain ⟨named, slash, walked, -⟩ := find_eq_ok_iff.mp h.found
  have walked' := walk_grow grows walked
  rw [of_decide_eq_true still] at walked'
  exact ⟨find_eq_ok_iff.mpr ⟨named, slash, walked', fun _ => rfl⟩, still⟩

/-- The system takes a name below a path. -/
structure Legal (base name : Path) : Prop where
  plain : Path.Plain name
  short : ¬name.bytes.length > maxNameBytes
  no_nul : (Path.join base name).bytes.contains 0 = false
  not_empty : (Path.join base name).bytes ≠ []
  path_short : ¬(Path.join base name).bytes.length > maxPathBytes

instance (base name : Path) : Decidable (Legal base name) :=
  decidable_of_iff (Path.Plain name ∧ ¬name.bytes.length > maxNameBytes ∧
      (Path.join base name).bytes.contains 0 = false ∧
      (Path.join base name).bytes ≠ [] ∧
      ¬(Path.join base name).bytes.length > maxPathBytes)
    ⟨fun ⟨plain, short, no_nul, not_empty, path_short⟩ =>
        ⟨plain, short, no_nul, not_empty, path_short⟩,
      fun h => ⟨h.plain, h.short, h.no_nul, h.not_empty, h.path_short⟩⟩

variable {base name : Path}

theorem walk_join (opens : d.Opens base m) (legal : Legal base name) {place : Place}
    (arrives : ∀ links, d.Walks last links m [.down name] false ⟨place, true, false⟩) :
    d.walk last (Path.join base name) = .ok ⟨place, true, false⟩ := by
  obtain ⟨_, _, walked, -⟩ := find_eq_ok_iff.mp opens.found
  refine walk_eq_ok_iff.mpr ⟨⟨legal.no_nul, legal.not_empty, legal.path_short⟩, ?_⟩
  rw [Path.isAbsolute_join base legal.plain.relative, Path.steps_join base legal.plain.relative,
    legal.plain.steps_eq, Path.endsInSlash_join base legal.plain]
  exact (walk_eq_ok_iff.mp walked).2.append arrives (List.cons_ne_nil _ _)

/-- A file is written below a directory where nothing or a file is in its place. -/
theorem exists_write_join (opens : d.Opens base m) (legal : Legal base name)
    (clear : d.at? (m ++ [name]) = none ∨
      ∃ old executable, d.at? (m ++ [name]) = some (.file old executable)) (data : Bytes) :
    ∃ executable, d.write (Path.join base name) data =
      .ok (d.put (m ++ [name]) (.file data executable)) := by
  have passable : d.Passable .opened m name [] false := ⟨opens.directory, rfl, legal.short⟩
  unfold write
  rcases clear with free | ⟨old, executable, lies⟩
  · rw [walk_join opens legal fun _ => .vacant passable free]
    exact ⟨false, rfl⟩
  · rw [walk_join opens legal fun _ => .found passable lies nofun]
    exact ⟨executable, rfl⟩

/-- Where nothing keeps the disk from being changed, its bytes are replaced in full. -/
theorem exists_replace_join (sound : d.faults = []) (opens : d.Opens base m)
    (legal : Legal base name)
    (clear : d.at? (m ++ [name]) = none ∨
      ∃ old executable, d.at? (m ++ [name]) = some (.file old executable)) (data : Bytes) :
    ∃ executable, d.replace (Path.join base name) data =
      (.ok (), d.put (m ++ [name]) (.file data executable)) := by
  obtain ⟨executable, wrote⟩ := exists_write_join opens legal clear data
  exact ⟨executable, replace_of_write (by simp [fault?, sound]) wrote⟩

theorem Opens.below (opens : d.Opens base m) (legal : Legal base name)
    (lies : d.at? (m ++ [name]) = some .directory) :
    d.Opens (Path.join base name) (m ++ [name]) := by
  have passable : d.Passable .followed m name [] false :=
    ⟨opens.directory, by simp, legal.short⟩
  have walked := walk_join opens legal fun _ => .found passable lies nofun
  exact ⟨find_eq_ok_iff.mpr ⟨true, false, walked, nofun⟩, decide_eq_true lies⟩

/-- A directory is made where nothing is in its place and nothing keeps it from being made. -/
theorem ensureDirectory_join (opens : d.Opens base m) (legal : Legal base name)
    (free : d.at? (m ++ [name]) = none) (sound : d.fault? (m ++ [name]) = none) :
    d.ensureDirectory (Path.join base name) = .ok (d.put (m ++ [name]) .directory) := by
  have passable : d.Passable .listed m name [] false := ⟨opens.directory, by simp, legal.short⟩
  have walked := walk_join opens legal fun _ => .vacant passable free
  have made : d.makeDirectory (Path.join base name) = .ok (d.put (m ++ [name]) .directory) := by
    rw [makeDirectory, make, walked]
    simp [bind, Except.bind, sound, pure, Except.pure]
  rw [ensureDirectory, made]

/-- A directory that is there is as good as made. -/
theorem makeDirectories_join (opens : d.Opens base m) (legal : Legal base name)
    (lies : d.at? (m ++ [name]) = some .directory) :
    d.makeDirectories (Path.join base name) = (.ok (), d) := by
  have passable : d.Passable .listed m name [] false := ⟨opens.directory, by simp, legal.short⟩
  have walked := walk_join opens legal fun _ => .found passable lies nofun
  have there : d.makeDirectory (Path.join base name) = .error .alreadyExists := by
    rw [makeDirectory, make, walked]
    rfl
  have directory : d.isDirectory (Path.join base name) = true := by
    rw [isDirectory, (opens.below legal lies).found]
  rw [makeDirectories, if_neg (by simp [legal.not_empty]), there]
  simp only [directory, if_true]

end Disk

end Mender
