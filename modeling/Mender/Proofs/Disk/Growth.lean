import Mender.Proofs.Disk.Walk
import Mender.Proofs.Path

/-!
# Growing disks

Writing files and making directories only ever adds to a disk: directories and
links stay where they are, and a file gives way to another file at most. So a path
that leads somewhere still leads to the same place, whatever was added.
-/

namespace Mender

/-- What can come to lie where an entry lay, or where nothing was. -/
inductive Entry.Grows : Option Entry → Option Entry → Prop
  | same (e : Option Entry) : Grows e e
  | made : Grows none (some .directory)
  | written (data : Bytes) (executable : Bool) : Grows none (some (.file data executable))
  | rewritten (old new : Bytes) (executable executable' : Bool) :
      Grows (some (.file old executable)) (some (.file new executable'))

namespace Entry

theorem Grows.trans {e f g : Option Entry} (h : Grows e f) (h' : Grows f g) : Grows e g := by
  cases h with
  | same => exact h'
  | made =>
    cases h'
    exact .made
  | written =>
    cases h' with
    | same => exact .written _ _
    | rewritten => exact .written _ _
  | rewritten =>
    cases h' with
    | same => exact .rewritten _ _ _ _
    | rewritten => exact .rewritten _ _ _ _

theorem Grows.directory {e : Option Entry} (h : Grows (some .directory) e) :
    e = some .directory := by
  cases h
  rfl

theorem Grows.link {target : Path} {e : Option Entry} (h : Grows (some (.link target)) e) :
    e = some (.link target) := by
  cases h
  rfl

/-- What is no link does not become one. -/
theorem Grows.exists_of_not_link {e : Entry} {f : Option Entry} (h : Grows (some e) f)
    (not_link : ∀ target, e ≠ .link target) : ∃ e', f = some e' ∧ ∀ target, e' ≠ .link target := by
  cases h with
  | same => exact ⟨e, rfl, not_link⟩
  | rewritten => exact ⟨_, rfl, fun _ => nofun⟩

end Entry

namespace Disk

/-- The disk has become the other one by additions. -/
structure Grows (d d' : Disk) : Prop where
  cwd_eq : d'.cwd = d.cwd
  entry : ∀ l, Entry.Grows (d.at? l) (d'.at? l)

theorem Grows.refl (d : Disk) : d.Grows d := ⟨rfl, fun _ => .same _⟩

theorem Grows.trans {d d' d'' : Disk} (h : d.Grows d') (h' : d'.Grows d'') : d.Grows d'' :=
  ⟨h'.cwd_eq.trans h.cwd_eq, fun l => (h.entry l).trans (h'.entry l)⟩

theorem Grows.isDirectoryAt {d d' : Disk} (h : d.Grows d') {l : Location}
    (directory : d.isDirectoryAt l = true) : d'.isDirectoryAt l = true := by
  have here : d.at? l = some .directory := by simpa [Disk.isDirectoryAt] using directory
  have grown := h.entry l
  rw [here] at grown
  simp [Disk.isDirectoryAt, grown.directory]

/-- The root stays a directory whatever is put there, so its location is left out. -/
theorem grows_put {d : Disk} {l : Location} {e : Entry}
    (grown : l ≠ [] → Entry.Grows (d.at? l) (some e)) : d.Grows (d.put l e) := by
  refine ⟨rfl, fun m => ?_⟩
  by_cases here : m = l
  · subst here
    by_cases root : m = []
    · simpa [at?, root] using Entry.Grows.same (some .directory)
    · rw [at?_put_self d root]
      exact grown root
  · rw [at?_put_of_ne d here]
    exact .same _

/-- What is refused nowhere is not refused on a disk that has grown. -/
theorem Passable.grow {d d' : Disk} {last : LastName} {here : Location} {name : Path}
    {rest : List Path.Step} {slash : Bool} (h : d.Passable last here name rest slash)
    (grows : d.Grows d') : d'.Passable last here name rest slash :=
  ⟨grows.isDirectoryAt h.directory, h.may_open, h.short⟩

/-- A walk that arrives at an entry arrives at the same place on a disk that has grown. -/
theorem Walks.grow {d d' : Disk} {last : LastName} {links : Nat} {here : Location}
    {steps : List Path.Step} {slash : Bool} {l : Location} {e : Entry} {named ends : Bool}
    (h : d.Walks last links here steps slash ⟨.found l e, named, ends⟩) (grows : d.Grows d') :
    d'.Walks last links here steps slash ⟨.found l ((d'.at? l).getD .directory), named, ends⟩ := by
  generalize arrived : Arrival.mk (.found l e) named ends = a at h
  induction h with
  | done =>
    cases arrived
    exact .done
  | stay directory _ ih => exact .stay (grows.isDirectoryAt directory) (ih arrived)
  | up directory _ ih => exact .up (grows.isDirectoryAt directory) (ih arrived)
  | vacant => cases arrived
  | @kept _ here name _ _ passable linked unfollowed =>
    cases arrived
    have still := grows.entry (here ++ [name])
    rw [linked] at still
    rw [still.link]
    exact .kept (passable.grow grows) still.link unfollowed
  | @followed _ here name _ _ _ _ passable linked follows _ ih =>
    have still := grows.entry (here ++ [name])
    rw [linked] at still
    exact .followed (passable.grow grows) still.link follows (ih arrived)
  | @found _ here name _ _ passable lies no_link =>
    cases arrived
    have still := grows.entry (here ++ [name])
    rw [lies] at still
    obtain ⟨e', lies', no_link'⟩ := still.exists_of_not_link no_link
    rw [lies']
    exact .found (passable.grow grows) lies' no_link'
  | @down _ here name _ _ _ _ _ passable lies no_link _ ih =>
    have still := grows.entry (here ++ [name])
    rw [lies] at still
    obtain ⟨e', lies', no_link'⟩ := still.exists_of_not_link no_link
    exact .down (passable.grow grows) lies' no_link' (ih arrived)

/-- A path is walked if its text is one that the system takes. -/
theorem walk_eq_ok_iff {d : Disk} {last : LastName} {path : Path} {a : Arrival} :
    d.walk last path = .ok a ↔
      (path.bytes.contains 0 = false ∧ path.bytes ≠ [] ∧
        ¬path.bytes.length > maxPathBytes) ∧
      d.Walks last maxLinks (if Path.isAbsolute path then [] else d.cwd) (Path.steps path)
        (Path.endsInSlash path) a := by
  unfold walk
  split
  · simp_all
  split
  · simp_all
  split
  · simp_all
  split
  · simp_all [walkFrom_eq_ok_iff]
  split
  · simp_all [walkFrom_eq_ok_iff]
  · -- the working directory is gone, and a relative path has a first step
    next nonempty _ relative gone =>
    refine ⟨nofun, fun ⟨_, walked⟩ => ?_⟩
    have steps := Path.steps_ne_nil (Bool.eq_false_of_not_eq_true relative) nonempty
    exact absurd (walked.directory_of_more steps) gone

theorem walk_grow {d d' : Disk} (grows : d.Grows d') {last : LastName} {path : Path}
    {l : Location} {e : Entry} {named ends : Bool}
    (h : d.walk last path = .ok ⟨.found l e, named, ends⟩) :
    d'.walk last path = .ok ⟨.found l ((d'.at? l).getD .directory), named, ends⟩ := by
  obtain ⟨legal, walked⟩ := walk_eq_ok_iff.mp h
  rw [← grows.cwd_eq] at walked
  exact walk_eq_ok_iff.mpr ⟨legal, walked.grow grows⟩

/-- A path leads to the entry that it arrives at, unless that is no directory and a slash
stands behind it. -/
theorem find_eq_ok_iff {d : Disk} {path : Path} {l : Location} {e : Entry} :
    d.find path = .ok (l, e) ↔ ∃ named slash,
      d.walk .followed path = .ok ⟨.found l e, named, slash⟩ ∧ (slash = true → e = .directory) := by
  unfold find
  cases walked : d.walk .followed path with
  | error failure => simp [bind, Except.bind]
  | ok a =>
    obtain ⟨place | place, named, slash⟩ := a
    · simp only [bind, Except.bind, Arrival.entry, Except.ok.injEq, Arrival.mk.injEq,
        Place.found.injEq]
      constructor
      · intro found
        split at found
        · cases found
        · next unslashed =>
          cases found
          exact ⟨named, slash, ⟨⟨rfl, rfl⟩, rfl, rfl⟩, by simpa using unslashed⟩
      · rintro ⟨_, _, ⟨⟨rfl, rfl⟩, rfl, rfl⟩, unslashed⟩
        rw [if_neg (by simpa using unslashed)]
    · simp [bind, Except.bind, Arrival.entry]

/-- The content of the file at a location. -/
def fileAt? (d : Disk) (l : Location) : Option Bytes :=
  match d.at? l with
  | some (.file data _) => some data
  | _ => none

theorem fileAt?_eq_some_iff {d : Disk} {l : Location} {data : Bytes} :
    d.fileAt? l = some data ↔ ∃ executable, d.at? l = some (.file data executable) := by
  unfold fileAt?
  split
  · next here => simp [here]
  · next other =>
    refine ⟨nofun, ?_⟩
    rintro ⟨executable, here⟩
    exact absurd here (other data executable)

theorem fileAt?_of_find {d : Disk} {path : Path} {l : Location} {data : Bytes}
    {executable : Bool} (h : d.find path = .ok (l, .file data executable)) :
    d.fileAt? l = some data := by
  obtain ⟨_, _, walked, -⟩ := find_eq_ok_iff.mp h
  exact fileAt?_eq_some_iff.mpr ⟨executable, (walk_eq_ok_iff.mp walked).2.at?_eq nofun⟩

theorem read_of_find {d : Disk} {path : Path} {l : Location} {data : Bytes}
    {executable : Bool} (h : d.find path = .ok (l, .file data executable)) :
    d.read path = .ok data := by
  unfold read
  rw [h]
  rfl

theorem readText_of_find {d : Disk} {path : Path} {text : String} {l : Location} {executable : Bool}
    (found : d.find path = .ok (l, .file (Utf8.encode text) executable)) :
    d.readText path = .ok text := by
  rw [readText, read_of_find found]
  dsimp only
  rw [Utf8.decode?_encode]

/-- A path that leads to a file leads to the same place when the disk has grown. -/
theorem find_grow {d d' : Disk} (grows : d.Grows d') {path : Path} {l : Location}
    {old new : Bytes} {executable : Bool} (h : d.find path = .ok (l, .file old executable))
    (holds : d'.fileAt? l = some new) :
    ∃ executable', d'.find path = .ok (l, .file new executable') := by
  obtain ⟨named, slash, walked, unslashed⟩ := find_eq_ok_iff.mp h
  obtain ⟨executable', here⟩ := fileAt?_eq_some_iff.mp holds
  refine ⟨executable', find_eq_ok_iff.mpr ⟨named, slash, ?_, fun slashed => ?_⟩⟩
  · simpa [here] using walk_grow grows walked
  · cases unslashed slashed

/-- The file that a path leads to is the file that is written at that path. -/
theorem write_of_find {d : Disk} {path : Path} {l : Location} {old : Bytes}
    {executable : Bool} (h : d.find path = .ok (l, .file old executable)) (data : Bytes) :
    ∃ d', d.write path data = .ok d' ∧ d.Grows d' ∧ d'.fileAt? l = some data := by
  obtain ⟨named, slash, walked, unslashed⟩ := find_eq_ok_iff.mp h
  obtain ⟨legal, walks⟩ := walk_eq_ok_iff.mp walked
  have here := walks.at?_eq nofun
  have below : l ≠ [] := by
    rintro rfl
    cases here
  have plain : slash = false := by
    cases slash with
    | false => rfl
    | true => cases unslashed rfl
  refine ⟨d.put l (.file data executable), ?_, grows_put fun _ => ?_, ?_⟩
  · unfold write
    rw [walk_eq_ok_iff.mpr ⟨legal, walks.opened plain⟩]
    rfl
  · rw [here]
    exact .rewritten old data executable executable
  · rw [fileAt?, at?_put_self d below]

/-- A write leaves the disk as it is, or puts a file where there was one or nothing. -/
theorem write_cases {d d' : Disk} {path : Path} {data : Bytes}
    (h : d.write path data = .ok d') :
    d' = d ∨ ∃ a executable, d.walk .opened path = .ok a ∧
      d' = d.put a.place.location (.file data executable) ∧
      Entry.Grows (d.at? a.place.location) (some (.file data executable)) := by
  unfold write at h
  cases walked : d.walk .opened path with
  | error e =>
    rw [walked] at h
    cases h
  | ok a =>
    have walks := (walk_eq_ok_iff.mp walked).2
    rw [walked] at h
    obtain ⟨⟨l, e⟩ | ⟨directory, name⟩, named, slash⟩ := a
    · cases e with
      | file old executable =>
        cases h
        refine .inr ⟨_, executable, rfl, rfl, ?_⟩
        rw [Place.location, walks.at?_eq nofun]
        exact .rewritten old data executable executable
      | directory => cases h
      | link target =>
        cases h
        exact .inl rfl
      | special s =>
        cases s with
        | command name => cases h
        | _ =>
          cases h
          exact .inl rfl
    · cases h
      refine .inr ⟨_, false, rfl, rfl, ?_⟩
      rw [Place.location, walks.free]
      exact .written data false

/-- The disk has grown, and the file at the location is what it was. -/
structure GrowsBeside (l : Location) (d d' : Disk) : Prop where
  grows : d.Grows d'
  fileAt?_eq : d'.fileAt? l = d.fileAt? l

theorem GrowsBeside.refl (l : Location) (d : Disk) : d.GrowsBeside l d := ⟨.refl d, rfl⟩

theorem GrowsBeside.trans {l : Location} {d d' d'' : Disk} (h : GrowsBeside l d d')
    (h' : GrowsBeside l d' d'') : GrowsBeside l d d'' :=
  ⟨h.grows.trans h'.grows, h'.fileAt?_eq.trans h.fileAt?_eq⟩

theorem growsBeside_write {d d' : Disk} {path : Path} {data : Bytes} {l : Location}
    (h : d.write path data = .ok d')
    (apart : ∀ a, d.walk .opened path = .ok a → a.place.location ≠ l) : GrowsBeside l d d' := by
  rcases write_cases h with rfl | ⟨a, executable, walked, rfl, grown⟩
  · exact .refl l d'
  · refine ⟨grows_put fun _ => grown, ?_⟩
    rw [fileAt?, at?_put_of_ne d (Ne.symm (apart a walked))]
    rfl

/-- A directory is made at a free name, where nothing keeps it from being made. -/
theorem put_of_makeDirectory {d d' : Disk} {path : Path} (h : d.makeDirectory path = .ok d') :
    ∃ directory name named slash, d.walk .listed path = .ok ⟨.vacant directory name, named, slash⟩ ∧
      d' = d.put (directory ++ [name]) .directory := by
  unfold makeDirectory make at h
  cases walked : d.walk .listed path with
  | error e =>
    rw [walked] at h
    cases h
  | ok a =>
    rw [walked] at h
    obtain ⟨⟨m, e⟩ | ⟨directory, name⟩, named, slash⟩ := a
    · cases h
    · have made : d' = d.put (directory ++ [name]) .directory := by
        cases faulty : d.fault? (directory ++ [name]) <;>
          simp [bind, Except.bind, pure, Except.pure, throw, throwThe, MonadExceptOf.throw,
            faulty] at h
        exact h.symm
      exact ⟨directory, name, named, slash, rfl, made⟩

theorem growsBeside_makeDirectory {d d' : Disk} {path : Path}
    (h : d.makeDirectory path = .ok d') (l : Location) : GrowsBeside l d d' := by
  obtain ⟨directory, name, _, _, walked, rfl⟩ := put_of_makeDirectory h
  have free := (walk_eq_ok_iff.mp walked).2.free
  refine ⟨grows_put fun _ => free ▸ .made, ?_⟩
  by_cases here : l = directory ++ [name]
  · subst here
    rw [fileAt?, fileAt?, at?_put_self d (by simp), free]
  · rw [fileAt?, at?_put_of_ne d here]
    rfl

theorem growsBeside_ensureDirectory {d d' : Disk} {path : Path}
    (h : d.ensureDirectory path = .ok d') (l : Location) : GrowsBeside l d d' := by
  unfold ensureDirectory at h
  cases made : d.makeDirectory path with
  | ok d'' =>
    rw [made] at h
    cases h
    exact growsBeside_makeDirectory made l
  | error e =>
    rw [made] at h
    dsimp only at h
    split at h
    · cases h
      exact .refl l d
    · cases h

/-- Making directories touches no file, even where it fails on the way. -/
theorem growsBeside_makeDirectories (d : Disk) (path : Path) (l : Location) :
    GrowsBeside l d (d.makeDirectories path).2 := by
  fun_induction makeDirectories d path with
  | case1 | case3 | case7 => exact .refl l d
  | case2 _ _ _ made => exact growsBeside_makeDirectory made l
  | case4 _ _ _ _ _ _ _ above ih =>
    rw [above] at ih
    exact ih
  | case5 _ _ _ _ _ _ above _ made ih =>
    rw [above] at ih
    exact ih.trans (growsBeside_ensureDirectory made l)
  | case6 _ _ _ _ _ _ above _ _ ih =>
    rw [above] at ih
    exact ih

end Disk

end Mender
