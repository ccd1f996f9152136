import Mender.Proofs.Disk.Below
import Mender.Proofs.Disk.Planted
import Mender.Proofs.Path.Naming

/-!
# Places that paths name

A path with a file name names a place: the name, in the directory that the path above it leads
to. Unless a link lies there, that place is where the path is walked to, where a file is
written, and what a renaming takes away or fills.
-/

namespace Mender.Disk

/-- The place that the path gives its file name, whatever lies there. -/
def Names (d : Disk) (path : Path) (l : Location) : Prop :=
  ∃ parent name home, Path.Parts path parent name ∧ d.LeadsTo parent home ∧ l = home ++ [name]

variable {d d' : Disk} {l m home : Location} {path parent name : Path} {last : LastName}
  {links : Nat} {slash : Bool} {a : Arrival} {here : Location} {rest : List Path.Step}

theorem names_iff (parts : Path.Parts path parent name) :
    d.Names path l ↔ ∃ home, d.LeadsTo parent home ∧ l = home ++ [name] := by
  constructor
  · rintro ⟨parent', name', home, parts', led, rfl⟩
    obtain rfl := Option.some.inj (parts.above.symm.trans parts'.above)
    obtain rfl := Option.some.inj (parts.last.symm.trans parts'.last)
    exact ⟨home, led, rfl⟩
  · rintro ⟨home, led, rfl⟩
    exact ⟨parent, name, home, parts, led, rfl⟩

theorem Names.unique (h : d.Names path l) (h' : d.Names path m) : l = m := by
  obtain ⟨parent, name, home, parts, led, rfl⟩ := h
  obtain ⟨home', led', rfl⟩ := (names_iff parts).mp h'
  rw [led.unique led']

theorem Grows.names_iff (grows : d.Grows d') : d'.Names path l ↔ d.Names path l := by
  unfold Names
  simp only [grows.leadsTo_iff]

/-- The path names no link. -/
def Unlinked (d : Disk) (path : Path) : Prop :=
  ∀ l target, d.Names path l → d.at? l ≠ some (.link target)

/-- It is enough to look where the path leads. -/
theorem Names.unlinked (h : d.Names path l) (no_link : ∀ target, d.at? l ≠ some (.link target)) :
    d.Unlinked path := by
  intro m target names
  rw [names.unique h]
  exact no_link target

theorem Unlinked.grow (h : d.Unlinked path) (grows : d.Grows d') : d'.Unlinked path := by
  intro l target names linked
  exact h l target (grows.names_iff.mp names) (grows.link_iff.mp linked)

/-- A walk that stays first goes on from where it is. -/
theorem Walks.of_stays {n : Nat}
    (h : d.Walks last links here (List.replicate n .stay ++ rest) slash a) :
    d.Walks last links here rest slash a := by
  induction n with
  | zero => exact h
  | succ n ih =>
    rw [List.replicate_succ, List.cons_append] at h
    cases h with
    | stay _ walked => exact ih walked

/-- A path that names no link is walked to the place that it names, in a directory. -/
theorem place_of_walk (parts : Path.Parts path parent name) (unlinked : d.Unlinked path)
    (h : d.walk last path = .ok a) :
    ∃ home, d.LeadsTo parent home ∧ d.isDirectoryAt home = true ∧
      a.place = d.placeAt home name := by
  obtain ⟨-, walks⟩ := walk_eq_ok_iff.mp h
  obtain ⟨m, n, steps⟩ := parts.steps_eq
  rw [steps] at walks
  obtain ⟨home, links, led, walks⟩ := walks.split (by simp)
  have leads : d.LeadsTo parent home := by
    rw [LeadsTo, start, Path.isAbsolute_parent? parts.above]
    exact led
  have no_link (target : Path) : d.at? (home ++ [name]) ≠ some (.link target) :=
    unlinked _ target ((names_iff parts).mpr ⟨home, leads, rfl⟩)
  have walks := walks.of_stays
  refine ⟨home, leads, walks.directory_of_more (List.cons_ne_nil _ _), ?_⟩
  unfold placeAt
  generalize stays : List.replicate n Path.Step.stay = behind at walks
  cases walks with
  | vacant _ free => rw [free]
  | kept _ linked | followed _ linked => exact absurd linked (no_link _)
  | found _ lies => rw [lies]
  | down _ lies _ walked =>
    -- the walk goes on by staying, and so it ends in the directory of that name
    have directory := of_decide_eq_true (walked.directory_of_more (List.cons_ne_nil _ _))
    rw [← stays, ← List.append_nil (List.replicate n _)] at walked
    have done := walked.of_stays
    cases done
    rw [directory]
    rfl

/-- A name below a directory is walked to, unless it is that of a link. -/
theorem walk_placeAt {base : Path} (opens : d.Opens base home) (legal : Legal base name)
    (no_link : ∀ target, d.at? (home ++ [name]) ≠ some (.link target)) :
    d.walk last (Path.join base name) = .ok ⟨d.placeAt home name, true, false⟩ := by
  have passable : d.Passable last home name [] false := ⟨opens.directory, by simp, legal.short⟩
  refine walk_join opens legal fun links => ?_
  unfold placeAt
  cases there : d.at? (home ++ [name]) with
  | none => exact .vacant passable there
  | some e =>
    exact .found passable there fun target linked => no_link target (linked ▸ there)

/-- What a write has left at the place that its path names: the data, or something special that
was there already and has taken them in. -/
structure Delivered (d d' : Disk) (l : Location) (data : Bytes) (e : Entry) : Prop where
  lies : d'.at? l = some e
  kind : (∃ executable, e = .file data executable) ∨
    ∃ special, e = .special special ∧ d.at? l = some (.special special)
  grows : d.Grows d'
  elsewhere : ∀ place, place ≠ l → d'.at? place = d.at? place
  planted : d'.Planted

theorem Delivered.no_directory {data : Bytes} {e : Entry} (h : Delivered d d' l data e) :
    e ≠ .directory := by
  rcases h.kind with ⟨_, rfl⟩ | ⟨_, rfl, -⟩ <;> exact nofun

theorem Delivered.no_link {data : Bytes} {e : Entry} (h : Delivered d d' l data e)
    (target : Path) : e ≠ .link target := by
  rcases h.kind with ⟨_, rfl⟩ | ⟨_, rfl, -⟩ <;> exact nofun

theorem delivered_of_write {data : Bytes} (planted : d.Planted)
    (parts : Path.Parts path parent name) (unlinked : d.Unlinked path)
    (h : d.write path data = .ok d') :
    ∃ home e, d.LeadsTo parent home ∧ Delivered d d' (home ++ [name]) data e := by
  unfold write at h
  cases walked : d.walk .opened path with
  | error e =>
    rw [walked] at h
    cases h
  | ok a =>
    obtain ⟨home, led, directory, place⟩ := place_of_walk parts unlinked walked
    have below : home ++ [name] ≠ [] := by simp
    have filed (executable : Bool)
        (loose : Entry.Grows (d.at? (home ++ [name])) (some (.file data executable)))
        (no_directory : d.isDirectoryAt (home ++ [name]) = false) :
        Delivered d (d.put (home ++ [name]) (.file data executable)) (home ++ [name]) data
          (.file data executable) :=
      ⟨at?_put_self d below _, .inl ⟨executable, rfl⟩, grows_put fun _ => loose,
        fun place other => at?_put_of_ne d other _, planted.put directory no_directory _⟩
    rw [walked] at h
    refine ⟨home, ?_⟩
    unfold placeAt at place
    cases there : d.at? (home ++ [name]) with
    | none =>
      rw [there] at place
      simp only [bind, Except.bind, place] at h
      cases h
      exact ⟨_, led, filed false (there ▸ .written data false) (by simp [isDirectoryAt, there])⟩
    | some e =>
      rw [there] at place
      simp only [bind, Except.bind, place] at h
      cases e with
      | file old executable =>
        cases h
        exact ⟨_, led, filed executable (there ▸ .rewritten old data executable executable)
          (by simp [isDirectoryAt, there])⟩
      | directory => cases h
      | link target =>
        exact absurd there (unlinked _ target ((names_iff parts).mpr ⟨home, led, rfl⟩))
      | special special =>
        have same : d' = d := by
          cases special <;> cases h <;> rfl
        subst same
        exact ⟨_, led, there, .inr ⟨special, rfl, there⟩, .refl d', fun _ _ => rfl, planted⟩

/-- A path that names a free place leads to nothing. -/
theorem Names.not_pathExists (names : d.Names path l) (free : d.at? l = none) :
    d.pathExists path = false := by
  have unlinked : d.Unlinked path := names.unlinked (by simp [free])
  obtain ⟨parent, name, home, parts, led, rfl⟩ := names
  unfold pathExists
  cases found : d.find path with
  | error e => rfl
  | ok there =>
    obtain ⟨m, e⟩ := there
    obtain ⟨_, _, walked, -⟩ := find_eq_ok_iff.mp found
    obtain ⟨home', led', -, place⟩ := place_of_walk parts unlinked walked
    obtain rfl := led'.unique led
    rw [placeAt, free] at place
    cases place

/-- No link comes or goes where something else gets another place. -/
theorem Exchanged.link_iff {e : Entry} (h : Exchanged d d' l m e) (lies : d.at? l = some e)
    (no_link : ∀ target, e ≠ .link target) (unlinked : ∀ target, d.at? m ≠ some (.link target))
    (place : Location) (target : Path) :
    d'.at? place = some (.link target) ↔ d.at? place = some (.link target) := by
  by_cases at_old : place = l
  · subst at_old
    rw [h.gone, lies]
    simpa using no_link target
  by_cases at_new : place = m
  · subst at_new
    rw [h.lies]
    simpa [no_link target] using unlinked target
  · rw [h.elsewhere place at_old at_new]

theorem Exchanged.leadsTo {e : Entry} (h : Exchanged d d' l m e) (lies : d.at? l = some e)
    (no_link : ∀ target, e ≠ .link target) (unlinked : ∀ target, d.at? m ≠ some (.link target))
    (led : d.LeadsTo path home) : d'.LeadsTo path home := by
  rw [LeadsTo, start, h.cwd_eq]
  exact led.of_links (h.link_iff lies no_link unlinked)

/-- Something else than a directory that gets another name in its directory lies under that name
afterwards, and no longer under the old one. -/
theorem exchanged_of_rename {source target name' : Path} {e : Entry} (planted : d.Planted)
    (old : Path.Parts source parent name) (new : Path.Parts target parent name')
    (other : name ≠ name') (led : d.LeadsTo parent home)
    (lies : d.at? (home ++ [name]) = some e) (no_directory : e ≠ .directory)
    (no_link : ∀ target, e ≠ .link target) (unlinked : d.Unlinked target)
    (h : d.rename source target = .ok d') :
    Exchanged d d' (home ++ [name]) (home ++ [name']) e ∧
      d'.find target = .ok (home ++ [name'], e) ∧ d'.pathExists source = false := by
  have source_named : d.Names source (home ++ [name]) := (names_iff old).mpr ⟨home, led, rfl⟩
  have target_named : d.Names target (home ++ [name']) := (names_iff new).mpr ⟨home, led, rfl⟩
  have apart : home ++ [name'] ≠ home ++ [name] := by simpa using Ne.symm other
  have arrives {b : Arrival} (arrived : d.walk .listed target = .ok b) :
      b.place.location = home ++ [name'] := by
    obtain ⟨home', led', -, place⟩ := place_of_walk new unlinked arrived
    rw [place, location_placeAt, led'.unique led]
  cases walked : d.walk .listed source with
  | error e =>
    have moved := move_of_rename h
    rw [move, walked] at moved
    cases moved
  | ok a =>
    have source_unlinked : d.Unlinked source :=
      source_named.unlinked fun target linked =>
        no_link target (Option.some.inj (lies.symm.trans linked))
    obtain ⟨home', led', -, place⟩ := place_of_walk old source_unlinked walked
    obtain rfl := led'.unique led
    obtain ⟨a_place, a_named, a_slash⟩ := a
    rw [placeAt, lies] at place
    obtain rfl : a_place = .found (home' ++ [name]) e := place
    obtain ⟨b, arrived, -, -, moved⟩ := moved_of_rename h walked no_directory
    obtain ⟨b', arrived', found⟩ := find_of_rename (planted.rooted.start arrived) h walked
      no_directory no_link fun b arrived target =>
        unlinked _ target (arrives arrived ▸ target_named)
    rw [arrives arrived] at moved
    rw [arrives arrived'] at found
    have leaf : d.Leaf (home' ++ [name]) := planted.leaf (by simpa [isDirectoryAt, lies])
    have exchanged := moved.exchanged leaf lies (by simp) apart
    have still : d'.LeadsTo parent home' :=
      exchanged.leadsTo lies no_link (fun target => unlinked _ target target_named) led
    have names : d'.Names source (home' ++ [name]) := (names_iff old).mpr ⟨home', still, rfl⟩
    exact ⟨exchanged, found, names.not_pathExists exchanged.gone⟩

end Mender.Disk
