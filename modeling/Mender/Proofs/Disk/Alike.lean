import Mender.Proofs.Disk.Leading

/-!
# Disks that differ in files only

No path goes through a file. So on two disks that have the same directories and links, and
differ only in which files there are and in what these hold, a path that leads by a name to a
file leads to the same place, whatever has become of the file.
-/

namespace Mender

/-- A file, or nothing: what comes and goes without a change to where paths lead. -/
def Entry.IsLoose (e? : Option Entry) : Prop :=
  e? = none ∨ ∃ data executable, e? = some (.file data executable)

namespace Disk

/-- Only files have come, gone or changed between the two disks. -/
structure Alike (d d' : Disk) : Prop where
  cwd_eq : d'.cwd = d.cwd
  faults_eq : d'.faults = d.faults
  entry : ∀ l, d'.at? l = d.at? l ∨ (Entry.IsLoose (d.at? l) ∧ Entry.IsLoose (d'.at? l))

variable {d d' d'' : Disk} {last : LastName} {links : Nat} {here l m : Location}
  {steps : List Path.Step} {slash : Bool} {a : Arrival} {path : Path}

theorem Alike.refl (d : Disk) : d.Alike d := ⟨rfl, rfl, fun _ => .inl rfl⟩

/-- What is neither a file nor nothing is the same on both. -/
theorem Alike.eq_of_fast (h : d.Alike d') {e : Entry} (lies : d.at? l = some e)
    (fast : ∀ data executable, e ≠ .file data executable) : d'.at? l = some e := by
  rcases h.entry l with same | ⟨loose, -⟩
  · exact same.trans lies
  · rw [lies] at loose
    rcases loose with none | ⟨data, executable, file⟩
    · cases none
    · exact absurd (Option.some.inj file) (fast data executable)

theorem Alike.isDirectoryAt (h : d.Alike d') (directory : d.isDirectoryAt l = true) :
    d'.isDirectoryAt l = true :=
  decide_eq_true (h.eq_of_fast (of_decide_eq_true directory) nofun)

theorem Alike.loose (h : d.Alike d') (loose : Entry.IsLoose (d.at? l)) :
    Entry.IsLoose (d'.at? l) := by
  rcases h.entry l with same | ⟨-, loose'⟩
  · rw [same]
    exact loose
  · exact loose'

theorem Passable.alike {name : Path} {rest : List Path.Step}
    (h : d.Passable last here name rest slash) (alike : d.Alike d') :
    d'.Passable last here name rest slash :=
  ⟨alike.isDirectoryAt h.directory, h.may_open, h.short⟩

/-- What lies under a name in a directory, or that nothing does. -/
def placeAt (d : Disk) (directory : Location) (name : Path) : Place :=
  match d.at? (directory ++ [name]) with
  | some e => .found (directory ++ [name]) e
  | none => .vacant directory name

/-- Whether or not there is a file under the last name of a walk, the walk gets there. -/
theorem Walks.of_loose {name : Path} (passable : d.Passable last here name [] slash)
    (loose : Entry.IsLoose (d.at? (here ++ [name]))) :
    d.Walks last links here [.down name] slash ⟨d.placeAt here name, true, slash⟩ := by
  unfold placeAt
  rcases loose with free | ⟨data, executable, lies⟩
  · rw [free]
    exact .vacant passable free
  · rw [lies]
    exact .found passable lies nofun

/-- A walk that ends by a name at a file, or where there may be one, goes to the same place on
a disk that differs in files only. -/
theorem Walks.alike (h : d.Walks last links here steps slash a) (alike : d.Alike d')
    (named : a.named = true) (loose : Entry.IsLoose (d.at? a.place.location)) :
    ∃ directory name, a.place.location = directory ++ [name] ∧
      d'.Walks last links here steps slash ⟨d'.placeAt directory name, true, a.slash⟩ := by
  induction h with
  | done => cases named
  | stay directory _ ih =>
    obtain ⟨m, name, same, walked⟩ := ih named loose
    exact ⟨m, name, same, .stay (alike.isDirectoryAt directory) walked⟩
  | up directory _ ih =>
    obtain ⟨m, name, same, walked⟩ := ih named loose
    exact ⟨m, name, same, .up (alike.isDirectoryAt directory) walked⟩
  | @vacant _ here name _ passable free =>
    exact ⟨here, name, rfl, .of_loose (passable.alike alike) (alike.loose loose)⟩
  | kept _ linked =>
    rw [Place.location, linked] at loose
    rcases loose with none | ⟨_, _, file⟩
    · cases none
    · cases file
  | followed passable linked follows _ ih =>
    obtain ⟨m, name, same, walked⟩ := ih named loose
    exact ⟨m, name, same,
      .followed (passable.alike alike) (alike.eq_of_fast linked (by simp)) follows walked⟩
  | @found _ here name _ _ passable =>
    exact ⟨here, name, rfl, .of_loose (passable.alike alike) (alike.loose loose)⟩
  | @down _ here name _ _ _ _ _ passable lies _ walked ih =>
    obtain ⟨m, name', same, walked'⟩ := ih named loose
    -- the walk goes on, so what it goes through is a directory
    have directory := of_decide_eq_true (walked.directory_of_more (List.cons_ne_nil _ _))
    exact ⟨m, name', same,
      .down (passable.alike alike) (alike.eq_of_fast directory (by simp)) (by simp) walked'⟩

/-- The path leads by a name to the place, where there is a file or may be one. -/
structure Houses (d : Disk) (path : Path) (l : Location) : Prop where
  loose : Entry.IsLoose (d.at? l)
  arrives : ∃ directory name, l = directory ++ [name] ∧
    d.walk .opened path = .ok ⟨d.placeAt directory name, true, false⟩

theorem location_placeAt (d : Disk) (directory : Location) (name : Path) :
    (d.placeAt directory name).location = directory ++ [name] := by
  unfold placeAt
  cases d.at? (directory ++ [name]) <;> rfl

theorem Houses.alike (h : d.Houses path l) (alike : d.Alike d') : d'.Houses path l := by
  obtain ⟨loose, directory, name, rfl, walked⟩ := h
  refine ⟨alike.loose loose, directory, name, rfl, ?_⟩
  obtain ⟨legal, walks⟩ := walk_eq_ok_iff.mp walked
  obtain ⟨directory', name', same, walks'⟩ :=
    walks.alike alike rfl (by rw [location_placeAt]; exact loose)
  rw [location_placeAt] at same
  obtain ⟨rfl, rfl⟩ := List.append_inj' same rfl |>.imp_right List.singleton_inj.mp
  rw [← alike.cwd_eq] at walks'
  exact walk_eq_ok_iff.mpr ⟨legal, walks'⟩

/-- All that lies above a directory are directories. -/
def Rooted (d : Disk) : Prop :=
  ∀ l place, d.isDirectoryAt l = true → place <+: l → d.isDirectoryAt place = true

/-- A path that can be walked is walked from directories. -/
theorem Rooted.start (rooted : d.Rooted) (h : d.walk last path = .ok a) :
    ∀ place, place <+: d.start path → d.isDirectoryAt place = true := by
  obtain ⟨⟨-, nonempty, -⟩, walks⟩ := walk_eq_ok_iff.mp h
  intro place above
  unfold Disk.start at above
  split at above
  · rw [List.prefix_nil.mp above]
    rfl
  · next relative =>
    rw [if_neg relative] at walks
    have steps := Path.steps_ne_nil (Bool.eq_false_of_not_eq_true relative) nonempty
    exact rooted _ place (walks.directory_of_more steps) above

/-- A path that leads to a file leads there by a name. -/
theorem houses_of_find (rooted : d.Rooted) {data : Bytes} {executable : Bool}
    (h : d.find path = .ok (l, .file data executable)) : d.Houses path l := by
  obtain ⟨named, slash, walked, unslashed⟩ := find_eq_ok_iff.mp h
  obtain ⟨legal, walks⟩ := walk_eq_ok_iff.mp walked
  have lies := walks.at?_eq nofun
  have loose : Entry.IsLoose (d.at? l) := .inr ⟨data, executable, lies⟩
  obtain rfl : slash = false := by
    cases slash with
    | false => rfl
    | true => cases unslashed rfl
  have by_name : named = true := by
    cases named with
    | true => rfl
    | false =>
      obtain ⟨_, directory⟩ := walks.directory_of_unnamed (rooted.start walked) rfl
      cases directory
  obtain ⟨directory, name, same, walks'⟩ := (walks.opened rfl).alike (.refl d) by_name loose
  exact ⟨loose, directory, name, same, walk_eq_ok_iff.mpr ⟨legal, walks'⟩⟩

/-- What a path leads to by a name is the file there, if there is one. -/
theorem Houses.find_eq (h : d.Houses path l) :
    d.find path = match d.at? l with
      | some e => .ok (l, e)
      | none => .error .notFound := by
  obtain ⟨-, directory, name, rfl, walked⟩ := h
  obtain ⟨legal, walks⟩ := walk_eq_ok_iff.mp walked
  have sought : d.walk .followed path = .ok ⟨d.placeAt directory name, true, false⟩ :=
    walk_eq_ok_iff.mpr ⟨legal, walks.sought⟩
  rw [find, sought]
  unfold placeAt
  cases d.at? (directory ++ [name]) <;> rfl

theorem Houses.isDirectory (h : d.Houses path l) : d.isDirectory path = false := by
  have found := h.find_eq
  unfold Disk.isDirectory
  rw [found]
  rcases h.loose with free | ⟨data, executable, lies⟩
  · rw [free]
  · rw [lies]

/-- What is read at such a path is what the file holds, or nothing. -/
theorem Houses.read (h : d.Houses path l) : (d.read path).toOption = d.fileAt? l := by
  unfold Disk.read fileAt?
  rw [h.find_eq]
  rcases h.loose with free | ⟨data, executable, lies⟩
  · rw [free]
    rfl
  · rw [lies]
    rfl

theorem Houses.readText (h : d.Houses path l) :
    (d.readText path).toOption = (d.fileAt? l).bind Utf8.decode? := by
  rw [← h.read, Disk.readText]
  cases d.read path with
  | error e => rfl
  | ok data => cases decoded : Utf8.decode? data <;> simp [decoded, Except.toOption]

/-- Nothing has changed but that the file at the place has come, gone or changed. -/
structure Touches (d : Disk) (l : Location) (d' : Disk) : Prop where
  cwd_eq : d'.cwd = d.cwd
  faults_eq : d'.faults = d.faults
  elsewhere : ∀ m, m ≠ l → d'.at? m = d.at? m
  loose : Entry.IsLoose (d'.at? l)

theorem Touches.refl (loose : Entry.IsLoose (d.at? l)) : d.Touches l d :=
  ⟨rfl, rfl, fun _ _ => rfl, loose⟩

theorem Touches.trans (h : d.Touches l d') (h' : d'.Touches l d'') : d.Touches l d'' :=
  ⟨h'.cwd_eq.trans h.cwd_eq, h'.faults_eq.trans h.faults_eq,
    fun m other => (h'.elsewhere m other).trans (h.elsewhere m other), h'.loose⟩

theorem Touches.alike (h : d.Touches l d') (loose : Entry.IsLoose (d.at? l)) : d.Alike d' := by
  refine ⟨h.cwd_eq, h.faults_eq, fun m => ?_⟩
  by_cases here : m = l
  · subst here
    exact .inr ⟨loose, h.loose⟩
  · exact .inl (h.elsewhere m here)

theorem Touches.houses (h : d.Touches l d') (housed : d.Houses path l) : d'.Houses path l :=
  housed.alike (h.alike housed.loose)

/-- What is written at such a path goes to its place and to no other. -/
theorem Houses.write (h : d.Houses path l) (data : Bytes) :
    ∃ d', d.write path data = .ok d' ∧ d.Touches l d' ∧ d'.fileAt? l = some data := by
  obtain ⟨loose, directory, name, rfl, walked⟩ := h
  have below : directory ++ [name] ≠ [] := by simp
  have put (executable : Bool) :
      d.Touches (directory ++ [name]) (d.put (directory ++ [name]) (.file data executable)) ∧
        (d.put (directory ++ [name]) (.file data executable)).fileAt? (directory ++ [name]) =
          some data := by
    have lies := at?_put_self d below (.file data executable)
    exact ⟨⟨rfl, rfl, fun m other => at?_put_of_ne d other _, .inr ⟨_, _, lies⟩⟩,
      fileAt?_eq_some_iff.mpr ⟨_, lies⟩⟩
  unfold Disk.write
  rw [walked]
  unfold placeAt
  rcases loose with free | ⟨old, executable, lies⟩
  · rw [free]
    exact ⟨_, rfl, put false⟩
  · rw [lies]
    exact ⟨_, rfl, put executable⟩

/-- What comes of replacing the bytes of a file and what it holds then, by the fault at its place
and by what it held. -/
def renewed (fault? : Option Fault) (held? : Option Bytes) (data : Bytes) :
    Except SystemError Unit × Option Bytes :=
  match fault? with
  | none => (.ok (), some data)
  | some ⟨none, e⟩ => (.error e, held?)
  | some ⟨some room, e⟩ =>
    if data.length ≤ room then (.ok (), some data) else (.error e, some (data.take room))

/-- What is replaced at such a path goes by its place, and to no other. -/
theorem Houses.replace (h : d.Houses path l) (data : Bytes) :
    ∃ d', d.replace path data = ((renewed (d.fault? l) (d.fileAt? l) data).1, d') ∧
      d.Touches l d' ∧ d'.fileAt? l = (renewed (d.fault? l) (d.fileAt? l) data).2 := by
  have here : ((d.walk .opened path).toOption.bind fun a => d.fault? a.place.location) =
      d.fault? l := by
    obtain ⟨-, directory, name, rfl, walked⟩ := id h
    rw [walked, ← location_placeAt]
    rfl
  have wrote (bytes : Bytes) := h.write bytes
  unfold Disk.replace renewed
  rw [here]
  cases d.fault? l with
  | none =>
    obtain ⟨d', written, after⟩ := wrote data
    exact ⟨d', by simp [written], after⟩
  | some fault =>
    obtain ⟨_ | room, e⟩ := fault
    · exact ⟨d, rfl, .refl h.loose, rfl⟩
    · dsimp only
      by_cases fits : data.length ≤ room
      · obtain ⟨d', written, after⟩ := wrote data
        rw [if_pos fits, if_pos fits]
        exact ⟨d', by simp [written], after⟩
      · obtain ⟨d', written, after⟩ := wrote (data.take room)
        rw [if_neg fits, if_neg fits]
        exact ⟨d', by simp [written], after⟩

/-- Some files of the first disk have changed or gone. -/
structure Worn (d d' : Disk) : Prop where
  cwd_eq : d'.cwd = d.cwd
  faults_eq : d'.faults = d.faults
  entry : ∀ l, d'.at? l = d.at? l ∨
    (∃ data executable, d.at? l = some (.file data executable)) ∧ Entry.IsLoose (d'.at? l)

theorem Worn.refl (d : Disk) : d.Worn d := ⟨rfl, rfl, fun _ => .inl rfl⟩

theorem Worn.alike (h : d.Worn d') : d.Alike d' :=
  ⟨h.cwd_eq, h.faults_eq, fun l => (h.entry l).imp_right fun ⟨file, loose⟩ => ⟨.inr file, loose⟩⟩

theorem Worn.grows (h : d.Worn d') : d'.Grows d := by
  refine ⟨h.cwd_eq.symm, fun l => ?_⟩
  rcases h.entry l with same | ⟨⟨data, executable, file⟩, free | ⟨old, executable', lies⟩⟩
  · rw [same]
    exact .same _
  · rw [file, free]
    exact .written data executable
  · rw [file, lies]
    exact .rewritten old data executable' executable

theorem Worn.rooted (h : d.Worn d') (rooted : d.Rooted) : d'.Rooted := by
  intro l place directory above
  rcases h.entry l with same | ⟨-, free | ⟨data, executable, file⟩⟩
  · have before : d.isDirectoryAt l = true := by
      rw [isDirectoryAt, ← same]
      exact directory
    exact h.alike.isDirectoryAt (rooted l place before above)
  · simp [isDirectoryAt, free] at directory
  · simp [isDirectoryAt, file] at directory

/-- Where nothing was found, nothing is found once files have changed or gone. -/
theorem Worn.not_pathExists (h : d.Worn d') (rooted : d.Rooted)
    (missing : d.pathExists path = false) : d'.pathExists path = false := by
  by_contra there
  rw [Bool.not_eq_false] at there
  have walks : ∃ a, d'.walk .followed path = .ok a := by
    unfold pathExists at there
    cases found : d'.find path with
    | error e =>
      rw [found] at there
      cases there
    | ok place =>
      obtain ⟨_, _, walked, -⟩ := find_eq_ok_iff.mp found
      exact ⟨_, walked⟩
  obtain ⟨a, walked⟩ := walks
  rw [pathExists_grow_of_start ((h.rooted rooted).start walked) h.grows there] at missing
  cases missing

theorem Worn.touch (h : d.Worn d') {data : Bytes} {executable : Bool}
    (file : d.at? l = some (.file data executable)) (touches : d'.Touches l d'') : d.Worn d'' := by
  refine ⟨touches.cwd_eq.trans h.cwd_eq, touches.faults_eq.trans h.faults_eq, fun m => ?_⟩
  by_cases here : m = l
  · subst here
    exact .inr ⟨⟨data, executable, file⟩, touches.loose⟩
  · rw [touches.elsewhere m here]
    exact h.entry m

end Disk

end Mender
