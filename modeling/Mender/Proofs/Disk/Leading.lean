import Mender.Proofs.Disk.Rename

/-!
# Where paths lead

A path leads to a place whether or not anything lies there: its steps are taken and links
followed, and nothing is refused. Adding files and directories to a disk does not change where
its paths lead, so what is written at a path is found there later on.
-/

namespace Mender

namespace Disk

/-- Where steps lead. -/
inductive Leads (d : Disk) : (here : Location) → List Path.Step → Location → Prop
  | done {here} : Leads d here [] here
  | stay {here rest l} (led : Leads d here rest l) : Leads d here (.stay :: rest) l
  | up {here rest l} (led : Leads d here.dropLast rest l) : Leads d here (.up :: rest) l
  | link {here name rest target l} (linked : d.at? (here ++ [name]) = some (.link target))
      (led : Leads d (if Path.isAbsolute target then [] else here) (Path.steps target ++ rest) l) :
      Leads d here (.down name :: rest) l
  | down {here name rest l} (unlinked : ∀ target, d.at? (here ++ [name]) ≠ some (.link target))
      (led : Leads d (here ++ [name]) rest l) : Leads d here (.down name :: rest) l

/-- Where the steps of a path start. -/
def start (d : Disk) (path : Path) : Location := if Path.isAbsolute path then [] else d.cwd

/-- The path leads to the place. -/
def LeadsTo (d : Disk) (path : Path) (l : Location) : Prop :=
  d.Leads (d.start path) (Path.steps path) l

variable {d d' : Disk} {here l m : Location} {steps rest : List Path.Step} {path : Path}
  {last : LastName} {links : Nat} {slash : Bool} {a : Arrival}

/-- Steps lead to one place at most. -/
theorem Leads.unique (h : d.Leads here steps l) (h' : d.Leads here steps m) : l = m := by
  induction h with
  | done =>
    cases h'
    rfl
  | stay _ ih =>
    cases h' with
    | stay led => exact ih led
  | up _ ih =>
    cases h' with
    | up led => exact ih led
  | link linked _ ih =>
    cases h' with
    | link linked' led =>
      cases linked.symm.trans linked'
      exact ih led
    | down unlinked => exact absurd linked (unlinked _)
  | down unlinked _ ih =>
    cases h' with
    | link linked => exact absurd linked (unlinked _)
    | down _ led => exact ih led

theorem Grows.link_iff (grows : d.Grows d') {target : Path} :
    d'.at? l = some (.link target) ↔ d.at? l = some (.link target) := by
  have still := grows.entry l
  generalize d.at? l = before at still
  generalize d'.at? l = after at still
  cases still <;> simp

/-- Links alone decide where steps lead. -/
theorem Leads.of_links (h : d.Leads here steps l)
    (same : ∀ l target, d'.at? l = some (.link target) ↔ d.at? l = some (.link target)) :
    d'.Leads here steps l := by
  induction h with
  | done => exact .done
  | stay _ ih => exact .stay ih
  | up _ ih => exact .up ih
  | link linked _ ih => exact .link ((same _ _).mpr linked) ih
  | down unlinked _ ih => exact .down (fun target => mt (same _ _).mp (unlinked target)) ih

theorem Leads.grow (h : d.Leads here steps l) (grows : d.Grows d') : d'.Leads here steps l :=
  h.of_links fun _ _ => grows.link_iff

/-- Additions make no steps lead anywhere else. -/
theorem Leads.shrink (h : d'.Leads here steps l) (grows : d.Grows d') : d.Leads here steps l :=
  h.of_links fun _ _ => grows.link_iff.symm

theorem Grows.start_eq (grows : d.Grows d') (path : Path) : d'.start path = d.start path := by
  rw [start, start, grows.cwd_eq]

theorem Grows.leadsTo_iff (grows : d.Grows d') : d'.LeadsTo path l ↔ d.LeadsTo path l := by
  rw [LeadsTo, LeadsTo, grows.start_eq]
  exact ⟨fun h => h.shrink grows, fun h => h.grow grows⟩

/-- Steps in two parts lead by way of the place where the first part leads. -/
theorem leads_append_iff :
    d.Leads here (steps ++ rest) l ↔ ∃ m, d.Leads here steps m ∧ d.Leads m rest l := by
  constructor
  · intro h
    generalize whole : steps ++ rest = all at h
    induction h generalizing steps with
    | done =>
      obtain ⟨rfl, rfl⟩ := List.append_eq_nil_iff.mp whole
      exact ⟨_, .done, .done⟩
    | stay led ih =>
      rcases List.append_eq_cons_iff.mp whole with ⟨rfl, rfl⟩ | ⟨_, rfl, rfl⟩
      · exact ⟨_, .done, .stay led⟩
      · obtain ⟨m, first, then_⟩ := ih rfl
        exact ⟨m, .stay first, then_⟩
    | up led ih =>
      rcases List.append_eq_cons_iff.mp whole with ⟨rfl, rfl⟩ | ⟨_, rfl, rfl⟩
      · exact ⟨_, .done, .up led⟩
      · obtain ⟨m, first, then_⟩ := ih rfl
        exact ⟨m, .up first, then_⟩
    | link linked led ih =>
      rcases List.append_eq_cons_iff.mp whole with ⟨rfl, rfl⟩ | ⟨_, rfl, rfl⟩
      · exact ⟨_, .done, .link linked led⟩
      · obtain ⟨m, first, then_⟩ := ih (List.append_assoc _ _ _)
        exact ⟨m, .link linked first, then_⟩
    | down unlinked led ih =>
      rcases List.append_eq_cons_iff.mp whole with ⟨rfl, rfl⟩ | ⟨_, rfl, rfl⟩
      · exact ⟨_, .done, .down unlinked led⟩
      · obtain ⟨m, first, then_⟩ := ih rfl
        exact ⟨m, .down unlinked first, then_⟩
  · rintro ⟨m, first, then_⟩
    induction first with
    | done => exact then_
    | stay _ ih => exact .stay (ih then_)
    | up _ ih => exact .up (ih then_)
    | link linked _ ih =>
      have further := ih then_
      rw [List.append_assoc] at further
      exact .link linked further
    | down unlinked _ ih => exact .down unlinked (ih then_)

/-- A walk that does not stop at a link goes where the steps lead. -/
theorem Walks.leads (h : d.Walks last links here steps slash a)
    (no_link : ∀ l target, a.place ≠ .found l (.link target)) :
    d.Leads here steps a.place.location := by
  induction h with
  | done => exact .done
  | stay _ _ ih => exact .stay (ih no_link)
  | up _ _ ih => exact .up (ih no_link)
  | vacant _ free => exact .down (fun target linked => by simp [free] at linked) .done
  | kept => exact absurd rfl (no_link _ _)
  | followed _ linked _ _ ih => exact .link linked (ih no_link)
  | found _ lies other =>
    exact .down (fun target linked => other target (Option.some.inj (lies.symm.trans linked))) .done
  | down _ lies other _ ih =>
    exact .down (fun target linked => other target (Option.some.inj (lies.symm.trans linked)))
      (ih no_link)

/-- A walk in two parts starts its second part where the first part leads. -/
theorem Walks.split (h : d.Walks last links here (steps ++ rest) slash a) (more : rest ≠ []) :
    ∃ m links', d.Leads here steps m ∧ d.Walks last links' m rest slash a := by
  generalize whole : steps ++ rest = all at h
  -- a first part that is empty leads nowhere, so the walk itself is the second part
  have nowhere (links : Nat) {here : Location} {slash : Bool} {a : Arrival}
      (h : d.Walks last links here rest slash a) :
      ∃ m links', d.Leads here [] m ∧ d.Walks last links' m rest slash a := ⟨_, _, .done, h⟩
  induction h generalizing steps with
  | done =>
    obtain ⟨-, rfl⟩ := List.append_eq_nil_iff.mp whole
    exact absurd rfl more
  | stay directory walked ih =>
    rcases List.append_eq_cons_iff.mp whole with ⟨rfl, rfl⟩ | ⟨_, rfl, rfl⟩
    · exact nowhere _ (.stay directory walked)
    · obtain ⟨m, links', first, then_⟩ := ih rfl
      exact ⟨m, links', .stay first, then_⟩
  | up directory walked ih =>
    rcases List.append_eq_cons_iff.mp whole with ⟨rfl, rfl⟩ | ⟨_, rfl, rfl⟩
    · exact nowhere _ (.up directory walked)
    · obtain ⟨m, links', first, then_⟩ := ih rfl
      exact ⟨m, links', .up first, then_⟩
  | vacant passable free =>
    rcases List.append_eq_singleton_iff.mp whole with ⟨rfl, rfl⟩ | ⟨-, rfl⟩
    · exact nowhere 0 (.vacant passable free)
    · exact absurd rfl more
  | kept passable linked unfollowed =>
    rcases List.append_eq_singleton_iff.mp whole with ⟨rfl, rfl⟩ | ⟨-, rfl⟩
    · exact nowhere 0 (.kept passable linked unfollowed)
    · exact absurd rfl more
  | found passable lies no_link =>
    rcases List.append_eq_singleton_iff.mp whole with ⟨rfl, rfl⟩ | ⟨-, rfl⟩
    · exact nowhere 0 (.found passable lies no_link)
    · exact absurd rfl more
  | @followed _ _ _ _ slash target _ passable linked follows walked ih =>
    rcases List.append_eq_cons_iff.mp whole with ⟨rfl, rfl⟩ | ⟨steps, rfl, rfl⟩
    · exact nowhere _ (.followed passable linked follows walked)
    · obtain ⟨m, links', first, then_⟩ := ih (List.append_assoc _ _ _)
      have inner : (steps ++ rest).isEmpty = false := by simp [more]
      rw [inner, Bool.false_and, Bool.or_false] at then_
      exact ⟨m, links', .link linked first, then_⟩
  | down passable lies no_link walked ih =>
    rcases List.append_eq_cons_iff.mp whole with ⟨rfl, rfl⟩ | ⟨_, rfl, further⟩
    · exact nowhere _ (.down passable lies no_link walked)
    · obtain ⟨m, links', first, then_⟩ := ih further.symm
      have unlinked (target : Path) := fun linked =>
        no_link target (Option.some.inj (lies.symm.trans linked))
      exact ⟨m, links', .down unlinked first, then_⟩

theorem leadsTo_of_walk (h : d.walk last path = .ok a)
    (no_link : ∀ l target, a.place ≠ .found l (.link target)) : d.LeadsTo path a.place.location :=
  (walk_eq_ok_iff.mp h).2.leads no_link

theorem leadsTo_of_find {e : Entry} (h : d.find path = .ok (l, e))
    (no_link : ∀ target, e ≠ .link target) : d.LeadsTo path l := by
  obtain ⟨_, _, walked, -⟩ := find_eq_ok_iff.mp h
  refine leadsTo_of_walk walked fun m target linked => ?_
  cases linked
  exact no_link target rfl

/-- Where there are no links, a path leads where its text says. -/
theorem leadsTo_lexical (linkless : d.Linkless) (path : Path) :
    d.LeadsTo path (d.lexical path) := by
  have straight (here : Location) (steps : List Path.Step) :
      d.Leads here steps (here.follow steps) := by
    induction steps generalizing here with
    | nil => exact .done
    | cons step steps ih =>
      cases step with
      | stay => exact .stay (ih _)
      | up => exact .up (ih _)
      | down name => exact .down (linkless _) (ih _)
  exact straight _ _

theorem start_join (d : Disk) (base : Path) {name : Path} (plain : Path.Plain name) :
    d.start (Path.join base name) = d.start base := by
  rw [start, start, Path.isAbsolute_join base plain.relative]

theorem steps_join (base : Path) {name : Path} (plain : Path.Plain name) :
    Path.steps (Path.join base name) = Path.steps base ++ [.down name] := by
  rw [Path.steps_join base plain.relative, plain.steps_eq]

/-- A path that goes on by one name leads to that name, in the directory where it led before, or
to where a link of that name leads. -/
theorem leadsTo_join {base name : Path} (plain : Path.Plain name) :
    d.LeadsTo (Path.join base name) l ↔ ∃ m, d.LeadsTo base m ∧ d.Leads m [.down name] l := by
  unfold LeadsTo
  rw [start_join d base plain, steps_join base plain, leads_append_iff]

/-- Steps that are walked on lead to a directory. -/
theorem directory_of_walk (h : d.walk last path = .ok a) (parts : Path.steps path = steps ++ rest)
    (more : rest ≠ []) : ∃ m, d.Leads (d.start path) steps m ∧ d.isDirectoryAt m = true := by
  obtain ⟨-, walked⟩ := walk_eq_ok_iff.mp h
  rw [parts] at walked
  obtain ⟨m, links, led, walked⟩ := walked.split more
  exact ⟨m, led, walked.directory_of_more more⟩

/-- A directory below directories is below directories again. -/
theorem directories_down {name : Path}
    (above : ∀ place, place <+: here → d.isDirectoryAt place = true)
    (directory : d.isDirectoryAt (here ++ [name]) = true) :
    ∀ place, place <+: here ++ [name] → d.isDirectoryAt place = true := by
  intro place below
  rcases List.prefix_concat_iff.mp below with rfl | below
  · exact directory
  · exact above place below

theorem directories_link (above : ∀ place, place <+: here → d.isDirectoryAt place = true)
    (target : Path) : ∀ place, place <+: (if Path.isAbsolute target then [] else here) →
      d.isDirectoryAt place = true := by
  intro place below
  split at below
  · rw [List.prefix_nil.mp below]
    rfl
  · exact above place below

/-- A walk that ends without a name ends at a directory, as long as it starts in directories. -/
theorem Walks.directory_of_unnamed (h : d.Walks last links here steps slash a)
    (above : ∀ place, place <+: here → d.isDirectoryAt place = true) (unnamed : a.named = false) :
    ∃ l, a.place = .found l .directory := by
  induction h with
  | @done _ here =>
    refine ⟨here, ?_⟩
    have directory := above here (List.prefix_refl here)
    rw [of_decide_eq_true directory]
    rfl
  | stay _ _ ih => exact ih above unnamed
  | @up _ here _ _ _ _ _ ih =>
    exact ih (fun place below => above place (below.trans here.dropLast_prefix)) unnamed
  | vacant | kept | found => cases unnamed
  | followed _ _ _ _ ih => exact ih (directories_link above _) unnamed
  | down _ _ _ walked ih =>
    exact ih (directories_down above (walked.directory_of_more (List.cons_ne_nil _ _))) unnamed

/-- What a walk finds is there and no link, as long as it starts in directories. -/
theorem Walks.found_there (h : d.Walks .followed links here steps slash a)
    (above : ∀ place, place <+: here → d.isDirectoryAt place = true) {e : Entry}
    (found : a.place = .found l e) : d.at? l = some e ∧ ∀ target, e ≠ .link target := by
  induction h with
  | @done _ here =>
    have directory : d.at? here = some .directory :=
      of_decide_eq_true (above here (List.prefix_refl here))
    cases found
    rw [directory]
    exact ⟨rfl, nofun⟩
  | stay _ _ ih => exact ih above found
  | @up _ here _ _ _ _ _ ih =>
    exact ih (fun place below => above place (below.trans here.dropLast_prefix)) found
  | vacant => cases found
  | kept _ _ unfollowed => cases unfollowed
  | followed _ _ _ _ ih => exact ih (directories_link above _) found
  | found _ lies no_link =>
    cases found
    exact ⟨lies, no_link⟩
  | down _ _ _ walked ih =>
    exact ih (directories_down above (walked.directory_of_more (List.cons_ne_nil _ _))) found

/-- What is opened by its name is no link, and has no slash behind it. -/
theorem Walks.plain_of_named (h : d.Walks .opened links here steps slash a)
    (named : a.named = true) :
    a.slash = false ∧ ∀ l target, a.place ≠ .found l (.link target) := by
  have plain {here : Location} {name : Path} {slash : Bool}
      (passable : d.Passable .opened here name [] slash) : slash = false := by
    simpa using passable.may_open
  induction h with
  | done => cases named
  | stay _ _ ih | up _ _ ih | followed _ _ _ _ ih | down _ _ _ _ ih => exact ih named
  | vacant passable => exact ⟨plain passable, nofun⟩
  | kept _ _ unfollowed => cases unfollowed
  | found passable _ no_link =>
    refine ⟨plain passable, fun l target linked => ?_⟩
    cases linked
    exact no_link target rfl

/-- What can be opened can be looked up. -/
theorem Walks.sought (h : d.Walks .opened links here steps slash a) :
    d.Walks .followed links here steps slash a := by
  have passable {here : Location} {name : Path} {rest : List Path.Step} {slash : Bool}
      (passable : d.Passable .opened here name rest slash) :
      d.Passable .followed here name rest slash :=
    ⟨passable.directory, by simp, passable.short⟩
  induction h with
  | done => exact .done
  | stay directory _ ih => exact .stay directory ih
  | up directory _ ih => exact .up directory ih
  | vacant passed free => exact .vacant (passable passed) free
  | kept _ _ unfollowed => cases unfollowed
  | followed passed linked _ _ ih =>
    exact .followed (passable passed) linked (by simp [LastName.follows]) ih
  | found passed lies no_link => exact .found (passable passed) lies no_link
  | down passed lies no_link _ ih => exact .down (passable passed) lies no_link ih

/-- A walk that arrived at a free name finds what has come to lie there. -/
theorem Walks.filled {e : Entry} {name : Path} {named ends : Bool}
    (h : d.Walks last links here steps slash ⟨.vacant l name, named, ends⟩)
    (grows : d.Grows d') (lies : d'.at? (l ++ [name]) = some e)
    (no_link : ∀ target, e ≠ .link target) :
    d'.Walks last links here steps slash ⟨.found (l ++ [name]) e, named, ends⟩ := by
  generalize arrived : Arrival.mk (.vacant l name) named ends = a at h
  induction h with
  | done | kept | found => cases arrived
  | stay directory _ ih => exact .stay (grows.isDirectoryAt directory) (ih arrived)
  | up directory _ ih => exact .up (grows.isDirectoryAt directory) (ih arrived)
  | vacant passable =>
    cases arrived
    exact .found (passable.grow grows) lies no_link
  | followed passable linked follows _ ih =>
    exact .followed (passable.grow grows) (grows.link_iff.mpr linked) follows (ih arrived)
  | @down _ here name _ _ _ _ _ passable there other _ ih =>
    have still := grows.entry (here ++ [name])
    rw [there] at still
    obtain ⟨e', there', other'⟩ := still.exists_of_not_link other
    exact .down (passable.grow grows) there' other' (ih arrived)

/-- A write changes nothing but what lies where its path leads. -/
theorem leadsTo_of_write {data : Bytes} (h : d.write path data = .ok d') :
    d' = d ∨ ∃ l executable, d.LeadsTo path l ∧ d' = d.put l (.file data executable) ∧
      d.Grows d' := by
  rcases write_cases h with same | ⟨a, executable, walked, rfl, grown⟩
  · exact .inl same
  · refine .inr ⟨_, executable, leadsTo_of_walk walked ?_, rfl, grows_put fun _ => grown⟩
    intro l target linked
    have lies : d.at? l = some (.link target) := by
      obtain ⟨place, named, slash⟩ := a
      cases linked
      exact (walk_eq_ok_iff.mp walked).2.at?_eq nofun
    rw [linked, Place.location, lies] at grown
    cases grown

theorem Homed.start (homed : d.Homed) (path : Path) :
    ∀ place, place <+: d.start path → d.isDirectoryAt place = true := by
  intro place above
  unfold Disk.start at above
  split at above
  · rw [List.prefix_nil.mp above]
    rfl
  · exact homed place above

/-- A path that leads to a free place leads to nothing. -/
theorem not_pathExists (homed : d.Homed) (led : d.LeadsTo path l) (free : d.at? l = none) :
    d.pathExists path = false := by
  unfold pathExists
  cases found : d.find path with
  | error e => rfl
  | ok there =>
    obtain ⟨m, e⟩ := there
    obtain ⟨_, _, walked, -⟩ := find_eq_ok_iff.mp found
    obtain ⟨lies, no_link⟩ := (walk_eq_ok_iff.mp walked).2.found_there (homed.start path) rfl
    have same : m = l := (leadsTo_of_find found no_link).unique led
    rw [same, free] at lies
    cases lies

theorem plain_of_walk (homed : d.Homed) (h : d.walk .opened path = .ok a)
    (other : ∀ l, a.place ≠ .found l .directory) :
    a.slash = false ∧ ∀ l target, a.place ≠ .found l (.link target) := by
  have walks := (walk_eq_ok_iff.mp h).2
  cases named : a.named with
  | true => exact walks.plain_of_named named
  | false =>
    obtain ⟨l, directory⟩ := walks.directory_of_unnamed (homed.start path) named
    exact absurd directory (other l)

/-- What has come to lie where a file was opened is found there. -/
theorem find_of_opened {data : Bytes} {executable : Bool} (homed : d.Homed)
    (h : d.walk .opened path = .ok a) (other : ∀ l, a.place ≠ .found l .directory)
    (grows : d.Grows d') (lies : d'.at? a.place.location = some (.file data executable)) :
    d'.find path = .ok (a.place.location, .file data executable) := by
  obtain ⟨plain, -⟩ := plain_of_walk homed h other
  obtain ⟨legal, walks⟩ := walk_eq_ok_iff.mp h
  have arrives : d'.Walks .opened maxLinks (d.start path) (Path.steps path) (Path.endsInSlash path)
      ⟨.found a.place.location (.file data executable), a.named, a.slash⟩ := by
    obtain ⟨⟨l, e⟩ | ⟨directory, name⟩, named, slash⟩ := a
    · have grown := walks.grow grows
      have there : d'.at? l = some (.file data executable) := lies
      rw [there] at grown
      exact grown
    · exact walks.filled grows lies nofun
  rw [← grows.start_eq] at arrives
  exact find_eq_ok_iff.mpr ⟨_, _, walk_eq_ok_iff.mpr ⟨legal, arrives.sought⟩, by simp [plain]⟩

/-- After a write the path leads to a file that holds the data, or to something special that was
there before. -/
theorem found_of_write {data : Bytes} (homed : d.Homed) (h : d.write path data = .ok d') :
    (∃ l executable, d' = d.put l (.file data executable) ∧ (d.at? l = none → executable = false) ∧
      d.Grows d' ∧ d'.find path = .ok (l, .file data executable)) ∨
    d' = d ∧ ∃ l special, d.at? l = some (.special special) ∧
      d.find path = .ok (l, .special special) := by
  unfold write at h
  cases walked : d.walk .opened path with
  | error e =>
    rw [walked] at h
    cases h
  | ok a =>
    obtain ⟨legal, walks⟩ := walk_eq_ok_iff.mp walked
    rw [walked] at h
    obtain ⟨⟨l, e⟩ | ⟨directory, name⟩, named, slash⟩ := a
    · cases e with
      | file old executable =>
        have lies := walks.at?_eq nofun
        have below : l ≠ [] := by
          rintro rfl
          cases lies
        cases h
        have grows : d.Grows (d.put l (.file data executable)) :=
          grows_put fun _ => lies ▸ .rewritten old data executable executable
        exact .inl ⟨l, executable, rfl, by simp [lies], grows,
          find_of_opened homed walked nofun grows (at?_put_self d below _)⟩
      | directory => cases h
      | link target => exact absurd rfl ((plain_of_walk homed walked nofun).2 l target)
      | special special =>
        have same : d' = d := by
          cases special with
          | command name => cases h
          | null | zero | descriptor =>
            cases h
            rfl
        obtain ⟨plain, -⟩ := plain_of_walk homed walked nofun
        have found : d.find path = .ok (l, .special special) :=
          find_eq_ok_iff.mpr ⟨named, slash, walk_eq_ok_iff.mpr ⟨legal, walks.sought⟩, fun slashed =>
            absurd (plain.symm.trans slashed) (by simp)⟩
        exact .inr ⟨same, l, special, walks.at?_eq nofun, found⟩
    · have free := walks.free
      cases h
      have grows : d.Grows (d.put (directory ++ [name]) (.file data false)) :=
        grows_put fun _ => free ▸ .written data false
      exact .inl ⟨directory ++ [name], false, rfl, fun _ => rfl, grows,
        find_of_opened homed walked nofun grows (at?_put_self d (by simp) _)⟩

/-- What is written at a path is found there, unless something special lies where it leads. -/
theorem find_of_write {data : Bytes} (homed : d.Homed) (h : d.write path data = .ok d')
    (ordinary : ∀ l, d.LeadsTo path l → ∀ special, d.at? l ≠ some (.special special)) :
    ∃ l executable, d' = d.put l (.file data executable) ∧ (d.at? l = none → executable = false) ∧
      d.Grows d' ∧ d'.find path = .ok (l, .file data executable) := by
  rcases found_of_write homed h with written | ⟨-, l, special, lies, found⟩
  · exact written
  · exact absurd lies (ordinary l (leadsTo_of_find found nofun) special)

/-- A path that has been written at leads to something. -/
theorem pathExists_of_write {data : Bytes} (homed : d.Homed) (h : d.write path data = .ok d') :
    d'.pathExists path = true := by
  unfold pathExists
  rcases found_of_write homed h with ⟨_, _, -, -, -, found⟩ | ⟨rfl, _, _, -, found⟩
  · rw [found]
    rfl
  · rw [found]
    rfl

/-- What a path leads to from directories is still there when the disk has grown. -/
theorem pathExists_grow_of_start
    (above : ∀ place, place <+: d.start path → d.isDirectoryAt place = true)
    (grows : d.Grows d') (h : d.pathExists path = true) : d'.pathExists path = true := by
  unfold pathExists at h ⊢
  cases found : d.find path with
  | error e =>
    rw [found] at h
    cases h
  | ok there =>
    obtain ⟨l, e⟩ := there
    obtain ⟨named, slash, walked, unslashed⟩ := find_eq_ok_iff.mp found
    have lies := ((walk_eq_ok_iff.mp walked).2.found_there above rfl).1
    have found' : d'.find path = .ok (l, (d'.at? l).getD .directory) := by
      refine find_eq_ok_iff.mpr ⟨named, slash, walk_grow grows walked, fun slashed => ?_⟩
      have still := grows.entry l
      rw [lies, unslashed slashed] at still
      rw [still.directory]
      rfl
    rw [found']
    rfl

theorem pathExists_grow (homed : d.Homed) (grows : d.Grows d') (h : d.pathExists path = true) :
    d'.pathExists path = true :=
  pathExists_grow_of_start (homed.start path) grows h

end Disk

end Mender
