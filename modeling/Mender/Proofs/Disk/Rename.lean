import Mender.Proofs.Disk.Linkless

/-!
# A file under a new name

A file that has been renamed is found under its new name: the directories and links on the way
there are the same as before.
-/

namespace Mender.Disk

theorem at?_erase_self (d : Disk) {l : Location} (below : l ≠ []) : (d.erase l).at? l = none := by
  rw [at?, if_neg below, erase, List.lookup_eq_none_iff]
  intro f mem
  have other : f.1 ≠ l := by simpa using (List.mem_filter.mp mem).2
  exact bne_iff_ne.mpr other.symm

section Relocation

variable {d : Disk} {l m : Location}

/-- What lies neither at or below the old place nor at or below the new one stays. -/
theorem at?_relocate_of_clear {place : Location} (clear_old : ¬l <+: place)
    (clear_new : ¬m <+: place) : (d.relocate l m).at? place = d.at? place := by
  obtain ⟨entries, cwd⟩ := d
  by_cases root : place = []
  · simp [at?, root]
  simp only [at?, root, if_false, relocate]
  induction entries with
  | nil => rfl
  | cons f entries ih =>
    obtain ⟨k, e⟩ := f
    rw [List.map_cons]
    by_cases moved : l.isPrefixOf k = true
    · have other : (place == m ++ k.drop l.length) = false :=
        beq_false_of_ne fun same => clear_new (same ▸ m.prefix_append _)
      have here : (place == k) = false :=
        beq_false_of_ne fun same => clear_old (same ▸ List.isPrefixOf_iff_prefix.mp moved)
      rw [if_pos moved, List.lookup_cons, List.lookup_cons, other, here]
      exact ih
    · rw [if_neg moved, List.lookup_cons, List.lookup_cons, ih]

/-- What lay at the old place lies at the new one, which was free. -/
theorem at?_relocate_self {e : Entry} (old_below : l ≠ []) (new_below : m ≠ [])
    (lies : d.at? l = some e) (free : d.at? m = none) : (d.relocate l m).at? m = some e := by
  obtain ⟨entries, cwd⟩ := d
  simp only [at?, old_below, new_below, if_false, relocate] at lies free ⊢
  induction entries with
  | nil => cases lies
  | cons f entries ih =>
    obtain ⟨k, found⟩ := f
    rw [List.lookup_cons] at lies free
    rw [List.map_cons]
    have other : (m == k) = false := by
      cases same : m == k with
      | false => rfl
      | true =>
        rw [same] at free
        cases free
    rw [other] at free
    by_cases here : l = k
    · subst here
      have moved : l.isPrefixOf l = true := List.isPrefixOf_iff_prefix.mpr (List.prefix_refl l)
      simp only [beq_self_eq_true] at lies
      rw [if_pos moved, List.drop_length, List.append_nil, List.lookup_cons_self]
      exact lies
    · rw [beq_false_of_ne here] at lies
      by_cases moved : l.isPrefixOf k = true
      · -- what lies below the old place comes to lie below the new one
        have below : (m == m ++ k.drop l.length) = false := by
          refine beq_false_of_ne fun same => here ?_
          have empty : k.drop l.length = [] := by simpa using same
          obtain ⟨rest, rfl⟩ := List.isPrefixOf_iff_prefix.mp moved
          simpa using empty
        rw [if_pos moved, List.lookup_cons, below]
        exact ih lies free
      · rw [if_neg moved, List.lookup_cons, other]
        exact ih lies free

/-- Nothing lies below the place. -/
def Leaf (d : Disk) (l : Location) : Prop := ∀ f ∈ d.entries, l <+: f.1 → f.1 = l

theorem relocate_leaf (leaf : d.Leaf l) (m : Location) :
    d.relocate l m =
      { d with entries := d.entries.map fun f => if f.1 = l then (m, f.2) else f } := by
  refine congrArg (fun entries => { d with entries }) (List.map_congr_left fun f mem => ?_)
  obtain ⟨place, e⟩ := f
  by_cases here : place = l
  · subst here
    simp
  · have apart : l.isPrefixOf place = false := by
      rw [Bool.eq_false_iff, ne_eq, List.isPrefixOf_iff_prefix]
      exact fun below => here (leaf _ mem below)
    simp [apart, here]

/-- Where nothing lies below the old place, the two places are all that changes. -/
theorem at?_relocate_leaf (leaf : d.Leaf l) {place : Location} (not_new : place ≠ m) :
    (d.relocate l m).at? place = if place = l ∧ l ≠ [] then none else d.at? place := by
  rw [relocate_leaf leaf]
  by_cases root : place = []
  · subst root
    by_cases here : [] = l <;> simp_all [at?]
  simp only [at?, root, if_false]
  obtain ⟨entries, cwd⟩ := d
  clear leaf
  induction entries with
  | nil => simp
  | cons f entries ih =>
    obtain ⟨k, e⟩ := f
    rw [List.map_cons]
    by_cases moved : k = l
    · subst moved
      rw [if_pos rfl, List.lookup_cons, beq_false_of_ne not_new]
      refine ih.trans ?_
      by_cases here : place = k
      · subst here
        simp [root]
      · simp [here, List.lookup_cons, beq_false_of_ne here]
    · rw [if_neg moved, List.lookup_cons]
      by_cases here : place = k
      · subst here
        simp [moved]
      · rw [beq_false_of_ne here]
        refine ih.trans ?_
        simp [List.lookup_cons, beq_false_of_ne here]

end Relocation

/-- No path goes on from the place: what lies there is neither a directory nor a link. -/
structure Impasse (d : Disk) (l : Location) : Prop where
  no_directory : d.isDirectoryAt l = false
  no_link : ∀ target, d.at? l ≠ some (.link target)

theorem Impasse.of_at? {d : Disk} {l : Location} {e : Entry} (lies : d.at? l = some e)
    (no_directory : e ≠ .directory) (no_link : ∀ target, e ≠ .link target) : d.Impasse l := by
  constructor
  · rw [isDirectoryAt, lies]
    simpa using no_directory
  · intro target linked
    exact no_link target (Option.some.inj (lies.symm.trans linked))

/-- The place is not above a directory or a link unless it is above what that lies in. -/
theorem Impasse.clear {d : Disk} {l here : Location} {name : Path} (h : d.Impasse l)
    (clear : ¬l <+: here)
    (passes : d.isDirectoryAt (here ++ [name]) = true ∨
      ∃ target, d.at? (here ++ [name]) = some (.link target)) : ¬l <+: here ++ [name] := by
  intro below
  rcases List.prefix_concat_iff.mp below with rfl | above
  · rcases passes with directory | ⟨target, linked⟩
    · rw [h.no_directory] at directory
      cases directory
    · exact h.no_link target linked
  · exact clear above

/-- A walk to what has been put in place on the way finds it there, since it passes nothing but
directories and links. -/
theorem Walks.settled {d d' : Disk} {l m : Location} {e : Entry}
    (kept : ∀ place, ¬l <+: place → ¬m <+: place → d'.at? place = d.at? place)
    (no_old : d.Impasse l) (no_new : d.Impasse m)
    (lies : d'.at? m = some e) (no_link : ∀ target, e ≠ .link target)
    {links : Nat} {here : Location} {steps : List Path.Step} {slash : Bool} {a : Arrival}
    (h : d.Walks .listed links here steps slash a) (named : a.named = true)
    (place : a.place.location = m) (clear_old : ¬l <+: here) (clear_new : ¬m <+: here) :
    d'.Walks .followed links here steps slash ⟨.found m e, true, a.slash⟩ := by
  have still {here : Location} (clear_old : ¬l <+: here) (clear_new : ¬m <+: here)
      (directory : d.isDirectoryAt here = true) : d'.isDirectoryAt here = true := by
    rw [isDirectoryAt, kept here clear_old clear_new]
    exact directory
  have pass {here : Location} {name : Path} {rest : List Path.Step} {slash : Bool}
      (clear_old : ¬l <+: here) (clear_new : ¬m <+: here)
      (passable : d.Passable .listed here name rest slash) :
      d'.Passable .followed here name rest slash :=
    ⟨still clear_old clear_new passable.directory, by simp, passable.short⟩
  have root {place : Location} (impasse : d.Impasse place) : ¬place <+: [] := by
    intro above
    rw [List.prefix_nil.mp above] at impasse
    cases impasse.no_directory
  induction h with
  | done => cases named
  | stay directory _ ih =>
    exact .stay (still clear_old clear_new directory) (ih named place clear_old clear_new)
  | @up _ here _ _ _ directory _ ih =>
    have above := here.dropLast_prefix
    exact .up (still clear_old clear_new directory)
      (ih named place (fun h => clear_old (h.trans above)) fun h => clear_new (h.trans above))
  | vacant passable =>
    cases place
    exact .found (pass clear_old clear_new passable) lies no_link
  | kept _ linked =>
    cases place
    exact absurd linked (no_new.no_link _)
  | @followed _ here name rest _ target _ passable linked _ _ ih =>
    have old := no_old.clear clear_old (.inr ⟨target, linked⟩)
    have new := no_new.clear clear_new (.inr ⟨target, linked⟩)
    have linked' : d'.at? (here ++ [name]) = some (.link target) := (kept _ old new).trans linked
    refine .followed (pass clear_old clear_new passable) linked' (by simp [LastName.follows])
      (ih named place ?_ ?_)
    · split
      · exact root no_old
      · exact clear_old
    · split
      · exact root no_new
      · exact clear_new
  | found passable =>
    cases place
    exact .found (pass clear_old clear_new passable) lies no_link
  | @down _ here name next rest _ _ _ passable _ _ walked ih =>
    have directory := walked.directory_of_more (List.cons_ne_nil _ _)
    have old := no_old.clear clear_old (.inl directory)
    have new := no_new.clear clear_new (.inl directory)
    have there : d'.at? (here ++ [name]) = some .directory :=
      (kept _ old new).trans (of_decide_eq_true directory)
    exact .down (pass clear_old clear_new passable) there (by simp) (ih named place old new)

/-- Every directory above the working directory is there, and itself too. -/
def Homed (d : Disk) : Prop := ∀ place, place <+: d.cwd → d.isDirectoryAt place = true

theorem Homed.grow {d d' : Disk} (h : d.Homed) (grows : d.Grows d') : d'.Homed := by
  intro place above
  rw [grows.cwd_eq] at above
  exact grows.isDirectoryAt (h place above)

/-- What becomes of a disk on which something else than a directory is renamed. -/
inductive Moved (d : Disk) (l : Location) (e : Entry) (m : Location) : Disk → Prop
  | placed (below : m ≠ []) (free : d.at? m = none) : Moved d l e m (d.relocate l m)
  | unmoved (same : m = l) : Moved d l e m d
  | replaced {old : Entry} (below : m ≠ []) (other : m ≠ l) (lies : d.at? m = some old)
      (no_directory : old ≠ .directory) : Moved d l e m ((d.erase l).put m e)

theorem move_of_rename {d d' : Disk} {source target : Path}
    (h : d.rename source target = .ok d') : d.move source target = .ok d' := by
  unfold rename at h
  split at h
  · cases h
  · exact h

theorem moved_of_rename {d d' : Disk} {source target : Path}
    (h : d.rename source target = .ok d') {l : Location} {e : Entry} {named slash : Bool}
    (walked : d.walk .listed source = .ok ⟨.found l e, named, slash⟩) (other : e ≠ .directory) :
    ∃ b, d.walk .listed target = .ok b ∧ b.named = true ∧ b.slash = false ∧
      Moved d l e b.place.location d' := by
  replace h := move_of_rename h
  unfold move at h
  rw [walked] at h
  cases arrived : d.walk .listed target with
  | error e =>
    rw [arrived] at h
    cases h
  | ok b =>
    rw [arrived] at h
    have walks := (walk_eq_ok_iff.mp arrived).2
    refine ⟨b, rfl, ?_⟩
    obtain ⟨place, b_named, b_slash⟩ := b
    cases named <;> cases b_named <;> try cases h
    simp only [bind, Except.bind, pure, Except.pure, throw, throwThe, MonadExceptOf.throw,
      Bool.not_true, Bool.or_self, Bool.false_eq_true, if_false, other, ne_eq, not_false_eq_true,
      decide_true, Bool.true_and] at h
    cases slash <;> cases b_slash <;> try cases h
    refine ⟨rfl, rfl, ?_⟩
    cases place with
    | vacant directory name =>
      by_cases inside : l.isPrefixOf (directory ++ [name]) = true
      · simp [inside] at h
      · obtain rfl : d.relocate l (directory ++ [name]) = d' := by
          simpa [inside] using h
        exact .placed (by simp [Place.location]) walks.free
    | found m old =>
      by_cases same : l = m
      · subst same
        obtain rfl : d = d' := by simpa using h
        exact .unmoved rfl
      by_cases inside : l.isPrefixOf m = true
      · simp [same, inside] at h
      by_cases around : m.isPrefixOf l = true
      · simp [same, inside, around] at h
      by_cases directory : old = .directory
      · simp [same, inside, around, directory] at h
      obtain rfl : (d.erase l).put m e = d' := by
        simpa [same, inside, around, directory] using h
      have there := walks.at?_eq directory
      have below : m ≠ [] := by
        rintro rfl
        exact directory (Option.some.inj there).symm
      exact .replaced below (Ne.symm same) there directory

/-- An entry lies at the second place and no longer at the first, and nothing else has changed. -/
structure Exchanged (d d' : Disk) (l m : Location) (e : Entry) : Prop where
  cwd_eq : d'.cwd = d.cwd
  lies : d'.at? m = some e
  gone : d'.at? l = none
  elsewhere : ∀ place, place ≠ l → place ≠ m → d'.at? place = d.at? place

/-- What has nothing below it moves alone. -/
theorem Moved.exchanged {d d' : Disk} {l m : Location} {e : Entry} (h : Moved d l e m d')
    (leaf : d.Leaf l) (lies : d.at? l = some e) (below : l ≠ []) (other : m ≠ l) :
    Exchanged d d' l m e := by
  cases h with
  | placed new_below free =>
    refine ⟨rfl, at?_relocate_self below new_below lies free, ?_, fun place not_old not_new => ?_⟩
    · rw [at?_relocate_leaf leaf (Ne.symm other)]
      exact if_pos ⟨rfl, below⟩
    · rw [at?_relocate_leaf leaf not_new]
      exact if_neg fun ⟨old, _⟩ => not_old old
  | unmoved same => exact absurd same other
  | replaced new_below =>
    refine ⟨rfl, at?_put_self _ new_below e, ?_, fun place not_old not_new => ?_⟩
    · rw [at?_put_of_ne _ (Ne.symm other), at?_erase_self _ below]
    · rw [at?_put_of_ne _ not_new, at?_erase_of_ne _ not_old]

/-- Renaming puts the entry where the new name leads, and only the places of the two names and
what is below them may have changed. -/
structure Renamed (d d' : Disk) (l : Location) (e : Entry) (b : Arrival) : Prop where
  named : b.named = true
  no_slash : b.slash = false
  not_directory : d.isDirectoryAt b.place.location = false
  lies : d'.at? b.place.location = some e
  cwd_eq : d'.cwd = d.cwd
  kept : ∀ place, ¬l <+: place → ¬b.place.location <+: place → d'.at? place = d.at? place

theorem renamed_of_rename {d d' : Disk} {source target : Path}
    (h : d.rename source target = .ok d') {l : Location} {e : Entry} {named slash : Bool}
    (walked : d.walk .listed source = .ok ⟨.found l e, named, slash⟩) (other : e ≠ .directory) :
    ∃ b, d.walk .listed target = .ok b ∧ Renamed d d' l e b := by
  have lies : d.at? l = some e := (walk_eq_ok_iff.mp walked).2.at?_eq other
  have below : l ≠ [] := by
    rintro rfl
    exact other (Option.some.inj lies).symm
  obtain ⟨b, arrived, b_named, b_slash, moved⟩ := moved_of_rename h walked other
  refine ⟨b, arrived, ?_⟩
  generalize arrives : b.place.location = m at moved
  cases moved with
  | placed new_below free =>
    refine ⟨b_named, b_slash, ?_, ?_, rfl, ?_⟩
    · rw [arrives, isDirectoryAt, free]
      rfl
    · rw [arrives]
      exact at?_relocate_self below new_below lies free
    · rw [arrives]
      exact fun place => at?_relocate_of_clear
  | unmoved same =>
    subst same
    refine ⟨b_named, b_slash, ?_, arrives ▸ lies, rfl, fun _ _ _ => rfl⟩
    rw [arrives, isDirectoryAt, lies]
    simpa using other
  | replaced new_below _ there no_directory =>
    refine ⟨b_named, b_slash, ?_, ?_, rfl, fun place clear_old clear_new => ?_⟩
    · rw [arrives, isDirectoryAt, there]
      simpa using no_directory
    · rw [arrives]
      exact at?_put_self _ new_below _
    · rw [arrives] at clear_new
      have not_new : place ≠ m := fun h => clear_new (h ▸ List.prefix_refl m)
      have not_old : place ≠ l := fun h => clear_old (h ▸ List.prefix_refl l)
      rw [at?_put_of_ne _ not_new, at?_erase_of_ne _ not_old]

/-- What has been renamed is found under its new name, unless one of the two names is that of a
link. -/
theorem find_of_rename {d d' : Disk} {source target : Path}
    (above : ∀ place, place <+: (if Path.isAbsolute target then [] else d.cwd) →
      d.isDirectoryAt place = true)
    (h : d.rename source target = .ok d') {l : Location} {e : Entry} {named slash : Bool}
    (walked : d.walk .listed source = .ok ⟨.found l e, named, slash⟩) (other : e ≠ .directory)
    (no_link : ∀ target, e ≠ .link target)
    (unlinked : ∀ b, d.walk .listed target = .ok b →
      ∀ target, d.at? b.place.location ≠ some (.link target)) :
    ∃ b, d.walk .listed target = .ok b ∧ d'.find target = .ok (b.place.location, e) := by
  obtain ⟨b, arrived, renamed⟩ := renamed_of_rename h walked other
  obtain ⟨legal, walks⟩ := walk_eq_ok_iff.mp arrived
  have lies : d.at? l = some e := (walk_eq_ok_iff.mp walked).2.at?_eq other
  have no_old : d.Impasse l := .of_at? lies other no_link
  have no_new : d.Impasse b.place.location := ⟨renamed.not_directory, unlinked b arrived⟩
  have clear {place : Location} (impasse : d.Impasse place) :
      ¬place <+: (if Path.isAbsolute target then [] else d.cwd) := by
    intro inside
    have there := above place inside
    rw [impasse.no_directory] at there
    cases there
  have settled := walks.settled renamed.kept no_old no_new renamed.lies no_link renamed.named rfl
    (clear no_old) (clear no_new)
  rw [← renamed.cwd_eq, renamed.no_slash] at settled
  have found : d'.find target = .ok (b.place.location, e) :=
    find_eq_ok_iff.mpr ⟨true, false, walk_eq_ok_iff.mpr ⟨legal, settled⟩, nofun⟩
  exact ⟨b, arrived, found⟩

/-- Where there are no links, a file is written where its path leads, unless something special
lies there. -/
theorem put_of_write {d d' : Disk} (linkless : d.Linkless) {path : Path} {data : Bytes}
    (ordinary : ∀ special, d.at? (d.lexical path) ≠ some (.special special))
    (h : d.write path data = .ok d') :
    d.lexical path ≠ [] ∧ ∃ executable, d' = d.put (d.lexical path) (.file data executable) ∧
      d.Grows d' := by
  unfold write at h
  cases walked : d.walk .opened path with
  | error e =>
    rw [walked] at h
    cases h
  | ok a =>
    have walks := (walk_eq_ok_iff.mp walked).2
    have place := location_of_walk linkless walked
    rw [walked] at h
    obtain ⟨⟨l, e⟩ | ⟨directory, name⟩, named, slash⟩ := a
    · have there : l = d.lexical path := place
      subst there
      cases e with
      | file old executable =>
        have lies := walks.at?_eq nofun
        cases h
        refine ⟨fun root => ?_, executable, rfl, grows_put fun _ => ?_⟩
        · rw [root] at lies
          cases lies
        · rw [lies]
          exact .rewritten old data executable executable
      | directory => cases h
      | link target => exact absurd (walks.at?_eq nofun) (linkless _ _)
      | special special => exact absurd (walks.at?_eq nofun) (ordinary special)
    · have there : directory ++ [name] = d.lexical path := place
      have free := walks.free
      rw [there] at free
      cases h
      refine ⟨there ▸ by simp, false, there ▸ rfl, grows_put fun _ => ?_⟩
      rw [there, free]
      exact .written data false

/-- Where there are no links, a file that is written under one name and then renamed is read under
the other. -/
theorem find_of_write_rename {d written d' : Disk} (linkless : d.Linkless) (homed : d.Homed)
    {source target : Path} {data : Bytes}
    (ordinary : ∀ special, d.at? (d.lexical source) ≠ some (.special special))
    (wrote : d.write source data = .ok written) (renamed : written.rename source target = .ok d') :
    ∃ m executable, d'.find target = .ok (m, .file data executable) := by
  obtain ⟨below, executable, rfl, grows⟩ := put_of_write linkless ordinary wrote
  have lies := at?_put_self d below (.file data executable)
  have still := linkless.grow grows
  cases walked : (d.put (d.lexical source) (.file data executable)).walk .listed source with
  | error e =>
    have moved := move_of_rename renamed
    rw [move, walked] at moved
    cases moved
  | ok a =>
    have walks := (walk_eq_ok_iff.mp walked).2
    have place : a.place.location = d.lexical source := location_of_walk still walked
    obtain ⟨⟨l, e⟩ | ⟨directory, name⟩, named, slash⟩ := a
    · have there : l = d.lexical source := place
      have entry := walks.lies
      rw [there, lies] at entry
      obtain rfl : .file data executable = e := entry
      have above (place : Location)
          (inside : place <+: if Path.isAbsolute target then [] else d.cwd) :
          (d.put (d.lexical source) (.file data executable)).isDirectoryAt place = true := by
        split at inside
        · rw [List.prefix_nil.mp inside]
          rfl
        · exact homed.grow grows place inside
      obtain ⟨b, -, found⟩ := find_of_rename above renamed walked nofun nofun
        fun b _ => still b.place.location
      exact ⟨_, executable, found⟩
    · have there : directory ++ [name] = d.lexical source := place
      have free := walks.free
      rw [there, lies] at free
      cases free

end Mender.Disk
