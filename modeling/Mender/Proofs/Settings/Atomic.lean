import Mender.Proofs.Disk.Naming
import Mender.Proofs.Filing
import Mender.Settings.File

/-!
# Settings are saved in full or not at all

A saving makes the directories above the path, writes a file beside the one at the path and
renames it. `Course` says how far it has come, and `save_atomic` what it has then left: the new
text where it succeeds, what was there before where it fails.
-/

namespace Mender.Settings

open scoped Mender.Path

variable {s : Settings} {disk made written disk' : Disk} {path parent name : Path}
  {l : Location} {data : Bytes} {result : Except Failure Unit}

/-- How a saving below a directory goes: each of its steps has gone well, or one has failed and
says so. -/
inductive Course (s : Settings) (path parent : Path) (disk : Disk) :
    Except Failure Unit → Disk → Prop
  | refused {failure : Failure} (invalid : s.validate = .error failure) :
      Course s path parent disk (.error failure) disk
  | unmade {cause : Cause} {made : Disk} (valid : s.validate = .ok ())
      (making : disk.makeDirectories parent = (.error cause, made)) :
      Course s path parent disk
        (.error ((Failure.ofCause cause).within ("create directory " ++ parent.shown))) made
  | unwritten {e : SystemError} {made written : Disk} (valid : s.validate = .ok ())
      (making : disk.makeDirectories parent = (.ok (), made))
      (writing : made.replace (temporary path) (Utf8.encode s.text) = (.error e, written)) :
      Course s path parent disk
        (.error
          ((Failure.ofCause (.system e)).within ("write temp config " ++ (temporary path).shown)))
        written
  | unmoved {e : SystemError} {made written : Disk} (valid : s.validate = .ok ())
      (making : disk.makeDirectories parent = (.ok (), made))
      (writing : made.replace (temporary path) (Utf8.encode s.text) = (.ok (), written))
      (moving : written.rename (temporary path) path = .error e) :
      Course s path parent disk
        (.error ((Failure.ofCause (.system e)).within ("replace config " ++ path.shown))) written
  | saved {made written disk' : Disk} (valid : s.validate = .ok ())
      (making : disk.makeDirectories parent = (.ok (), made))
      (writing : made.replace (temporary path) (Utf8.encode s.text) = (.ok (), written))
      (moving : written.rename (temporary path) path = .ok disk') :
      Course s path parent disk (.ok ()) disk'

/-- Valid settings with a directory to go to are saved in three steps. -/
theorem save_of_valid (valid : s.validate = .ok ()) (above : Path.parent? path = some parent) :
    save path s disk =
      (do
        Filing.makeDirectories ("create directory " ++ parent.shown) parent
        Filing.writeText ("write temp config " ++ (temporary path).shown) (temporary path) s.text
        Filing.change ("replace config " ++ path.shown) (·.rename (temporary path) path)) disk := by
  have checked : (s.validate : Filing Unit) disk = (.ok (), disk) := by
    rw [valid]
    rfl
  refine (bind_of_ok checked).trans ?_
  rw [above]

/-- Once the text is beside the path, what is left to do is to rename that file. -/
theorem save_of_written (above : Path.parent? path = some parent) (valid : s.validate = .ok ())
    (making : disk.makeDirectories parent = (.ok (), made))
    (writing : made.replace (temporary path) (Utf8.encode s.text) = (.ok (), written)) :
    save path s disk =
      Filing.change ("replace config " ++ path.shown) (·.rename (temporary path) path)
        written := by
  have makes := Filing.makeDirectories_apply ("create directory " ++ parent.shown) parent disk
  have writes := Filing.writeText_apply ("write temp config " ++ (temporary path).shown)
    (temporary path) s.text made
  rw [making] at makes
  rw [writing] at writes
  rw [save_of_valid valid above, bind_of_ok makes]
  exact bind_of_ok writes

theorem save_of_course (above : Path.parent? path = some parent)
    (h : Course s path parent disk result disk') : save path s disk = (result, disk') := by
  have makes := Filing.makeDirectories_apply ("create directory " ++ parent.shown) parent disk
  cases h with
  | refused invalid =>
    refine bind_of_error ?_
    rw [invalid]
    rfl
  | unmade valid making =>
    rw [making] at makes
    rw [save_of_valid valid above]
    exact bind_of_error makes
  | @unwritten _ made _ valid making writing =>
    have writes := Filing.writeText_apply ("write temp config " ++ (temporary path).shown)
      (temporary path) s.text made
    rw [making] at makes
    rw [writing] at writes
    rw [save_of_valid valid above, bind_of_ok makes]
    exact bind_of_error writes
  | unmoved valid making writing moving | saved valid making writing moving =>
    rw [save_of_written above valid making writing, Filing.change_apply, moving]

theorem exists_course (s : Settings) (path parent : Path) (disk : Disk) :
    ∃ result disk', Course s path parent disk result disk' := by
  cases valid : s.validate with
  | error failure => exact ⟨_, _, .refused valid⟩
  | ok _ =>
    rcases making : disk.makeDirectories parent with ⟨cause | _, made⟩
    · exact ⟨_, _, .unmade valid making⟩
    rcases writing : made.replace (temporary path) (Utf8.encode s.text) with ⟨e | _, written⟩
    · exact ⟨_, _, .unwritten valid making writing⟩
    cases moving : written.rename (temporary path) path with
    | error e => exact ⟨_, _, .unmoved valid making writing moving⟩
    | ok disk' => exact ⟨_, _, .saved valid making writing moving⟩

/-- A saving goes in one of these ways. -/
theorem course_of_save (s : Settings) (disk : Disk) (above : Path.parent? path = some parent) :
    Course s path parent disk (save path s disk).1 (save path s disk).2 := by
  obtain ⟨result, disk', course⟩ := exists_course s path parent disk
  rw [save_of_course above course]
  exact course

/-- A directory has been made at the place for a path that leads through it. -/
def Paved (parent : Path) (disk disk' : Disk) (l : Location) : Prop :=
  disk.at? l = none ∧ disk'.at? l = some .directory ∧
    ∃ steps, steps <+: Path.steps parent ∧ disk.Leads (disk.start parent) steps l

/-- What was at the place is there still, or a directory has been made where nothing was. -/
def Kept (parent : Path) (disk disk' : Disk) (l : Location) : Prop :=
  disk'.at? l = disk.at? l ∨ Paved parent disk disk' l

theorem kept_of_paves (paves : Disk.Paves parent disk made) (l : Location) :
    Kept parent disk made l := by
  by_cases same : made.at? l = disk.at? l
  · exact .inl same
  · exact .inr (paves.added l same)

theorem Kept.of_eq (h : Kept parent disk made l) (same : disk'.at? l = made.at? l) :
    Kept parent disk disk' l := by
  rcases h with kept | ⟨free, directory, led⟩
  · exact .inl (same.trans kept)
  · exact .inr ⟨free, same.trans directory, led⟩

/-- Devices are kept as they are. -/
theorem Kept.special {special : Special} (h : Kept parent disk made l)
    (lies : made.at? l = some (.special special)) : disk.at? l = some (.special special) := by
  rcases h with kept | ⟨-, directory, -⟩
  · exact kept.symm.trans lies
  · rw [directory] at lies
    cases lies

/-- The text is at the place that the path names, and nothing is at the place beside it. A device
that lay there has taken in what was written, and lies at the path itself. -/
structure Replaced (s : Settings) (path : Path) (disk disk' : Disk) (l m : Location) :
    Prop where
  names : disk.Names path l
  beside : disk.Names (temporary path) m
  gone : disk'.at? m = none
  missing : disk'.pathExists (temporary path) = false
  holds : (∃ executable, disk'.at? l = some (.file (Utf8.encode s.text) executable)) ∧
      disk'.readText path = .ok s.text ∨
    ∃ device, disk.at? m = some (.special device) ∧ disk'.at? l = some (.special device)

/-- What a saving leaves behind that has ended with the result. -/
structure Atomic (s : Settings) (path parent : Path) (disk : Disk)
    (result : Except Failure Unit) (disk' : Disk) : Prop where
  /-- The file that is written first is not the one at the path. -/
  apart : ∀ l, disk.Names path l → ¬disk.Names (temporary path) l
  replaced : result = .ok () → ∃ l m, Replaced s path disk disk' l m
  /-- A failure leaves at the path what was there. -/
  kept : ∀ failure, result = .error failure →
    ∀ l, disk.Names path l → Kept parent disk disk' l
  /-- Invalid settings change nothing. -/
  refused : ∀ failure, s.validate = .error failure → result = .error failure ∧ disk' = disk
  /-- Nothing else changes. -/
  elsewhere : ∀ l, ¬disk.Names path l → ¬disk.Names (temporary path) l →
    Kept parent disk disk' l

theorem parts_temporary (parts : Path.Parts path parent name) :
    Path.Parts (temporary path) parent (temporary name) :=
  parts.withExtension (by decide) (by decide)

theorem temporary_ne (plain : Path.Plain name) : temporary name ≠ name :=
  plain.withExtension_ne (by decide)

theorem names_apart (parts : Path.Parts path parent name) (names : disk.Names path l) :
    ¬disk.Names (temporary path) l := by
  intro names'
  obtain ⟨home, -, rfl⟩ := (Disk.names_iff parts).mp names
  obtain ⟨home', -, same⟩ := (Disk.names_iff (parts_temporary parts)).mp names'
  obtain ⟨-, last⟩ := List.append_inj' same rfl
  exact temporary_ne parts.plain (List.singleton_inj.mp last).symm

/-- Making the directories adds to the disk and keeps what was there. -/
theorem kept_of_making {answer : Except Cause Unit}
    (making : disk.makeDirectories parent = (answer, made)) :
    disk.Grows made ∧ ∀ l, Kept parent disk made l := by
  have paves := disk.paves_makeDirectories parent
  rw [making] at paves
  exact ⟨paves.grows, kept_of_paves paves⟩

/-- Once bytes have been written beside the path, everything else is kept still. -/
theorem staged (planted : disk.Planted) (parts : Path.Parts path parent name)
    (sibling : disk.Unlinked (temporary path))
    (making : disk.makeDirectories parent = (.ok (), made))
    (writing : made.write (temporary path) data = .ok written) :
    ∃ home e, disk.LeadsTo parent home ∧
      Disk.Delivered made written (home ++ [temporary name]) data e ∧
      ∀ l, ¬disk.Names (temporary path) l → Kept parent disk written l := by
  obtain ⟨grows, kept⟩ := kept_of_making making
  have still : made.Planted := by
    have planted' := planted.makeDirectories parent
    rw [making] at planted'
    exact planted'
  have beside := parts_temporary parts
  obtain ⟨home, e, led, delivered⟩ :=
    Disk.delivered_of_write still beside (sibling.grow grows) writing
  rw [grows.leadsTo_iff] at led
  refine ⟨home, e, led, delivered, fun l other => (kept l).of_eq (delivered.elsewhere l ?_)⟩
  rintro rfl
  exact other ((Disk.names_iff beside).mpr ⟨home, led, rfl⟩)

/-- Also where not all of the text could be written. -/
theorem kept_of_replacing {answer : Except SystemError Unit} (planted : disk.Planted)
    (parts : Path.Parts path parent name) (sibling : disk.Unlinked (temporary path))
    (making : disk.makeDirectories parent = (.ok (), made))
    (writing : made.replace (temporary path) data = (answer, written))
    (other : ¬disk.Names (temporary path) l) : Kept parent disk written l := by
  have came := made.replaced (temporary path) data
  rw [writing] at came
  cases came with
  | refused => exact (kept_of_making making).2 l
  | whole wrote | cut _ _ wrote =>
    obtain ⟨_, _, -, -, kept⟩ := staged planted parts sibling making wrote
    exact kept l other

/-- When the file has been renamed, the text is at the path and everything else is kept. -/
theorem exists_replaced (planted : disk.Planted) (parts : Path.Parts path parent name)
    (unlinked : disk.Unlinked path) (sibling : disk.Unlinked (temporary path))
    (making : disk.makeDirectories parent = (.ok (), made))
    (writing : made.replace (temporary path) (Utf8.encode s.text) = (.ok (), written))
    (moving : written.rename (temporary path) path = .ok disk') :
    (∃ l m, Replaced s path disk disk' l m) ∧
      ∀ l, ¬disk.Names path l → ¬disk.Names (temporary path) l → Kept parent disk disk' l := by
  obtain ⟨home, e, led, delivered, kept⟩ :=
    staged planted parts sibling making (Disk.write_of_replace writing)
  have beside := parts_temporary parts
  have names : disk.Names path (home ++ [name]) := (Disk.names_iff parts).mpr ⟨home, led, rfl⟩
  have names' : disk.Names (temporary path) (home ++ [temporary name]) :=
    (Disk.names_iff beside).mpr ⟨home, led, rfl⟩
  obtain ⟨grows, kept_made⟩ := kept_of_making making
  have grown := grows.trans delivered.grows
  obtain ⟨exchanged, found, missing⟩ := Disk.exchanged_of_rename delivered.planted beside parts
    (temporary_ne parts.plain) (grown.leadsTo_iff.mpr led) delivered.lies delivered.no_directory
    delivered.no_link (unlinked.grow grown) moving
  constructor
  · refine ⟨_, _, names, names', exchanged.gone, missing, ?_⟩
    rcases delivered.kind with ⟨executable, rfl⟩ | ⟨device, rfl, lay⟩
    · exact .inl ⟨⟨executable, exchanged.lies⟩, Disk.readText_of_find found⟩
    · exact .inr ⟨device, (kept_made _).special lay, exchanged.lies⟩
  · intro l other other'
    refine (kept l other').of_eq (exchanged.elsewhere l ?_ ?_)
    · rintro rfl
      exact other' names'
    · rintro rfl
      exact other names

/-- A path with a file name on a disk where neither it nor the path beside it names a link. -/
structure Savable (disk : Disk) (path name : Path) : Prop where
  planted : disk.Planted
  named : Path.fileName? path = some name
  unlinked : disk.Unlinked path
  sibling : disk.Unlinked (temporary path)

/-- Saving fails only where one of its steps does. It either puts the text of the settings at the
path or leaves there what it was, wherever it fails, and the only other places that it changes are
the one beside the path and those of new directories. -/
theorem save_atomic (s : Settings) (savable : Savable disk path name) :
    ∃ parent, Path.Parts path parent name ∧ Path.Parts (temporary path) parent (temporary name) ∧
      temporary name ≠ name ∧
      Course s path parent disk (save path s disk).1 (save path s disk).2 ∧
      Atomic s path parent disk (save path s disk).1 (save path s disk).2 := by
  obtain ⟨planted, named, unlinked, sibling⟩ := savable
  obtain ⟨parent, parts⟩ := Path.exists_parts named
  have course := course_of_save s disk parts.above
  refine ⟨parent, parts, parts_temporary parts, temporary_ne parts.plain, course, ?_⟩
  generalize (save path s disk).1 = result at course
  generalize (save path s disk).2 = disk' at course
  have apart (l : Location) (names : disk.Names path l) := names_apart parts names
  cases course with
  | refused invalid =>
    refine ⟨apart, nofun, fun _ _ l _ => .inl rfl, fun failure invalid' => ?_,
      fun l _ _ => .inl rfl⟩
    cases invalid.symm.trans invalid'
    exact ⟨rfl, rfl⟩
  | unmade valid making =>
    have kept := (kept_of_making making).2
    refine ⟨apart, nofun, fun _ _ l _ => kept l, fun failure invalid => ?_, fun l _ _ => kept l⟩
    cases valid.symm.trans invalid
  | unwritten valid making writing | unmoved valid making writing =>
    have kept (l : Location) (other : ¬disk.Names (temporary path) l) :=
      kept_of_replacing planted parts sibling making writing other
    refine ⟨apart, nofun, fun _ _ l names => kept l (apart l names), fun failure invalid => ?_,
      fun l _ other => kept l other⟩
    cases valid.symm.trans invalid
  | saved valid making writing moving =>
    obtain ⟨replaced, kept⟩ :=
      exists_replaced planted parts unlinked sibling making writing moving
    refine ⟨apart, fun _ => replaced, nofun, fun failure invalid => ?_, kept⟩
    cases valid.symm.trans invalid

/-- A disk with a link to the directory of a file. -/
def linkedDisk : Disk :=
  ⟨[(["p"], .directory), (["l"], .link "p"), (["p", "c"], .file [0] false)], [], []⟩

theorem names_linked {path name : Path} (parts : Path.Parts path "/l" name) :
    linkedDisk.Names path ["p", name] := by
  refine (Disk.names_iff parts).mpr ⟨["p"], ?_, rfl⟩
  have start : linkedDisk.start "/l" = [] := by decide
  have steps : Path.steps "/l" = [.down "l"] ∧ Path.steps "p" = [.down "p"] := by decide
  have relative : Path.isAbsolute "p" = false := by decide
  have linked : linkedDisk.at? ["l"] = some (.link "p") := rfl
  rw [Disk.LeadsTo, start, steps.1]
  refine .link linked ?_
  rw [relative, steps.2]
  exact .down (by rintro _ ⟨⟩) .done

theorem temporary_linked : temporary "/l/c" = "/l/c.toml.tmp" ∧ temporary "c" = "c.toml.tmp" := by
  decide +kernel

theorem parts_linked : Path.Parts "/l/c" "/l" "c" := ⟨by decide +kernel, by decide +kernel⟩

theorem savable_linked : Savable linkedDisk "/l/c" "c" := by
  have planted : linkedDisk.Planted := Disk.planted_of_entries (by decide)
  have beside := parts_temporary parts_linked
  rw [temporary_linked.2] at beside
  exact ⟨planted, parts_linked.last, (names_linked parts_linked).unlinked (by rintro _ ⟨⟩),
    (names_linked beside).unlinked (by rintro _ ⟨⟩)⟩

theorem save_linked : ∃ disk', save "/l/c" .default linkedDisk = (.ok (), disk') := by
  let data := Utf8.encode (text .default)
  let written := linkedDisk.put ["p", "c.toml.tmp"] (.file data false)
  have join : Path.join "/l" "c" = "/l/c" ∧ Path.join "/l" "c.toml.tmp" = "/l/c.toml.tmp" := by
    decide
  have opens : linkedDisk.Opens "/l" ["p"] := ⟨by cbv, rfl⟩
  have opens' : written.Opens "/l" ["p"] := opens.grow (Disk.grows_put fun _ => .written data false)
  have free : linkedDisk.walk .opened "/l/c.toml.tmp" =
      .ok ⟨.vacant ["p"] "c.toml.tmp", true, false⟩ := by
    rw [← join.2]
    exact Disk.walk_placeAt opens (by decide) (by rintro _ ⟨⟩)
  have source : written.walk .listed "/l/c.toml.tmp" =
      .ok ⟨.found ["p", "c.toml.tmp"] (.file data false), true, false⟩ := by
    rw [← join.2]
    exact Disk.walk_placeAt opens' (by decide) (by rintro _ ⟨⟩)
  have target : written.walk .listed "/l/c" =
      .ok ⟨.found ["p", "c"] (.file [0] false), true, false⟩ := by
    rw [← join.1]
    exact Disk.walk_placeAt opens' (by decide) (by rintro _ ⟨⟩)
  have making : linkedDisk.makeDirectories "/l" = (.ok (), linkedDisk) := by cbv
  have writing : linkedDisk.replace (temporary "/l/c") (Utf8.encode (text .default)) =
      (.ok (), written) := by
    refine Disk.replace_of_write (fun _ _ => rfl) ?_
    rw [temporary_linked.1, Disk.write, free]
    rfl
  have moving : written.rename (temporary "/l/c") "/l/c" =
      .ok ((written.erase ["p", "c.toml.tmp"]).put ["p", "c"] (.file data false)) := by
    rw [temporary_linked.1, Disk.rename, Disk.refusalAt?, Disk.refusalAt?, Disk.move, source,
      target]
    rfl
  exact ⟨_, save_of_course parts_linked.above (.saved rfl making writing moving)⟩

/-- A saving through the link. -/
theorem save_atomic_linked :
    Savable linkedDisk "/l/c" "c" ∧ ∃ disk', save "/l/c" .default linkedDisk = (.ok (), disk') ∧
      (∃ executable,
        disk'.at? ["p", "c"] = some (.file (Utf8.encode (text .default)) executable)) ∧
      disk'.readText "/l/c" = .ok (text .default) ∧ disk'.at? ["p", "c.toml.tmp"] = none := by
  obtain ⟨disk', ran⟩ := save_linked
  obtain ⟨parent, -, -, -, -, atomic⟩ := save_atomic .default savable_linked
  rw [ran] at atomic
  obtain ⟨l, m, replaced⟩ := atomic.replaced rfl
  have beside := names_linked (parts_temporary parts_linked)
  rw [temporary_linked.2] at beside
  obtain rfl := replaced.names.unique (names_linked parts_linked)
  obtain rfl := replaced.beside.unique beside
  refine ⟨savable_linked, disk', ran, ?_⟩
  rcases replaced.holds with ⟨lies, reads⟩ | ⟨device, lay, -⟩
  · exact ⟨lies, reads, replaced.gone⟩
  · cases lay

/-- A way to the root that goes through a directory. -/
theorem walk_back {d : Disk} (there : d.at? ["a"] = some .directory) (last : Disk.LastName) :
    d.walk last "/a/.." = .ok ⟨.found [] .directory, false, false⟩ := by
  have steps : Path.steps "/a/.." = [.down "a", .up] := by decide
  have start : (if Path.isAbsolute "/a/.." then [] else d.cwd) = [] := if_pos (by decide)
  have slash : Path.endsInSlash "/a/.." = false := by decide
  refine Disk.walk_eq_ok_iff.mpr ⟨by decide, ?_⟩
  rw [steps, start, slash]
  exact .down ⟨rfl, by simp, by decide⟩ there (by simp) (.up (decide_eq_true there) .done)

theorem make_back :
    Disk.makeDirectories ⟨[], [], []⟩ "/a/.." = (.ok (), ⟨[(["a"], .directory)], [], []⟩) := by
  let made : Disk := ⟨[(["a"], .directory)], [], []⟩
  have first : Disk.makeDirectories ⟨[], [], []⟩ "/a" = (.ok (), made) := by cbv
  have steps : Path.steps "/a/.." = [.down "a", .up] := by decide
  have missing : Disk.makeDirectory ⟨[], [], []⟩ "/a/.." = .error .notFound := by
    refine Disk.makeDirectory_of_missing (by decide) steps ⟨?_, by simp, by decide⟩ ?_
    · decide
    · decide
  have there : made.ensureDirectory "/a/.." = .ok made := by
    rw [Disk.ensureDirectory, Disk.makeDirectory, Disk.make, walk_back rfl]
    have found : made.find "/a/.." = .ok ([], .directory) :=
      Disk.find_eq_ok_iff.mpr ⟨_, _, walk_back rfl _, by simp⟩
    simp [bind, Except.bind, throw, throwThe, MonadExceptOf.throw, Disk.isDirectory, found]
  exact Disk.makeDirectories_of_missing (by decide) missing (by decide +kernel) first there

/-- The way to the directory leads through the path itself, so that a directory is made there
before the saving fails. -/
theorem save_around :
    ∃ failure written, save "/a/../a" .default ⟨[], [], []⟩ = (.error failure, written) ∧
      written.at? ["a"] = some .directory := by
  let data := Utf8.encode (text .default)
  let made : Disk := ⟨[(["a"], .directory)], [], []⟩
  let written := made.put ["a.toml.tmp"] (.file data false)
  have join : Path.join "/a/.." "a" = "/a/../a" ∧
      Path.join "/a/.." "a.toml.tmp" = "/a/../a.toml.tmp" ∧
      temporary "/a/../a" = "/a/../a.toml.tmp" := by decide +kernel
  obtain ⟨join_target, join_source, beside⟩ := join
  have opens : made.Opens "/a/.." [] :=
    ⟨Disk.find_eq_ok_iff.mpr ⟨_, _, walk_back rfl _, by simp⟩, rfl⟩
  have opens' : written.Opens "/a/.." [] := opens.grow (Disk.grows_put fun _ => .written data false)
  have free : made.walk .opened "/a/../a.toml.tmp" =
      .ok ⟨.vacant [] "a.toml.tmp", true, false⟩ := by
    rw [← join_source]
    exact Disk.walk_placeAt opens (by decide) (by rintro _ ⟨⟩)
  have source : written.walk .listed "/a/../a.toml.tmp" =
      .ok ⟨.found ["a.toml.tmp"] (.file data false), true, false⟩ := by
    rw [← join_source]
    exact Disk.walk_placeAt opens' (by decide) (by rintro _ ⟨⟩)
  have target : written.walk .listed "/a/../a" = .ok ⟨.found ["a"] .directory, true, false⟩ := by
    rw [← join_target]
    exact Disk.walk_placeAt opens' (by decide) (by rintro _ ⟨⟩)
  have writing : made.replace (temporary "/a/../a") (Utf8.encode (text .default)) =
      (.ok (), written) := by
    refine Disk.replace_of_write (fun _ _ => rfl) ?_
    rw [beside, Disk.write, free]
    rfl
  have moving : written.rename (temporary "/a/../a") "/a/../a" = .error .isDirectory := by
    rw [beside, Disk.rename, Disk.refusalAt?, Disk.refusalAt?, Disk.move, source, target]
    rfl
  exact ⟨_, written,
    save_of_course (by decide +kernel) (.unmoved rfl make_back writing moving), rfl⟩

/-- A disk with a device where settings would first be written. -/
def deviceDisk : Disk := ⟨[(["x.toml.tmp"], .special .null)], [], []⟩

/-- What is written to a device is not put in place. -/
theorem save_device :
    ∃ disk', save "/x" .default deviceDisk = (.ok (), disk') ∧
      disk'.at? ["x"] = some (.special .null) := by
  have join : Path.join "/" "x" = "/x" ∧ Path.join "/" "x.toml.tmp" = "/x.toml.tmp" ∧
      temporary "/x" = "/x.toml.tmp" := by decide +kernel
  obtain ⟨join_target, join_source, beside⟩ := join
  have opens : deviceDisk.Opens "/" [] := ⟨by cbv, rfl⟩
  have source (last : Disk.LastName) : deviceDisk.walk last "/x.toml.tmp" =
      .ok ⟨.found ["x.toml.tmp"] (.special .null), true, false⟩ := by
    rw [← join_source]
    exact Disk.walk_placeAt opens (by decide) (by rintro _ ⟨⟩)
  have target : deviceDisk.walk .listed "/x" = .ok ⟨.vacant [] "x", true, false⟩ := by
    rw [← join_target]
    exact Disk.walk_placeAt opens (by decide) (by rintro _ ⟨⟩)
  have making : deviceDisk.makeDirectories "/" = (.ok (), deviceDisk) := by cbv
  have writing : deviceDisk.replace (temporary "/x") (Utf8.encode (text .default)) =
      (.ok (), deviceDisk) := by
    refine Disk.replace_of_write (fun _ _ => rfl) ?_
    rw [beside, Disk.write, source]
    rfl
  have moving : deviceDisk.rename (temporary "/x") "/x" =
      .ok (deviceDisk.relocate ["x.toml.tmp"] ["x"]) := by
    rw [beside, Disk.rename, Disk.refusalAt?, Disk.refusalAt?, Disk.move, source, target]
    rfl
  exact ⟨_, save_of_course (by decide +kernel) (.saved rfl making writing moving), rfl⟩

theorem names_around {path name : Path} (parts : Path.Parts path "/a/.." name) :
    Disk.Names ⟨[], [], []⟩ path [name] := by
  refine (Disk.names_iff parts).mpr ⟨[], ?_, rfl⟩
  have start : Disk.start ⟨[], [], []⟩ "/a/.." = [] := by decide
  have steps : Path.steps "/a/.." = [.down "a", .up] := by decide
  rw [Disk.LeadsTo, start, steps]
  exact .down (by rintro _ ⟨⟩) (.up .done)

theorem names_device {path name : Path} (parts : Path.Parts path "/" name) :
    deviceDisk.Names path [name] := by
  refine (Disk.names_iff parts).mpr ⟨[], ?_, rfl⟩
  have start : deviceDisk.start "/" = [] := by decide
  have steps : Path.steps "/" = [] := by decide
  rw [Disk.LeadsTo, start, steps]
  exact .done

/-- A saving may leave at the path neither what was there nor the text: a directory where it fails,
and a device where it succeeds. -/
theorem save_not_atomic :
    (Savable ⟨[], [], []⟩ "/a/../a" "a" ∧ Disk.Names ⟨[], [], []⟩ "/a/../a" ["a"] ∧
      ∃ failure disk', save "/a/../a" .default ⟨[], [], []⟩ = (.error failure, disk') ∧
        disk'.at? ["a"] ≠ Disk.at? ⟨[], [], []⟩ ["a"]) ∧
    Savable deviceDisk "/x" "x" ∧ deviceDisk.Names "/x" ["x"] ∧
      ∃ disk', save "/x" .default deviceDisk = (.ok (), disk') ∧
        ∀ executable, disk'.at? ["x"] ≠ some (.file (Utf8.encode (text .default)) executable) := by
  have around : Path.Parts "/a/../a" "/a/.." "a" := ⟨by decide +kernel, by decide +kernel⟩
  have device : Path.Parts "/x" "/" "x" := ⟨by decide +kernel, by decide +kernel⟩
  constructor
  · have names := names_around around
    obtain ⟨failure, disk', ran, made⟩ := save_around
    refine ⟨⟨Disk.planted_of_entries (by decide), around.last, names.unlinked (by rintro _ ⟨⟩),
      ?_⟩, names, failure, disk', ran, ?_⟩
    · exact (names_around (parts_temporary around)).unlinked (by simp [Disk.at?])
    · have free : Disk.at? ⟨[], [], []⟩ ["a"] = none := rfl
      rw [made, free]
      simp
  · have names := names_device device
    have beside := names_device (parts_temporary device)
    have temporary_x : temporary "x" = "x.toml.tmp" := by decide +kernel
    rw [temporary_x] at beside
    obtain ⟨disk', ran, lies⟩ := save_device
    refine ⟨⟨Disk.planted_of_entries (by decide), device.last, names.unlinked (by rintro _ ⟨⟩),
      beside.unlinked (by rintro _ ⟨⟩)⟩, names, disk', ran, ?_⟩
    intro executable
    rw [lies]
    simp

end Mender.Settings
