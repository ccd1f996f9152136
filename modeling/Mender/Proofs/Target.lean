import Mender.Proofs.Path.Naming
import Mender.Target

/-!
# Directories read as one text

What is read of a directory is settled by its member files, which are its readable files of
text with a stem and the extension of the language. They stand one after another in the order
of the bytes of their names, in whatever order the directory lists them: `read_directory`.
-/

namespace Mender

namespace Path

open Text

variable {name extension : Path}

/-- A name has an extension without dots if that stands behind a stem and a dot. -/
theorem extension?_eq_some_iff (plain : Plain name) (dotless : dot ∉ extension.bytes) :
    extension? name = some extension ↔
      ∃ stem : Path, stem.bytes ≠ [] ∧ name.bytes = stem.bytes ++ dot :: extension.bytes := by
  rw [extension?, plain.fileName?_eq, Option.bind_some]
  constructor
  · intro found
    rcases splitName_cases name with bare | ⟨stem, e, nonempty, -, parts, split⟩
    · rw [bare] at found
      cases found
    · rw [split] at found
      obtain rfl := Option.some.inj found
      exact ⟨stem, nonempty, parts⟩
  · rintro ⟨stem, nonempty, parts⟩
    have inside : ∀ b ∈ extension.bytes.reverse, decide (b ≠ dot) = true := by
      intro b mem
      exact decide_eq_true fun dotted => dotless (dotted ▸ List.mem_reverse.mp mem)
    obtain ⟨front, behind⟩ := span_append_cons (c := dot) inside (by simp) stem.bytes.reverse
    have whole : name.bytes.reverse = extension.bytes.reverse ++ dot :: stem.bytes.reverse := by
      simp [parts]
    have stem_nonempty : stem.bytes.reverse ≠ [] := by simpa using nonempty
    unfold splitName
    dsimp only
    rw [whole, front, behind]
    split
    · next h => cases h
    · next h => exact absurd (List.cons.inj h).2 stem_nonempty
    · rw [List.reverse_reverse]

end Path

namespace Disk

variable {d d' : Disk} {l : Location}

/-- A disk as systems keep it: one entry at each place, under names that are names. -/
structure Tidy (d : Disk) : Prop where
  distinct : (d.entries.map Prod.fst).Nodup
  plain : ∀ e ∈ d.entries, ∀ name ∈ e.1, Path.Plain name

/-- What is directly below a location is what lies a name further on. -/
theorem children_eq (d : Disk) (l : Location) :
    (d.children l).map (fun c => (l ++ [c.1], c.2)) =
      d.entries.filter fun f => f.1 ≠ [] && f.1.dropLast = l := by
  rw [children, List.map_filterMap, ← List.filterMap_eq_filter]
  refine List.filterMap_congr fun f _ => ?_
  obtain ⟨place, e⟩ := f
  rcases List.eq_nil_or_concat place with rfl | ⟨front, name, rfl⟩
  · rfl
  · by_cases above : front = l
    · subst above
      simp [Option.guard]
    · simp [Option.guard, above]

theorem mem_entries_iff (tidy : d.Tidy) (below : l ≠ []) {e : Entry} :
    (l, e) ∈ d.entries ↔ d.at? l = some e := by
  have distinct := tidy.distinct
  rw [at?, if_neg below]
  generalize d.entries = entries at distinct ⊢
  induction entries with
  | nil => simp
  | cons f entries ih =>
    obtain ⟨m, g⟩ := f
    rw [List.map_cons, List.nodup_cons] at distinct
    rw [List.mem_cons, List.lookup_cons]
    by_cases here : l = m
    · subst here
      have once : (l, e) ∉ entries := fun mem => distinct.1 (List.mem_map.mpr ⟨_, mem, rfl⟩)
      simp [once, eq_comm]
    · have later := ih distinct.2
      simp [here, beq_false_of_ne here, later]

theorem mem_children_iff (tidy : d.Tidy) {name : Path} {e : Entry} :
    (name, e) ∈ d.children l ↔ d.at? (l ++ [name]) = some e := by
  have place_inj : Function.Injective fun c : Path × Entry => (l ++ [c.1], c.2) := by
    intro a b same
    simpa [Prod.ext_iff] using same
  rw [← mem_entries_iff tidy (by simp), ← List.mem_map_of_injective place_inj, children_eq]
  simp

/-- No name is listed twice. -/
theorem Tidy.nodup_children (tidy : d.Tidy) (l : Location) :
    ((d.children l).map Prod.fst).Nodup := by
  have listed : (((d.children l).map Prod.fst).map fun name => l ++ [name]).Nodup := by
    have places := congrArg (List.map Prod.fst) (children_eq d l)
    rw [List.map_map] at places ⊢
    exact places ▸ tidy.distinct.sublist (List.filter_sublist.map Prod.fst)
  exact listed.of_map

theorem Tidy.of_perm (tidy : d.Tidy) (perm : d'.entries.Perm d.entries) : d'.Tidy where
  distinct := (perm.map Prod.fst).nodup_iff.mpr tidy.distinct
  plain e mem := tidy.plain e (perm.mem_iff.mp mem)

/-- The order of the entries does not matter to what lies where. -/
theorem at?_of_perm (tidy : d.Tidy) (perm : d'.entries.Perm d.entries) (l : Location) :
    d'.at? l = d.at? l := by
  by_cases root : l = []
  · simp [at?, root]
  · refine Option.ext fun e => ?_
    rw [← mem_entries_iff (tidy.of_perm perm) root, ← mem_entries_iff tidy root, perm.mem_iff]

/-- What a path leads to is settled by what lies where. -/
theorem find_of_same (cwd : d'.cwd = d.cwd) (same : ∀ l, d'.at? l = d.at? l) {path : Path}
    {e : Entry} (h : d.find path = .ok (l, e)) : d'.find path = .ok (l, e) := by
  have grows : d.Grows d' := ⟨cwd, fun l => same l ▸ .same _⟩
  obtain ⟨named, slash, walked, unslashed⟩ := find_eq_ok_iff.mp h
  have again := walk_grow grows walked
  rw [same, (walk_eq_ok_iff.mp walked).2.lies] at again
  exact find_eq_ok_iff.mpr ⟨named, slash, again, unslashed⟩

end Disk

namespace Target

variable {disk other : Disk} {language : Language} {directory : Path}

/-- A file of the directory that belongs to the language, with what it holds. -/
structure IsMember (disk : Disk) (language : Language) (directory name : Path) (content : String) :
    Prop where
  listed : ∃ place, disk.find directory = .ok (place, .directory) ∧
    (disk.at? (place ++ [name])).isSome
  isFile : disk.isFile (Path.join directory name) = true
  holds : disk.readText (Path.join directory name) = .ok content
  named : ∃ stem : Path, stem.bytes ≠ [] ∧
    name.bytes = stem.bytes ++ Path.dot :: (Path.ofText language.extension).bytes

/-- All the member files, by the bytes of their names. -/
structure Lists (disk : Disk) (language : Language) (directory : Path)
    (files : List (Path × String)) : Prop where
  mem_iff : ∀ name content,
    (name, content) ∈ files ↔ IsMember disk language directory name content
  ascending : files.Pairwise fun a b => a.1.bytes < b.1.bytes

/-- A member file behind the line that names it. -/
def fileText (directory : Path) (file : Path × String) : String :=
  Language.fileMarker (directory.join file.1).shown ++ "\n" ++ file.2 ++ "\n\n"

/-- There is one order of the members only. -/
theorem Lists.unique {files files' : List (Path × String)}
    (h : Lists disk language directory files) (h' : Lists other language directory files')
    (same : ∀ name content, IsMember other language directory name content ↔
      IsMember disk language directory name content) : files' = files := by
  have irrefl : Std.Irrefl fun a b : Path × String => a.1.bytes < b.1.bytes :=
    ⟨fun a => List.lt_irrefl _⟩
  have antisymm : Std.Antisymm fun a b : Path × String => a.1.bytes < b.1.bytes :=
    ⟨fun a b below above => absurd above (List.lt_asymm below)⟩
  refine h'.ascending.eq_of_mem_iff h.ascending fun ⟨name, content⟩ => ?_
  rw [h'.mem_iff, h.mem_iff, same]

/-- The names in a directory, none if it cannot be listed. -/
def listing (disk : Disk) (directory : Path) : List Path :=
  (disk.names directory).toOption.getD []

theorem listing_eq (disk : Disk) (directory : Path) :
    listing disk directory =
      match disk.find directory with
      | .ok (place, .directory) => (disk.children place).map Prod.fst
      | _ => [] := by
  unfold listing Disk.names
  cases disk.find directory with
  | error e => rfl
  | ok there =>
    obtain ⟨place, e⟩ := there
    cases e <;> rfl

/-- The names that are listed are those under which something lies. -/
theorem mem_listing_iff (tidy : disk.Tidy) {name : Path} :
    name ∈ listing disk directory ↔ ∃ place, disk.find directory = .ok (place, .directory) ∧
      (disk.at? (place ++ [name])).isSome := by
  rw [listing_eq]
  split
  · next place found =>
    rw [found]
    simp [Option.isSome_iff_exists, ← Disk.mem_children_iff tidy]
  · next other =>
    refine ⟨nofun, fun ⟨place, found, _⟩ => ?_⟩
    exact absurd found (other place)

theorem nodup_listing (tidy : disk.Tidy) (directory : Path) :
    (listing disk directory).Nodup := by
  rw [listing_eq]
  split
  · exact tidy.nodup_children _
  · exact List.nodup_nil

theorem plain_of_listed (tidy : disk.Tidy) {name : Path}
    (listed : name ∈ listing disk directory) : Path.Plain name := by
  obtain ⟨place, -, there⟩ := (mem_listing_iff tidy).mp listed
  obtain ⟨e, there⟩ := Option.isSome_iff_exists.mp there
  have mem := (Disk.mem_entries_iff tidy (by simp)).mpr there
  exact tidy.plain _ mem name (by simp)

theorem mem_members_iff (tidy : disk.Tidy) (dotless : '.' ∉ language.extension.toList)
    {name : Path} {content : String} :
    name ∈ members disk language directory ∧
        disk.readText (Path.join directory name) = .ok content ↔
      IsMember disk language directory name content := by
  have unspoiled := Path.dot_mem_ofText.not.mpr dotless
  rw [members, ← listing, List.mem_mergeSort, List.mem_filter, Bool.and_eq_true,
    decide_eq_true_iff]
  constructor
  · rintro ⟨⟨listed, isFile, extension⟩, holds⟩
    have named := (Path.extension?_eq_some_iff (plain_of_listed tidy listed) unspoiled).mp extension
    exact ⟨(mem_listing_iff tidy).mp listed, isFile, holds, named⟩
  · rintro ⟨there, isFile, holds, named⟩
    have listed := (mem_listing_iff tidy).mpr there
    have extension :=
      (Path.extension?_eq_some_iff (plain_of_listed tidy listed) unspoiled).mpr named
    exact ⟨⟨listed, isFile, extension⟩, holds⟩

/-- The members are sorted, and none comes twice. -/
theorem members_ascending (tidy : disk.Tidy) :
    (members disk language directory).Pairwise fun a b => a.bytes < b.bytes := by
  rw [members, ← listing]
  have sorted (names : List Path) :
      (names.mergeSort fun a b => a.bytes ≤ b.bytes).Pairwise fun a b => a.bytes ≤ b.bytes :=
    (@List.pairwise_mergeSort _ (fun a b : Path => decide (a.bytes ≤ b.bytes))
      (fun a b c => by simpa using List.le_trans)
      (fun a b => by simpa using List.le_total a.bytes b.bytes) names).imp of_decide_eq_true
  have distinct := (nodup_listing tidy directory).filter fun name =>
    disk.isFile (Path.join directory name) &&
      Path.extension? name = some (.ofText language.extension)
  have apart := (List.mergeSort_perm _
    (fun a b : Path => decide (a.bytes ≤ b.bytes))).nodup_iff.mpr distinct
  refine ((sorted _).and apart).imp fun {a b} ⟨below, other⟩ => ?_
  exact Std.lt_of_le_of_ne below fun same => other (congrArg Path.mk same)

/-- A file that cannot be read adds nothing. -/
theorem join_memberText (disk : Disk) (directory : Path) (names : List Path) :
    String.join (names.map fun name => memberText disk (Path.join directory name)) =
      String.join ((names.filterMap fun name =>
        (disk.readText (Path.join directory name)).toOption.map (name, ·)).map
          (fileText directory)) := by
  induction names with
  | nil => rfl
  | cons name names ih =>
    rw [List.map_cons, String.join_cons, ih, List.filterMap_cons, memberText]
    cases disk.readText (Path.join directory name) with
    | error e => simp [Except.toOption]
    | ok content => simp [Except.toOption, fileText]

/-- The members are listed in full and in order, and the reading is made of them. -/
theorem exists_lists (tidy : disk.Tidy) (dotless : '.' ∉ language.extension.toList)
    (directory : Path) :
    ∃ files, Lists disk language directory files ∧
      read disk language ⟨directory, true⟩ = String.join (files.map (fileText directory)) := by
  refine ⟨_, ⟨fun name content => ?_, ?_⟩, join_memberText disk directory _⟩
  · rw [← mem_members_iff tidy dotless, List.mem_filterMap]
    constructor
    · rintro ⟨member, mem, read⟩
      obtain ⟨text, holds, same⟩ := Option.map_eq_some_iff.mp read
      obtain ⟨rfl, rfl⟩ := Prod.mk.inj same
      refine ⟨mem, ?_⟩
      cases text_read : disk.readText (Path.join directory member) with
      | error e =>
        rw [text_read] at holds
        cases holds
      | ok content =>
        rw [text_read] at holds
        cases holds
        rfl
    · rintro ⟨mem, holds⟩
      exact ⟨name, mem, by rw [holds]; rfl⟩
  · rw [List.pairwise_filterMap]
    refine (members_ascending tidy).imp fun {a b} below file found file' found' => ?_
    obtain ⟨text, -, rfl⟩ := Option.map_eq_some_iff.mp found
    obtain ⟨text', -, rfl⟩ := Option.map_eq_some_iff.mp found'
    exact below

/-- Disks with the same entries in another order have the same members. -/
theorem isMember_of_perm {shuffled : Disk} (tidy : disk.Tidy) (cwd : shuffled.cwd = disk.cwd)
    (perm : shuffled.entries.Perm disk.entries) {name : Path} {content : String}
    (h : IsMember disk language directory name content) :
    IsMember shuffled language directory name content := by
  have same := Disk.at?_of_perm tidy perm
  have found {path : Path} {place : Location} {e : Entry}
      (h : disk.find path = .ok (place, e)) : shuffled.find path = .ok (place, e) :=
    Disk.find_of_same cwd same h
  obtain ⟨⟨place, above, there⟩, isFile, holds, named⟩ := h
  obtain ⟨⟨l, e⟩, leads⟩ : ∃ end_, disk.find (Path.join directory name) = .ok end_ := by
    cases leads : disk.find (Path.join directory name) with
    | error failure =>
      rw [Disk.isFile, leads] at isFile
      cases isFile
    | ok end_ => exact ⟨end_, rfl⟩
  refine ⟨⟨place, found above, by rwa [same]⟩, ?_, ?_, named⟩
  · rwa [Disk.isFile, found leads, ← leads]
  · rwa [Disk.readText, Disk.read, found leads, ← leads]

/-- What is read of a directory are its member files, each behind a line that names it, by the
bytes of their names. Neither the order in which the disk lists its entries nor anything that is
no member has a part in it. -/
theorem read_directory (dotless : '.' ∉ language.extension.toList) (directory : Path)
    (tidy : disk.Tidy) :
    (∃ files, Lists disk language directory files ∧
      read disk language ⟨directory, true⟩ = String.join (files.map (fileText directory))) ∧
    (∀ other : Disk, other.Tidy →
      (∀ name content, IsMember other language directory name content ↔
        IsMember disk language directory name content) →
      read other language ⟨directory, true⟩ = read disk language ⟨directory, true⟩) ∧
    ∀ shuffled : Disk, shuffled.cwd = disk.cwd → shuffled.entries.Perm disk.entries →
      read shuffled language ⟨directory, true⟩ = read disk language ⟨directory, true⟩ := by
  have settled (other : Disk) (tidy' : other.Tidy)
      (same : ∀ name content, IsMember other language directory name content ↔
        IsMember disk language directory name content) :
      read other language ⟨directory, true⟩ = read disk language ⟨directory, true⟩ := by
    obtain ⟨files, lists, whole⟩ := exists_lists tidy dotless directory
    obtain ⟨files', lists', whole'⟩ := exists_lists tidy' dotless directory
    rw [whole, whole', lists.unique lists' same]
  refine ⟨exists_lists tidy dotless directory, settled, ?_⟩
  intro shuffled cwd perm
  have tidy' := tidy.of_perm perm
  exact settled shuffled tidy' fun name content =>
    ⟨isMember_of_perm tidy' cwd.symm perm.symm, isMember_of_perm tidy cwd perm⟩

open scoped Mender.Path

/-- A file and a link to it among entries that are no members: one that is no text, one with no
stem, and a directory. -/
def mixedDisk : Disk where
  entries :=
    [(["b.c"], .file [98] false), (["x.c"], .file [255] false), (["a.c"], .link "b.c"),
     ([".c"], .file [] false), (["d.c"], .directory)]
  cwd := []
  faults := []

def mixedLanguage : Language := { Language.default with extension := "c" }

theorem members_mixed :
    members mixedDisk mixedLanguage "/" = [("a.c" : Path), ("b.c" : Path), ("x.c" : Path)] := by
  cbv

theorem memberText_mixed :
    memberText mixedDisk (Path.join "/" "a.c") = "// FILE: /a.c\nb\n\n" ∧
      memberText mixedDisk (Path.join "/" "b.c") = "// FILE: /b.c\nb\n\n" ∧
      memberText mixedDisk (Path.join "/" "x.c") = "" := by
  refine ⟨?_, ?_, ?_⟩ <;> cbv

theorem read_directory_mixed :
    '.' ∉ mixedLanguage.extension.toList ∧ mixedDisk.Tidy ∧
      read ⟨mixedDisk.entries.reverse, [], []⟩ mixedLanguage ⟨"/", true⟩ =
        "// FILE: /a.c\nb\n\n// FILE: /b.c\nb\n\n" := by
  have dotless : '.' ∉ mixedLanguage.extension.toList := by decide
  have tidy : mixedDisk.Tidy := ⟨by decide, by decide⟩
  obtain ⟨-, -, shuffled⟩ := read_directory dotless "/" tidy
  obtain ⟨first, second, third⟩ := memberText_mixed
  have same := shuffled ⟨mixedDisk.entries.reverse, [], []⟩ rfl (List.reverse_perm _)
  refine ⟨dotless, tidy, same.trans ?_⟩
  rw [read, if_pos rfl, members_mixed, List.map_cons, List.map_cons, List.map_cons, first, second,
    third]
  decide

end Target

end Mender
