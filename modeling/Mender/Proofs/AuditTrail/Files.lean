import Mender.Proofs.AuditTrail
import Mender.Proofs.Disk.Below
import Mender.Target

/-!
# The files of an audit trail

Which files a pass and the outcome of a run leave, and what is in them. As long as no two files of
a trail lie at one place, each of them keeps what was written to it last.
-/

namespace Mender

/-- The path leads to a file that holds the data. -/
def Disk.Shows (d : Disk) (path : Path) (data : Bytes) : Prop :=
  ∃ l executable, d.find path = .ok (l, .file data executable)

namespace Decimal

theorem natText_inj {m n : Nat} (h : natText m = natText n) : m = n := by
  rw [← value_digits m, String.ofList_injective h, value_digits]

end Decimal

namespace AuditTrail

open scoped Mender.Path

/-- The texts that a pass leaves, by the names of their files, in the order of writing. -/
def contents (pass : Pass) (snapshot : Snapshot) (attempt? : Option Attempt) :
    List (Path × String) :=
  ("meta.json", pass.toJson.pretty ++ "\n") ::
    ("diagnostics.json", snapshot.toJson.pretty ++ "\n") ::
    match attempt? with
    | none => []
    | some attempt =>
      [("prompt.md", attempt.prompt), ("oracle.json", attempt.toJson.pretty ++ "\n")]

/-- The texts have been written below a directory, one after another. -/
inductive Wrote (directory : Path) : List (Path × String) → Disk → Disk → Prop
  | nil {d} : Wrote directory [] d d
  | cons {name text files d d' d''}
      (wrote : d.replace (Path.join directory name) (Utf8.encode text) = (.ok (), d'))
      (more : Wrote directory files d' d'') : Wrote directory ((name, text) :: files) d d''

variable {dir other : Path} {d d' d'' : Disk} {pass : Pass} {snapshot : Snapshot}
  {attempt? : Option Attempt}

theorem Wrote.grows {directory : Path} {files : List (Path × String)}
    (h : Wrote directory files d d') : d.Grows d' := by
  induction h with
  | nil => exact .refl _
  | cons wrote _ ih =>
    rcases Disk.leadsTo_of_write (Disk.write_of_replace wrote) with rfl | ⟨_, _, -, -, grows⟩
    · exact ih
    · exact grows.trans ih

/-- Texts are written below a directory if nothing but files is in their place there and nothing
keeps the disk from being changed. -/
theorem exists_wrote {directory : Path} {m : Location} {files : List (Path × String)}
    (sound : d.faults = []) (opens : d.Opens directory m)
    (legal : ∀ file ∈ files, Disk.Legal directory file.1)
    (clear : ∀ file ∈ files, d.at? (m ++ [file.1]) = none ∨
      ∃ old executable, d.at? (m ++ [file.1]) = some (.file old executable)) :
    ∃ d', Wrote directory files d d' ∧ d.Grows d' ∧ d'.faults = [] ∧
      ∀ l, (∀ file ∈ files, l ≠ m ++ [file.1]) → d'.at? l = d.at? l := by
  induction files generalizing d with
  | nil => exact ⟨d, .nil, .refl d, sound, fun _ _ => rfl⟩
  | cons file files ih =>
    obtain ⟨legal_here, legal⟩ := List.forall_mem_cons.mp legal
    obtain ⟨clear_here, clear⟩ := List.forall_mem_cons.mp clear
    let data := Utf8.encode file.2
    obtain ⟨executable, wrote⟩ := Disk.exists_replace_join sound opens legal_here clear_here data
    have grows : d.Grows (d.put (m ++ [file.1]) (.file data executable)) := by
      refine Disk.grows_put fun _ => ?_
      rcases clear_here with free | ⟨old, executable', lies⟩
      · exact free ▸ .written data executable
      · exact lies ▸ .rewritten old data executable' executable
    have still_sound : (d.put (m ++ [file.1]) (.file data executable)).faults = [] := sound
    have still_clear : ∀ file' ∈ files,
        (d.put (m ++ [file.1]) (.file data executable)).at? (m ++ [file'.1]) = none ∨
          ∃ old executable', (d.put (m ++ [file.1]) (.file data executable)).at? (m ++ [file'.1]) =
            some (.file old executable') := by
      intro file' mem
      by_cases same : m ++ [file'.1] = m ++ [file.1]
      · exact .inr ⟨data, executable, same ▸ Disk.at?_put_self d (by simp) _⟩
      · rw [Disk.at?_put_of_ne d same]
        exact clear file' mem
    obtain ⟨d', more, grows', sound', unchanged⟩ :=
      ih still_sound (opens.grow grows) legal still_clear
    refine ⟨d', .cons wrote more, grows.trans grows', sound', fun l other => ?_⟩
    obtain ⟨other_here, other⟩ := List.forall_mem_cons.mp other
    rw [unchanged l other, Disk.at?_put_of_ne d other_here]

theorem writeText_eq_ok_iff {path : Path} {text : String} :
    writeText path text d = (.ok (), d') ↔ d.replace path (Utf8.encode text) = (.ok (), d') := by
  rw [writeText, Filing.writeText_apply]
  rcases d.replace path (Utf8.encode text) with ⟨_ | _, d''⟩
  · exact ⟨nofun, nofun⟩
  · constructor <;>
    · intro h
      cases h
      rfl

theorem makeDirectories_eq_ok_iff {doing : String} {path : Path} :
    Filing.makeDirectories doing path d = (.ok (), d') ↔
      d.makeDirectories path = (.ok (), d') := by
  rw [Filing.makeDirectories_apply]
  rcases d.makeDirectories path with ⟨_ | _, made⟩
  · exact ⟨nofun, nofun⟩
  · constructor <;>
    · intro h
      cases h
      rfl

/-- Leaving the files of a pass is making its directory and writing them there. -/
theorem writePass_eq_ok_iff {found : Places} :
    writePass dir pass snapshot attempt? d = (.ok found, d') ↔
      found = places dir pass.index ∧ ∃ made,
        d.makeDirectories (places dir pass.index).directory = (.ok (), made) ∧
        Wrote (places dir pass.index).directory (contents pass snapshot attempt?) made d' := by
  constructor
  · intro h
    obtain ⟨_, made, making, h⟩ := ok_of_bind h
    obtain ⟨_, d₁, record, h⟩ := ok_of_bind h
    obtain ⟨_, d₂, diagnostics, h⟩ := ok_of_bind h
    have wrote {d d' : Disk} {path : Path} {text : String}
        (h : writeText path text d = (.ok (), d')) := writeText_eq_ok_iff.mp h
    cases attempt? with
    | none =>
      obtain ⟨answered, rfl⟩ := Prod.mk.inj h
      exact ⟨(Except.ok.inj answered).symm, made, makeDirectories_eq_ok_iff.mp making,
        .cons (wrote record) (.cons (wrote diagnostics) .nil)⟩
    | some attempt =>
      obtain ⟨_, d₃, prompt, h⟩ := ok_of_bind h
      obtain ⟨_, d₄, oracle, h⟩ := ok_of_bind h
      obtain ⟨answered, rfl⟩ := Prod.mk.inj h
      exact ⟨(Except.ok.inj answered).symm, made, makeDirectories_eq_ok_iff.mp making,
        .cons (wrote record) (.cons (wrote diagnostics)
          (.cons (wrote prompt) (.cons (wrote oracle) .nil)))⟩
  · rintro ⟨rfl, made, making, wrote⟩
    refine (bind_of_ok (makeDirectories_eq_ok_iff.mpr making)).trans ?_
    cases attempt? with
    | none =>
      obtain _ | ⟨record, _ | ⟨diagnostics, ⟨⟩⟩⟩ := wrote
      refine (bind_of_ok (writeText_eq_ok_iff.mpr record)).trans ?_
      exact bind_of_ok (writeText_eq_ok_iff.mpr diagnostics)
    | some attempt =>
      obtain _ | ⟨record, _ | ⟨diagnostics, _ | ⟨prompt, _ | ⟨oracle, ⟨⟩⟩⟩⟩⟩ := wrote
      refine (bind_of_ok (writeText_eq_ok_iff.mpr record)).trans ?_
      refine (bind_of_ok (writeText_eq_ok_iff.mpr diagnostics)).trans ?_
      refine (bind_of_ok (writeText_eq_ok_iff.mpr prompt)).trans ?_
      exact bind_of_ok (writeText_eq_ok_iff.mpr oracle)

theorem writeOutcome_eq_ok_iff {outcome : Outcome} {found : Path} :
    writeOutcome dir outcome d = (.ok found, d') ↔
      found = resultPath dir ∧ ∃ made, d.makeDirectories dir = (.ok (), made) ∧
        Wrote dir [("result.json", outcome.toJson.pretty ++ "\n")] made d' := by
  constructor
  · intro h
    obtain ⟨_, made, making, h⟩ := ok_of_bind h
    obtain ⟨_, d₁, wrote, h⟩ := ok_of_bind h
    obtain ⟨answered, rfl⟩ := Prod.mk.inj h
    exact ⟨(Except.ok.inj answered).symm, made, makeDirectories_eq_ok_iff.mp making,
      .cons (writeText_eq_ok_iff.mp wrote) .nil⟩
  · rintro ⟨rfl, made, making, wrote⟩
    obtain _ | ⟨result, ⟨⟩⟩ := wrote
    refine (bind_of_ok (makeDirectories_eq_ok_iff.mpr making)).trans ?_
    exact bind_of_ok (writeText_eq_ok_iff.mpr result)

/-- The outcome is written to the file that its path leads to, be it through a link. -/
theorem exists_writeOutcome_of_find {l : Location} {old : Bytes} {executable : Bool}
    (sound : d.faults = []) (there : d.makeDirectories dir = (.ok (), d))
    (found : d.find (resultPath dir) = .ok (l, .file old executable)) (outcome : Outcome) :
    ∃ d', writeOutcome dir outcome d = (.ok (resultPath dir), d') ∧
      d'.fileAt? l = some (Utf8.encode (outcome.toJson.pretty ++ "\n")) := by
  obtain ⟨d', wrote, -, holds⟩ :=
    Disk.write_of_find found (Utf8.encode (outcome.toJson.pretty ++ "\n"))
  have replaced := Disk.replace_of_write (fun _ _ => by simp [Disk.fault?, sound]) wrote
  exact ⟨d', writeOutcome_eq_ok_iff.mpr ⟨rfl, d, there, .cons replaced .nil⟩, holds⟩

/-- No two files of the trail lie at one place, none lies where the other path leads, and nothing
special lies where they do. -/
structure Separate (dir other : Path) (d : Disk) : Prop where
  homed : d.Homed
  ordinary : ∀ path, IsFile dir path → ∀ l, d.LeadsTo path l →
    ∀ special, d.at? l ≠ some (.special special)
  distinct : ∀ path, IsFile dir path → ∀ path', IsFile dir path' → path ≠ path' →
    ∀ l, d.LeadsTo path l → ¬d.LeadsTo path' l
  apart : ∀ path, IsFile dir path → ∀ l, d.LeadsTo path l → ¬d.LeadsTo other l

/-- Files of the trail have been written, and the rest of the trail is what it was. -/
structure Fills (dir other : Path) (files : List (Path × Bytes)) (d d' : Disk) : Prop where
  separate : Separate dir other d'
  leadsTo_iff : ∀ path, IsFile dir path → ∀ l, d'.LeadsTo path l ↔ d.LeadsTo path l
  written : ∀ path data, (path, data) ∈ files → IsFile dir path ∧ d'.Shows path data
  shows : ∀ path, IsFile dir path → path ∉ files.map (·.1) →
    ∀ data, d.Shows path data → d'.Shows path data
  fileAt?_eq : ∀ path, IsFile dir path → path ∉ files.map (·.1) →
    ∀ l, d.LeadsTo path l → d'.fileAt? l = d.fileAt? l

variable {files later : List (Path × Bytes)}

theorem Separate.grow (h : Separate dir other d) (grows : d.Grows d') : Separate dir other d' where
  homed := h.homed.grow grows
  ordinary path file l led special there := by
    have grown := grows.entry l
    rw [there] at grown
    generalize here : d.at? l = before at grown
    cases grown
    exact h.ordinary path file l (grows.leadsTo_iff.mp led) special here
  distinct path file path' file' ne l led led' :=
    h.distinct path file path' file' ne l (grows.leadsTo_iff.mp led) (grows.leadsTo_iff.mp led')
  apart path file l led led' :=
    h.apart path file l (grows.leadsTo_iff.mp led) (grows.leadsTo_iff.mp led')

theorem Fills.refl (separate : Separate dir other d) : Fills dir other [] d d :=
  ⟨separate, fun _ _ _ => .rfl, nofun, fun _ _ _ _ shown => shown, fun _ _ _ _ _ => rfl⟩

theorem Fills.trans (h : Fills dir other files d d') (h' : Fills dir other later d' d'')
    (fresh : ∀ path ∈ files.map (·.1), path ∉ later.map (·.1)) :
    Fills dir other (files ++ later) d d'' where
  separate := h'.separate
  leadsTo_iff path file l := (h'.leadsTo_iff path file l).trans (h.leadsTo_iff path file l)
  written path data mem := by
    rcases List.mem_append.mp mem with mem | mem
    · obtain ⟨file, shown⟩ := h.written path data mem
      exact ⟨file, h'.shows path file (fresh path (List.mem_map_of_mem mem)) data shown⟩
    · exact h'.written path data mem
  shows path file unwritten data shown := by
    rw [List.map_append, List.mem_append, not_or] at unwritten
    exact h'.shows path file unwritten.2 data (h.shows path file unwritten.1 data shown)
  fileAt?_eq path file unwritten l led := by
    rw [List.map_append, List.mem_append, not_or] at unwritten
    have led' := (h.leadsTo_iff path file l).mpr led
    exact (h'.fileAt?_eq path file unwritten.2 l led').trans
      (h.fileAt?_eq path file unwritten.1 l led)

/-- A disk that has grown fills the files that it shows, if none of the others has changed. -/
theorem fills_of_grows (separate : Separate dir other d) (grows : d.Grows d')
    (shown : ∀ path data, (path, data) ∈ files → IsFile dir path ∧ d'.Shows path data)
    (unchanged : ∀ path, IsFile dir path → path ∉ files.map (·.1) →
      ∀ l, d.LeadsTo path l → d'.fileAt? l = d.fileAt? l) :
    Fills dir other files d d' where
  separate := separate.grow grows
  leadsTo_iff _ _ _ := grows.leadsTo_iff
  written := shown
  shows path file unwritten data := by
    rintro ⟨l, executable, found⟩
    have led := Disk.leadsTo_of_find found nofun
    have holds := (unchanged path file unwritten l led).trans (Disk.fileAt?_of_find found)
    obtain ⟨executable', found'⟩ := Disk.find_grow grows found holds
    exact ⟨l, executable', found'⟩
  fileAt?_eq := unchanged

theorem fills_makeDirectories (separate : Separate dir other d) {path : Path}
    {answer : Except Cause Unit} (made : d.makeDirectories path = (answer, d')) :
    Fills dir other [] d d' := by
  have beside := d.growsBeside_makeDirectories path
  rw [made] at beside
  exact fills_of_grows separate (beside []).grows nofun fun _ _ _ l _ => (beside l).fileAt?_eq

theorem fills_of_writeText (separate : Separate dir other d) {path : Path} {text : String}
    (file : IsFile dir path) (wrote : d.write path (Utf8.encode text) = .ok d') :
    Fills dir other [(path, Utf8.encode text)] d d' := by
  obtain ⟨l, executable, rfl, -, grows, found⟩ :=
    Disk.find_of_write separate.homed wrote (separate.ordinary path file)
  have led := grows.leadsTo_iff.mp (Disk.leadsTo_of_find found nofun)
  refine fills_of_grows separate grows ?_ fun path' file' unwritten l' led' => ?_
  · intro path' data mem
    cases List.mem_singleton.mp mem
    exact ⟨file, l, executable, found⟩
  · have ne : path ≠ path' := fun same => unwritten (by simp [same])
    have elsewhere : l' ≠ l := by
      rintro rfl
      exact separate.distinct path file path' file' ne l' led led'
    rw [Disk.fileAt?, Disk.at?_put_of_ne d elsewhere]
    rfl

/-- A write at the other path leaves the trail alone. -/
theorem fills_of_write_other (separate : Separate dir other d) {data : Bytes}
    (wrote : d.write other data = .ok d') : Fills dir other [] d d' := by
  rcases Disk.leadsTo_of_write wrote with rfl | ⟨l, executable, led, rfl, grows⟩
  · exact .refl separate
  · refine fills_of_grows separate grows nofun fun path file _ l' led' => ?_
    have elsewhere : l' ≠ l := by
      rintro rfl
      exact separate.apart path file l' led' led
    rw [Disk.fileAt?, Disk.at?_put_of_ne d elsewhere]
    rfl

/-- So does a write to the target that the other path is that of. -/
theorem fills_of_target_write {target : Target} (separate : Separate dir target.path d)
    (text : String) : Fills dir target.path [] d (target.write text d).2 := by
  unfold Target.write
  split
  · exact .refl separate
  · rw [Filing.writeText_apply]
    have came := Disk.replaced d target.path (Utf8.encode text)
    generalize d.replace target.path (Utf8.encode text) = result at came
    cases came with
    | whole wrote | cut _ _ wrote => exact fills_of_write_other separate wrote
    | refused => exact .refl separate

theorem Wrote.fills {directory : Path} {files : List (Path × String)}
    (h : Wrote directory files d d') (separate : Separate dir other d)
    (inside : ∀ file ∈ files, IsFile dir (Path.join directory file.1))
    (distinct : (files.map fun file => Path.join directory file.1).Nodup) :
    Fills dir other (files.map fun file => (Path.join directory file.1, Utf8.encode file.2))
      d d' := by
  induction h with
  | nil => exact .refl separate
  | cons wrote _ ih =>
    obtain ⟨here, rest⟩ := List.forall_mem_cons.mp inside
    obtain ⟨first, distinct⟩ := List.nodup_cons.mp distinct
    have written := fills_of_writeText separate here (Disk.write_of_replace wrote)
    refine written.trans (ih written.separate rest distinct) ?_
    intro path mem
    rw [List.mem_singleton.mp mem, List.map_map]
    exact first

/-- The files of a pass and their data. -/
def entry (dir : Path) (pass : Pass) (snapshot : Snapshot) (attempt? : Option Attempt) :
    List (Path × Bytes) :=
  (contents pass snapshot attempt?).map fun file =>
    (Path.join (places dir pass.index).directory file.1, Utf8.encode file.2)

/-- The names that the files of a pass can have. -/
def fileNames : List Path := ["meta.json", "diagnostics.json", "prompt.md", "oracle.json"]

theorem plain_of_mem {name : Path} (mem : name ∈ fileNames) : Path.Plain name := by
  have each : ∀ name ∈ fileNames, Path.Plain name := by decide
  exact each name mem

theorem isFile_iff {path : Path} : IsFile dir path ↔ path = resultPath dir ∨
    ∃ i, ∃ name ∈ fileNames, path = Path.join (places dir i).directory name := by
  constructor
  · intro file
    cases file with
    | result => exact .inl rfl
    | record i => exact .inr ⟨i, "meta.json", by decide, rfl⟩
    | diagnostics i => exact .inr ⟨i, "diagnostics.json", by decide, rfl⟩
    | prompt i => exact .inr ⟨i, "prompt.md", by decide, rfl⟩
    | oracle i => exact .inr ⟨i, "oracle.json", by decide, rfl⟩
  · rintro (rfl | ⟨i, name, mem, rfl⟩)
    · exact .result
    · rcases List.mem_cons.mp mem with rfl | mem
      · exact (.record i : IsFile dir (places dir i).record)
      rcases List.mem_cons.mp mem with rfl | mem
      · exact (.diagnostics i : IsFile dir (places dir i).diagnostics)
      rcases List.mem_cons.mp mem with rfl | mem
      · exact (.prompt i : IsFile dir (places dir i).prompt)
      rw [List.mem_singleton.mp mem]
      exact (.oracle i : IsFile dir (places dir i).oracle)

theorem names_contents : (contents pass snapshot attempt?).map (·.1) <+: fileNames := by
  cases attempt? with
  | none => exact ⟨[.ofText "prompt.md", .ofText "oracle.json"], rfl⟩
  | some attempt => exact ⟨[], rfl⟩

theorem mem_fileNames {file : Path × String} (mem : file ∈ contents pass snapshot attempt?) :
    file.1 ∈ fileNames :=
  names_contents.subset (List.mem_map_of_mem mem)

/-- The files of a pass can be left in a directory that has nothing but files in their places. -/
theorem exists_writePass (pass : Pass) (snapshot : Snapshot) (attempt? : Option Attempt)
    {made : Disk} {m : Location} (sound : made.faults = [])
    (making : d.makeDirectories (places dir pass.index).directory = (.ok (), made))
    (opens : made.Opens (places dir pass.index).directory m)
    (legal : ∀ name ∈ fileNames, Disk.Legal (places dir pass.index).directory name)
    (clear : ∀ name ∈ fileNames, made.at? (m ++ [name]) = none ∨
      ∃ old executable, made.at? (m ++ [name]) = some (.file old executable)) :
    ∃ d', writePass dir pass snapshot attempt? d = (.ok (places dir pass.index), d') ∧
      made.Grows d' ∧ d'.faults = [] ∧
        ∀ l, (∀ name, l ≠ m ++ [name]) → d'.at? l = made.at? l := by
  obtain ⟨d', wrote, grows, sound', unchanged⟩ := exists_wrote sound opens
    (fun file (mem : file ∈ contents pass snapshot attempt?) => legal file.1 (mem_fileNames mem))
    fun file mem => clear file.1 (mem_fileNames mem)
  exact ⟨d', writePass_eq_ok_iff.mpr ⟨rfl, made, making, wrote⟩, grows, sound',
    fun l other => unchanged l fun file _ => other file.1⟩

theorem mem_entry {path : Path} (mem : path ∈ (entry dir pass snapshot attempt?).map (·.1)) :
    ∃ name ∈ (contents pass snapshot attempt?).map (·.1), Path.Plain name ∧
      path = Path.join (places dir pass.index).directory name := by
  obtain ⟨_, there, rfl⟩ := List.mem_map.mp mem
  obtain ⟨file, inside, rfl⟩ := List.mem_map.mp there
  exact ⟨file.1, List.mem_map_of_mem inside, plain_of_mem (mem_fileNames inside), rfl⟩

/-- Different passes and different names make different paths. -/
theorem place_inj {i j : Nat} {name name' : Path} (plain : Path.Plain name)
    (plain' : Path.Plain name')
    (same : Path.join (places dir i).directory name = Path.join (places dir j).directory name') :
    i = j ∧ name = name' := by
  have led := congrArg (Disk.lexical ⟨[], [], []⟩) same
  rw [places, places, lexical_place _ _ _ plain, lexical_place _ _ _ plain'] at led
  have names := List.append_cancel_left led
  simp only [List.cons.injEq, Path.ofText_inj, and_true] at names
  exact ⟨Decimal.natText_inj names.1, names.2⟩

theorem place_ne_resultPath {i : Nat} {name : Path} (plain : Path.Plain name) :
    Path.join (places dir i).directory name ≠ resultPath dir := by
  intro same
  have led := congrArg (Disk.lexical ⟨[], [], []⟩) same
  rw [places, lexical_place _ _ _ plain, lexical_result] at led
  simpa using List.append_cancel_left led

/-- The files that a pass leaves are filled. -/
theorem fills_of_writePass (separate : Separate dir other d) {found : Places}
    (h : writePass dir pass snapshot attempt? d = (.ok found, d')) :
    Fills dir other (entry dir pass snapshot attempt?) d d' := by
  obtain ⟨-, _, making, wrote⟩ := writePass_eq_ok_iff.mp h
  have made := fills_makeDirectories separate making
  have distinct : ((contents pass snapshot attempt?).map fun file =>
      Path.join (places dir pass.index).directory file.1).Nodup := by
    have names : ((contents pass snapshot attempt?).map (·.1)).Nodup :=
      names_contents.sublist.nodup (by decide : fileNames.Nodup)
    have paths := names.map_on (f := Path.join (places dir pass.index).directory) ?_
    · rwa [List.map_map] at paths
    · intro name mem name' mem' same
      exact (place_inj (plain_of_mem (names_contents.subset mem))
        (plain_of_mem (names_contents.subset mem')) same).2
  exact made.trans (wrote.fills made.separate
    (fun file mem => isFile_iff.mpr (.inr ⟨_, file.1, mem_fileNames mem, rfl⟩)) distinct) nofun

theorem fills_of_writeOutcome (separate : Separate dir other d) {outcome : Outcome}
    {found : Path} (h : writeOutcome dir outcome d = (.ok found, d')) :
    Fills dir other [(resultPath dir, Utf8.encode (outcome.toJson.pretty ++ "\n"))] d d' := by
  obtain ⟨-, _, making, wrote⟩ := writeOutcome_eq_ok_iff.mp h
  have made := fills_makeDirectories separate making
  refine made.trans (wrote.fills made.separate ?_ (List.nodup_singleton _)) nofun
  intro file mem
  rw [List.mem_singleton.mp mem]
  exact .result

/-- Where there are no links and nothing special, the files of a trail lie at places of their
own. -/
theorem separate_of_linkless (linkless : d.Linkless) (homed : d.Homed)
    (ordinary : ∀ l, d.lexical dir <+: l → ∀ special, d.at? l ≠ some (.special special))
    (outside : ¬d.lexical dir <+: d.lexical other) : Separate dir other d := by
  have place {path : Path} {l : Location} (led : d.LeadsTo path l) : l = d.lexical path :=
    led.unique (Disk.leadsTo_lexical linkless path)
  refine ⟨homed, fun path file l led => ordinary l ?_, ?_, ?_⟩
  · exact place led ▸ lexical_file d file
  · intro path file path' file' ne l led led'
    have same : d.lexical path = d.lexical path' := (place led).symm.trans (place led')
    refine ne ?_
    rcases isFile_iff.mp file with rfl | ⟨i, name, mem, rfl⟩ <;>
      rcases isFile_iff.mp file' with rfl | ⟨j, name', mem', rfl⟩
    · rfl
    · rw [lexical_result, places, lexical_place _ _ _ (plain_of_mem mem')] at same
      simpa using List.append_cancel_left same
    · rw [lexical_result, places, lexical_place _ _ _ (plain_of_mem mem)] at same
      simpa using List.append_cancel_left same
    · rw [places, places, lexical_place _ _ _ (plain_of_mem mem),
        lexical_place _ _ _ (plain_of_mem mem')] at same
      have names := List.append_cancel_left same
      simp only [List.cons.injEq, Path.ofText_inj, and_true] at names
      rw [Decimal.natText_inj names.1, names.2]
  · intro path file l led led'
    exact outside (place led' ▸ place led ▸ lexical_file d file)

end AuditTrail

end Mender
