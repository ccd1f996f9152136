import Mender.Proofs.Repair.Trail

/-!
# Leftovers

A pass in which the oracle was not asked leaves neither a prompt nor an answer, and it takes none
away. So where a trail is used again, what stands beside the records of such a pass is what an
earlier run has left there.
-/

namespace Mender

namespace AuditTrail

open scoped Mender.Path

/-- The file of a path is still the one that was there before, and there is none if there was
none. -/
structure Leftover (path : Path) (d d' : Disk) : Prop where
  kept : ∀ data, d.Shows path data → d'.Shows path data
  old : ∀ l data executable, d'.find path = .ok (l, .file data executable) →
    d.fileAt? l = some data

/-- The prompt and the answer of a pass are those of its attempt, and without an attempt those
that were there before. -/
structure Questions (dir : Path) (number : Nat) (attempt? : Option Attempt) (d d' : Disk) :
    Prop where
  asked : ∀ attempt, attempt? = some attempt →
    d'.Shows (places dir number).prompt (Utf8.encode attempt.prompt) ∧
      d'.Shows (places dir number).oracle (Utf8.encode (attempt.toJson.pretty ++ "\n"))
  unasked : attempt? = none →
    Leftover (places dir number).prompt d d' ∧ Leftover (places dir number).oracle d d'

variable {dir other : Path} {d d' : Disk} {files : List (Path × Bytes)} {pass : Pass}
  {snapshot : Snapshot} {attempt? : Option Attempt}

theorem Fills.leftover (h : Fills dir other files d d') {path : Path} (file : IsFile dir path)
    (unwritten : path ∉ files.map (·.1)) : Leftover path d d' where
  kept := h.shows path file unwritten
  old l _ _ found := by
    have led := (h.leadsTo_iff path file l).mp (Disk.leadsTo_of_find found nofun)
    rw [← h.fileAt?_eq path file unwritten l led]
    exact Disk.fileAt?_of_find found

/-- Files that have the entry of a pass among them, and of its directory nothing else, have its
prompt and its answer if it made an attempt. -/
theorem Fills.questions (h : Fills dir other files d d')
    (among : entry dir pass snapshot attempt? ⊆ files)
    (only : ∀ name ∈ fileNames, Path.join (places dir pass.index).directory name ∈ files.map (·.1) →
      name ∈ (contents pass snapshot attempt?).map (·.1)) :
    Questions dir pass.index attempt? d d' := by
  constructor
  · rintro attempt rfl
    have shown {name : Path} {text : String}
        (mem : (name, text) ∈ contents pass snapshot (some attempt)) :
        d'.Shows (Path.join (places dir pass.index).directory name) (Utf8.encode text) :=
      (h.written _ _ (among (List.mem_map.mpr ⟨(name, text), mem, rfl⟩))).2
    exact ⟨shown (by simp [contents]), shown (by simp [contents])⟩
  · rintro rfl
    have unwritten (name : Path) (named : name ∈ fileNames)
        (absent : name ∉ [Path.ofText "meta.json", .ofText "diagnostics.json"]) :
        Path.join (places dir pass.index).directory name ∉ files.map (·.1) :=
      fun mem => absent (only name named mem)
    exact ⟨h.leftover (.prompt pass.index) (unwritten "prompt.md" (by decide) (by decide)),
      h.leftover (.oracle pass.index) (unwritten "oracle.json" (by decide) (by decide))⟩

/-- Whatever was there before, what has been written is there. -/
theorem Wrote.exist {directory : Path} {files : List (Path × String)}
    (h : Wrote directory files d d') (homed : d.Homed) :
    ∀ file ∈ files, d'.pathExists (Path.join directory file.1) = true := by
  induction h with
  | nil => exact nofun
  | @cons name text files d d' d'' wrote more ih =>
    have grows : d.Grows d' := (Wrote.cons wrote .nil).grows
    intro file mem
    rcases List.mem_cons.mp mem with rfl | mem
    · have here := Disk.pathExists_of_write homed (Disk.write_of_replace wrote)
      exact Disk.pathExists_grow (homed.grow grows) more.grows here
    · exact ih (homed.grow grows) file mem

/-- On every disk, a pass with an attempt that could be recorded has a prompt and an answer. -/
theorem exist_of_writePass {attempt : Attempt} (homed : d.Homed) {found : Places}
    (h : writePass dir pass snapshot (some attempt) d = (.ok found, d')) :
    d'.pathExists (places dir pass.index).prompt = true ∧
      d'.pathExists (places dir pass.index).oracle = true := by
  obtain ⟨-, made, making, wrote⟩ := writePass_eq_ok_iff.mp h
  have grown := (d.growsBeside_makeDirectories (places dir pass.index).directory []).grows
  rw [making] at grown
  have there {name : Path} (mem : name ∈ (contents pass snapshot (some attempt)).map (·.1)) :
      d'.pathExists (Path.join (places dir pass.index).directory name) = true := by
    obtain ⟨file, inside, rfl⟩ := List.mem_map.mp mem
    exact wrote.exist (homed.grow grown) file inside
  have prompt : Path.ofText "prompt.md" ∈ (contents pass snapshot (some attempt)).map (·.1) := by
    simp [contents]
  have oracle : Path.ofText "oracle.json" ∈ (contents pass snapshot (some attempt)).map (·.1) := by
    simp [contents]
  exact ⟨there prompt, there oracle⟩

theorem questions_of_writePass (separate : Separate dir other d) {found : Places}
    (h : writePass dir pass snapshot attempt? d = (.ok found, d')) :
    Questions dir pass.index attempt? d d' := by
  refine (fills_of_writePass separate h).questions (List.Subset.refl _) fun name named mem => ?_
  obtain ⟨name', inside, plain, same⟩ := mem_entry mem
  rwa [(place_inj (plain_of_mem named) plain same).2]

end AuditTrail

namespace Repair

open AuditTrail
open scoped Mender.Path

variable {σ : Type} {r : Repair σ} {target : Target} {dryRun rewritten : Bool} {budget : Nat}
  {a b : Site σ} {calls : List Event} {rounds : List (Round σ)} {stop : Option Failure}
  {dir : Path}

/-- Of the files of completed passes, those in the directory of a number are those of the pass with
that number. -/
theorem Course.mem_files (h : r.Course target dryRun rewritten 1 budget a calls rounds b stop)
    {i : Nat} {round : Round σ} (at_i : rounds[i]? = some round) {name : Path}
    (plain : Path.Plain name)
    (mem : Path.join (places dir (i + 1)).directory name ∈
      (rounds.flatMap (Round.files dir)).map (·.1)) :
    name ∈ (contents round.record round.snapshot round.attempt?).map (·.1) := by
  obtain ⟨file, inside, same⟩ := List.mem_map.mp mem
  obtain ⟨other, there, inside⟩ := List.mem_flatMap.mp inside
  obtain ⟨name', inside, plain', same'⟩ := mem_entry (List.mem_map_of_mem inside)
  obtain ⟨number, rfl⟩ := place_inj plain plain' (same.symm.trans same')
  obtain ⟨j, at_j⟩ := List.getElem?_of_mem there
  rw [h.record_eq at_j] at number
  obtain rfl : i = j := by
    simp only [Pass.ofRound, Pass.ofSnapshot] at number
    omega
  cases at_i.symm.trans at_j
  exact inside

/-- A completed pass made an attempt if and only if it asked. -/
theorem PassCourse.attempt_iff {snapshot : Snapshot} {attempt? : Option Attempt}
    (h : r.PassCourse target dryRun a calls b (.ok (snapshot, attempt?))) :
    attempt?.isSome = true ↔ ∃ prompt current fix, .ask prompt current fix ∈ calls := by
  rw [Option.isSome_iff_exists]
  constructor
  · rintro ⟨attempt, made⟩
    obtain ⟨current, asked⟩ := h.ask_mem_iff.mpr ⟨attempt, made, rfl, rfl⟩
    exact ⟨_, current, _, asked⟩
  · rintro ⟨prompt, current, fix, asked⟩
    obtain ⟨attempt, made, -⟩ := h.ask_mem_iff.mp ⟨current, asked⟩
    exact ⟨attempt, made⟩

/-- Where the files of completed passes and that of an outcome are filled, no pass has the prompt
or the answer of another. -/
theorem Course.questions (h : r.Course target dryRun rewritten 1 budget a calls rounds b stop)
    {data : Bytes} {d d' : Disk}
    (fills : Fills dir target.path (rounds.flatMap (Round.files dir) ++ [(resultPath dir, data)])
      d d')
    {i : Nat} {round : Round σ} (at_i : rounds[i]? = some round) :
    Questions dir (i + 1) round.attempt? d d' := by
  have number : round.record.index = i + 1 := by
    rw [h.record_eq at_i, Nat.add_comm]
    rfl
  have among : entry dir round.record round.snapshot round.attempt? ⊆
      rounds.flatMap (Round.files dir) ++ [(resultPath dir, data)] := fun file mem =>
    List.mem_append_left _ (List.mem_flatMap.mpr ⟨round, List.mem_of_getElem? at_i, mem⟩)
  rw [← number]
  refine fills.questions among fun name named mem => ?_
  rw [List.map_append, List.mem_append] at mem
  rcases mem with mem | result
  · rw [number] at mem
    exact h.mem_files at_i (plain_of_mem named) mem
  · exact absurd (List.mem_singleton.mp result) (place_ne_resultPath (plain_of_mem named))

/-- On every disk, a pass that could be recorded has a prompt and an answer if an attempt was made,
and they are those of the attempt; without one, they are those that were there before. So it is
after a run with an outcome: where the oracle was asked in a pass, its prompt and its answer are
there, and where it was not, what was there before the run is there still, and nothing else. -/
theorem execute_questions (kept : r.auditDir? = some dir) {path : Path} {s t : Session σ}
    (found : Target.resolve s.site.disk path = .ok target)
    (separate : Separate dir target.path s.site.disk)
    (spared : r.Makes target.path dryRun (Untouched dir target.path)) {outcome : Outcome}
    (h : r.execute path dryRun s = (.ok outcome, t)) :
    (∀ pass snapshot attempt? d d' found, d.Homed →
      writePass dir pass snapshot attempt? d = (.ok found, d') →
        (attempt?.isSome = true → d'.pathExists (places dir pass.index).prompt = true ∧
          d'.pathExists (places dir pass.index).oracle = true) ∧
        (Separate dir target.path d → Questions dir pass.index attempt? d d')) ∧
    ∃ (calls : List Event) (rounds : List (Round σ)), t.events = s.events ++ calls ∧
      r.RunCourse target dryRun s.site calls rounds t.site (.ok outcome) ∧
      outcome.history = rounds.map (·.record) ∧
      ∀ (i : Nat) (round : Round σ), rounds[i]? = some round →
        (round.attempt?.isSome = true ↔
          ∃ prompt current fix, .ask prompt current fix ∈ round.calls) ∧
        Questions dir (i + 1) round.attempt? s.site.disk t.site.disk := by
  refine ⟨fun pass snapshot attempt? d d' found homed wrote => ⟨fun made => ?_, fun separate =>
    questions_of_writePass separate wrote⟩, ?_⟩
  · obtain ⟨attempt, rfl⟩ := Option.isSome_iff_exists.mp made
    exact exist_of_writePass homed wrote
  obtain ⟨calls, rounds, b, answer, course, ran⟩ := execute_course (r := r) found dryRun
  rw [h] at ran
  cases ran
  have fills := course.fills kept spared separate
  refine ⟨calls, rounds, rfl, course, ?_⟩
  cases course with
  | finished _ course filed =>
    obtain rfl := outcome_of_finish (filed [])
    refine ⟨rfl, fun i round at_i => ⟨?_, course.questions fills at_i⟩⟩
    obtain ⟨_, _, passed, -⟩ := course.completed (List.mem_of_getElem? at_i)
    exact passed.attempt_iff

theorem shows_used : used.Shows (places "/t" 1).prompt [112] := by
  obtain ⟨-, legal_number, -, legal⟩ := legal_used
  have opens := (opens_trail (d := used) rfl).below legal_number rfl
  have legal_prompt := legal "prompt.md" (by decide)
  have passable : used.Passable .followed ["t", "1"] "prompt.md" [] false :=
    ⟨opens.directory, by simp, legal_prompt.short⟩
  have walked := Disk.walk_join opens legal_prompt fun _ => .found passable rfl nofun
  have place : (places "/t" 1).prompt = Path.join (Path.join "/t" "1") "prompt.md" :=
    congrArg (Path.join · "prompt.md") (directory_first "/t")
  exact place ▸ ⟨_, _, Disk.find_eq_ok_iff.mpr ⟨true, false, walked, nofun⟩⟩

/-- A dry run in the trail that was used before. -/
theorem execute_questions_used :
    Separate "/t" "/a" used ∧
      ∃ (rounds : List (Round Script)) (t : Session Script),
        ((rehearsal (some "/t")).withBudget 1).execute "/a" true usedStage =
          (.ok usedEnding, t) ∧
        usedEnding.history = rounds.map (·.record) ∧
        ∀ i (round : Round Script), rounds[i]? = some round →
          Questions "/t" (i + 1) round.attempt? used t.site.disk := by
  have found : Target.resolve usedStage.site.disk "/a" = .ok ⟨"/a", false⟩ := by cbv
  obtain ⟨t, ran⟩ := exists_execute_used true
  obtain ⟨-, _, rounds, -, -, history, questions⟩ :=
    execute_questions (r := (rehearsal (some "/t")).withBudget 1) rfl found separate_used
      (makes_rehearsal (some "/t") 1 "/a" true fun _ separate => Fills.refl separate) ran
  exact ⟨separate_used, rounds, t, ran, history, fun i round at_i => (questions i round at_i).2⟩

/-- The files of a pass without an attempt, left where an earlier prompt was. It is still there,
as if the oracle had been asked. -/
theorem writePass_keeps_prompt_used :
    ∃ d', writePass "/t" ⟨1, true, 1, 0, false⟩ (.sample 1 0) none used =
        (.ok (places "/t" 1), d') ∧
      d'.Shows (places "/t" 1).prompt [112] := by
  have first : (Pass.mk 1 true 1 0 false).index = 1 := rfl
  obtain ⟨d', wrote, -⟩ := exists_writePass_used first (.sample 1 0) none
  have questions := questions_of_writePass separate_used wrote
  exact ⟨d', wrote, (questions.unasked rfl).1.kept _ shows_used⟩

end Repair

end Mender
