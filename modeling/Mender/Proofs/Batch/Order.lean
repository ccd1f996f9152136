import Mender.Proofs.Batch.Accounts
import Mender.Proofs.Repair.Locality
import Mender.Proofs.Repair.Stall

/-!
# The order of a batch

Where runs keep to their targets and no two items have the same one, an item finds its target
as the batch found it, whatever was run before. So its result and what it leaves are settled by
the disk at the start of the batch, and `Batch.run_perm` says that the order of the items is
the order of the results, and of nothing else.
-/

namespace Mender

/-- The path leads to a file at the place, and so does the path of the place, which is what the
target of a run is called. -/
def Disk.Resolves (d : Disk) (path : Path) (l : Location) : Prop :=
  ∃ data executable, d.find path = .ok (l, .file data executable) ∧
    d.find l.path = .ok (l, .file data executable)

theorem Disk.Resolves.file {d : Disk} {path : Path} {l : Location} (h : d.Resolves path l) :
    ∃ data executable, d.at? l = some (.file data executable) := by
  obtain ⟨data, executable, found, -⟩ := h
  obtain ⟨executable', lies⟩ := fileAt?_eq_some_iff.mp (fileAt?_of_find found)
  exact ⟨data, executable', lies⟩

theorem Disk.Resolves.unique {d : Disk} {path : Path} {l m : Location} (h : d.Resolves path l)
    (h' : d.Resolves path m) : l = m := by
  obtain ⟨_, _, found, -⟩ := h
  obtain ⟨_, _, found', -⟩ := h'
  rw [found] at found'
  cases found'
  rfl

theorem Disk.Resolves.pathExists {d : Disk} {path : Path} {l : Location}
    (h : d.Resolves path l) : d.pathExists path = true := by
  obtain ⟨_, _, found, -⟩ := h
  rw [Disk.pathExists, found]
  rfl

theorem Target.resolve_of_missing {d : Disk} {path : Path} (missing : d.pathExists path = false) :
    Target.resolve d path = .error (.ofCause (.targetNotFound path)) := by
  simp [Target.resolve, missing]

theorem Target.resolve_of_houses {d : Disk} {path : Path} {l : Location}
    (housed : d.Houses path l) (real : d.Houses l.path l) {e : Entry} (lies : d.at? l = some e) :
    Target.resolve d path = .ok ⟨l.path, false⟩ := by
  have found : d.find path = .ok (l, e) := by rw [housed.find_eq, lies]
  simp [Target.resolve, Disk.pathExists, Disk.canonical, found, Except.isOk, Except.toBool,
    Except.map, real.isDirectory]

namespace Batch

open scoped Mender.Path

variable {σ : Type} {r : Repair σ} {wording : Wording} {dryRun : Bool} {d before after later : Disk}
  {item : WorkItem} {items items' : List WorkItem} {s : Session σ}
  {answer : Location → Option Bytes → Except Failure Outcome}
  {content : Location → Option Bytes → Option Bytes}

/-- The items lead to files, of which no two are the same, or nowhere. -/
structure Apart (d : Disk) (items : List WorkItem) : Prop where
  resolves : ∀ item ∈ items, d.pathExists item.path = false ∨ ∃ l, d.Resolves item.path l
  distinct : items.Pairwise fun a b => ∀ l, d.Resolves a.path l → ¬d.Resolves b.path l

theorem Apart.perm (h : Apart d items) (perm : items.Perm items') : Apart d items' := by
  refine ⟨fun item mem => h.resolves item (perm.mem_iff.mpr mem), ?_⟩
  exact h.distinct.perm perm fun distinct l first second => distinct l second first

/-- Of the files that items lead to, each holds what is made of its content at the start, and
no other place has changed. -/
structure Settles (d : Disk) (content : Location → Option Bytes → Option Bytes)
    (items : List WorkItem) (before after : Disk) : Prop where
  worn : d.Worn after
  done : ∀ item ∈ items, ∀ l, d.Resolves item.path l → after.fileAt? l = content l (d.fileAt? l)
  elsewhere : ∀ l, (∀ item ∈ items, ¬d.Resolves item.path l) → after.at? l = before.at? l

theorem Settles.cons (first : Settles d content [item] before after)
    (rest : Settles d content items after later)
    (distinct : ∀ b ∈ items, ∀ l, d.Resolves item.path l → ¬d.Resolves b.path l) :
    Settles d content (item :: items) before later := by
  refine ⟨rest.worn, fun b mem l resolves => ?_, fun l none => ?_⟩
  · rcases List.mem_cons.mp mem with rfl | mem
    · have kept := rest.elsewhere l fun c mem => distinct c mem l resolves
      rw [Disk.fileAt?, kept]
      exact first.done b (List.mem_singleton_self b) l resolves
    · exact rest.done b mem l resolves
  · rw [List.forall_mem_cons] at none
    rw [rest.elsewhere l none.2]
    exact first.elsewhere l (List.forall_mem_singleton.mpr none.1)

/-- The order of the items does not matter for what the files hold. -/
theorem Settles.fileAt?_eq {after' : Disk} (h : Settles d content items before after)
    (h' : Settles d content items' before after') (perm : items.Perm items') (l : Location) :
    after'.fileAt? l = after.fileAt? l := by
  by_cases led : ∃ item ∈ items, d.Resolves item.path l
  · obtain ⟨item, mem, resolves⟩ := led
    rw [h.done item mem l resolves, h'.done item (perm.mem_iff.mp mem) l resolves]
  · have none : ∀ item ∈ items, ¬d.Resolves item.path l := fun item mem resolves =>
      led ⟨item, mem, resolves⟩
    have none' : ∀ item ∈ items', ¬d.Resolves item.path l := fun item mem =>
      none item (perm.mem_iff.mpr mem)
    rw [Disk.fileAt?, h'.elsewhere l none', ← h.elsewhere l none]
    rfl

/-- How the run of an item ends, by the disk at the start of the batch. -/
def fate (d : Disk) (answer : Location → Option Bytes → Except Failure Outcome) (path : Path) :
    Except Failure Outcome :=
  match d.find path with
  | .ok (l, _) => answer l (d.fileAt? l)
  | .error _ => .error (.ofCause (.targetNotFound path))

theorem fate_of_missing {path : Path} (missing : d.pathExists path = false) :
    fate d answer path = .error (.ofCause (.targetNotFound path)) := by
  unfold Disk.pathExists at missing
  unfold fate
  cases found : d.find path with
  | error e => rfl
  | ok place =>
    rw [found] at missing
    cases missing

theorem fate_of_resolves {path : Path} {l : Location} (resolves : d.Resolves path l) :
    fate d answer path = answer l (d.fileAt? l) := by
  obtain ⟨_, _, found, -⟩ := resolves
  rw [fate, found]

/-- Where these are the faults of the disk, runs on a file go by what it holds, whatever path has
led there. -/
def Runs (r : Repair σ) (dryRun : Bool) (faults : List (Location × Fault))
    (answer : Location → Option Bytes → Except Failure Outcome)
    (content : Location → Option Bytes → Option Bytes) : Prop :=
  ∀ (l : Location) (s : Session σ), s.site.disk.faults = faults → s.site.disk.Houses l.path l →
    (r.proceed ⟨l.path, false⟩ dryRun s).1 = answer l (s.site.disk.fileAt? l) ∧
      s.site.disk.Touches l (r.proceed ⟨l.path, false⟩ dryRun s).2.site.disk ∧
      (r.proceed ⟨l.path, false⟩ dryRun s).2.site.disk.fileAt? l =
        content l (s.site.disk.fileAt? l)

/-- An item that finds its target as it was at the start of the batch ends as it would have
there. -/
theorem execute_fated (runs : Runs r dryRun d.faults answer content) (rooted : d.Rooted)
    (kind : d.pathExists item.path = false ∨ ∃ l, d.Resolves item.path l)
    (worn : d.Worn s.site.disk)
    (kept : ∀ l, d.Resolves item.path l → s.site.disk.at? l = d.at? l) :
    (r.execute item.path dryRun s).1 = fate d answer item.path ∧
      Settles d content [item] s.site.disk (r.execute item.path dryRun s).2.site.disk := by
  rcases kind with missing | ⟨l, resolves⟩
  · have refused : r.execute item.path dryRun s = _ :=
      r.execute_of_unresolved (Target.resolve_of_missing (worn.not_pathExists rooted missing))
    rw [refused, fate_of_missing missing]
    refine ⟨rfl, worn, ?_, fun _ _ => rfl⟩
    intro b mem l resolves
    obtain rfl := List.mem_singleton.mp mem
    rw [resolves.pathExists] at missing
    cases missing
  · obtain ⟨data, executable, file⟩ := resolves.file
    have here := kept l resolves
    have same : s.site.disk.fileAt? l = d.fileAt? l := by
      unfold Disk.fileAt?
      rw [here]
    obtain ⟨_, _, found, real⟩ := id resolves
    have housed := (Disk.houses_of_find rooted real).alike worn.alike
    have resolved := Target.resolve_of_houses
      ((Disk.houses_of_find rooted found).alike worn.alike) housed (here.trans file)
    obtain ⟨answered, touches, left⟩ := runs l s worn.faults_eq housed
    rw [r.execute_of_resolved resolved, fate_of_resolves resolves, answered, same]
    refine ⟨rfl, worn.touch file touches, fun b mem m resolves' => ?_, fun m none => ?_⟩
    · obtain rfl := List.mem_singleton.mp mem
      obtain rfl := resolves.unique resolves'
      rw [left, same]
    · refine touches.elsewhere m ?_
      rintro rfl
      exact none item (List.mem_singleton_self item) resolves

/-- A batch gives each item the result that it would have had first. -/
theorem run_fated (runs : Runs r dryRun d.faults answer content) (rooted : d.Rooted)
    (apart : Apart d items)
    (worn : d.Worn s.site.disk)
    (kept : ∀ item ∈ items, ∀ l, d.Resolves item.path l → s.site.disk.at? l = d.at? l) :
    (run r wording dryRun items s).1.results =
        items.map (fun item => ItemResult.ofRun wording item (fate d answer item.path)) ∧
      Settles d content items s.site.disk (run r wording dryRun items s).2.site.disk := by
  induction items generalizing s with
  | nil => exact ⟨rfl, worn, nofun, fun _ _ => rfl⟩
  | cons item items ih =>
    obtain ⟨resolves, distinct⟩ := apart
    rw [List.forall_mem_cons] at resolves kept
    rw [List.pairwise_cons] at distinct
    obtain ⟨answered, first⟩ := execute_fated runs rooted resolves.1 worn kept.1
    -- the first item leads to no file of the others, so they find theirs as at the start
    have kept' : ∀ b ∈ items, ∀ l, d.Resolves b.path l →
        (r.execute item.path dryRun s).2.site.disk.at? l = d.at? l := by
      intro b mem l resolves'
      rw [first.elsewhere l, kept.2 b mem l resolves']
      rintro c at_c resolves''
      obtain rfl := List.mem_singleton.mp at_c
      exact distinct.1 b mem l resolves'' resolves'
    obtain ⟨results, rest⟩ := ih ⟨resolves.2, distinct.2⟩ first.worn kept'
    rw [run_cons]
    exact ⟨congrArg₂ List.cons (congrArg (ItemResult.ofRun wording item) answered) results,
      first.cons rest distinct.1⟩

/-- The results of a batch follow its items into any other order. -/
theorem run_perm (localized : r.Local dryRun) (rooted : s.site.disk.Rooted)
    (apart : Apart s.site.disk items) (perm : items.Perm items') :
    ∃ result : WorkItem → ItemResult,
      (run r wording dryRun items s).1.results = items.map result ∧
      (run r wording dryRun items' s).1.results = items'.map result ∧
      (run r wording dryRun items' s).1.successes = (run r wording dryRun items s).1.successes ∧
      (run r wording dryRun items' s).1.failures = (run r wording dryRun items s).1.failures ∧
      ∀ l, (run r wording dryRun items' s).2.site.disk.fileAt? l =
        (run r wording dryRun items s).2.site.disk.fileAt? l := by
  have confined (l : Location) : Run.Confined l.path l (r.proceed ⟨l.path, false⟩ dryRun) :=
    Repair.confined_proceed localized
  choose answer content confined using confined
  let fault? := s.site.disk.fault?
  have runs : Runs r dryRun s.site.disk.faults (fun l => answer l (fault? l))
      (fun l => content l (fault? l)) := by
    intro l t faults housed
    have same : t.site.disk.fault? l = fault? l := congrArg (List.lookup l) faults
    obtain ⟨answered, touches, left⟩ := confined l t housed
    rw [same] at answered left
    exact ⟨answered, touches, left⟩
  obtain ⟨results, settles⟩ := run_fated runs rooted apart (.refl _) fun _ _ _ _ => rfl
  obtain ⟨results', settles'⟩ :=
    run_fated runs rooted (apart.perm perm) (.refl _) fun _ _ _ _ => rfl
  have same :
      (run r wording dryRun items' s).1.results.Perm (run r wording dryRun items s).1.results := by
    rw [results, results']
    exact (perm.map _).symm
  refine ⟨_, results, results', same.countP_eq _, ?_, settles.fileAt?_eq settles' perm⟩
  simp only [Summary.failures, Summary.total, Summary.successes, same.countP_eq, same.length_eq]

/-- The tools that count go by the content of the target. -/
theorem local_counting : Repair.counting.Local false where
  rewrite := ⟨fun _ _ _ => .ok false, fun _ _ held => held, fun _ _ _ housed =>
    ⟨rfl, .refl housed.loose, rfl⟩⟩
  analyze := by
    refine ⟨fun _ _ held => .ok (Snapshot.sample (held.getD []).length 0).staticErrors,
      fun _ _ held => held, fun path l a housed => ⟨?_, .refl housed.loose, rfl⟩⟩
    rw [← housed.read]
    rfl
  test := ⟨fun _ _ _ => .ok [], fun _ _ held => held, fun _ _ _ housed =>
    ⟨rfl, .refl housed.loose, rfl⟩⟩
  functional := ⟨fun _ _ => .applied "<?", fun _ _ _ => ⟨rfl, rfl⟩⟩
  unaudited := rfl

/-- Before a batch on two files. -/
def pairSite : Site Unit := ⟨⟨[(["a"], .file [60] false), (["b"], .file [] true)], [], []⟩, ()⟩

def pairItems : List WorkItem := [⟨"first", "/a", 1⟩, ⟨"second", "/b", 2⟩, ⟨"third", "/c", 3⟩]

theorem rooted_pair : pairSite.disk.Rooted := by
  intro l place directory above
  have root : l = [] := by
    by_contra below
    simp only [Disk.isDirectoryAt, Disk.at?, pairSite, if_neg below, List.lookup] at directory
    split at directory
    · cases directory
    · split at directory <;> cases directory
  subst root
  rw [List.prefix_nil.mp above]
  rfl

theorem apart_pair : Apart pairSite.disk pairItems := by
  have first : pairSite.disk.Resolves "/a" ["a"] := ⟨[60], false, by cbv, by cbv⟩
  have second : pairSite.disk.Resolves "/b" ["b"] := ⟨[], true, by cbv, by cbv⟩
  have missing : pairSite.disk.pathExists "/c" = false := by cbv
  have nowhere (l : Location) : ¬pairSite.disk.Resolves "/c" l := by
    intro resolves
    rw [resolves.pathExists] at missing
    cases missing
  constructor
  · simp only [pairItems, List.forall_mem_cons]
    exact ⟨.inr ⟨_, first⟩, .inr ⟨_, second⟩, .inl missing, List.forall_mem_nil _⟩
  · simp only [pairItems, List.pairwise_cons, List.forall_mem_cons]
    refine ⟨⟨fun l at_a at_b => ?_, fun l _ => nowhere l, List.forall_mem_nil _⟩,
      ⟨fun l _ => nowhere l, List.forall_mem_nil _⟩, List.forall_mem_nil _, .nil⟩
    exact absurd ((first.unique at_a).trans (at_b.unique second)) (by decide)

/-- Two files and a path to nothing, in the opposite order. -/
theorem run_perm_counting : ∃ result : WorkItem → ItemResult,
    let (ahead, s) := run Repair.counting (fun _ text => text) false pairItems ⟨pairSite, []⟩
    let (back, t) := run Repair.counting (fun _ text => text) false pairItems.reverse ⟨pairSite, []⟩
    ahead.results = pairItems.map result ∧ back.results = pairItems.reverse.map result ∧
      back.successes = ahead.successes ∧ back.failures = ahead.failures ∧
      ∀ l, t.site.disk.fileAt? l = s.site.disk.fileAt? l := by
  exact run_perm (s := ⟨pairSite, []⟩) local_counting rooted_pair apart_pair
    (List.reverse_perm pairItems).symm

end Batch

end Mender
