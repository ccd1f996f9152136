import Mender.Proofs.AuditTrail.Files
import Mender.Proofs.Disk.Directories

/-!
# What lies in the directory of a trail

A pass that is recorded in a trail adds a directory with its files to what lies in the directory of
the trail. Together with what was there before, this is all that lies there afterwards.
-/

namespace Mender.AuditTrail

/-- What lies at and below a place, by the names that lead there from the place. -/
abbrev Listing := Location → Option Entry

/-- The directory of a pass: its files, and nothing else. -/
def passListing (pass : Pass) (snapshot : Snapshot) (attempt? : Option Attempt) : Listing
  | [] => some .directory
  | [name] =>
    ((contents pass snapshot attempt?).lookup name).map fun text => .file (Utf8.encode text) false
  | _ => none

/-- A directory that has the directory of a pass put into it. -/
def Listing.put (listing : Listing) (pass : Pass) (snapshot : Snapshot)
    (attempt? : Option Attempt) : Listing
  | [] => some .directory
  | number :: rest =>
    if number = .ofText (Decimal.natText pass.index) then passListing pass snapshot attempt? rest
    else listing (number :: rest)

/-- The directory of a trail leads to the place, and what lies there is what is listed. The way
there does not pass through the place and out of it again, and the other path leads elsewhere. -/
structure Stands (dir : Path) (place : Location) (other : Path) (listing : Listing)
    (d : Disk) : Prop where
  homed : d.Homed
  leads : d.LeadsTo dir place
  direct : ∀ steps l, steps <+: Path.steps dir → d.Leads (d.start dir) steps l →
    place <+: l → l = place
  apart : ∀ l, d.LeadsTo other l → ¬place <+: l
  holds : ∀ rest, d.at? (place ++ rest) = listing rest

/-- Whatever lies in the directory of the trail, it still does. -/
def Kept (dir : Path) (place : Location) (other : Path) (d d' : Disk) : Prop :=
  ∀ listing, Stands dir place other listing d → Stands dir place other listing d'

variable {dir other : Path} {place : Location} {listing : Listing} {d d' : Disk} {pass : Pass}
  {snapshot : Snapshot} {attempt? : Option Attempt}

theorem Kept.trans {d'' : Disk} (h : Kept dir place other d d') (h' : Kept dir place other d' d'') :
    Kept dir place other d d'' := by
  intro listing stands
  exact h' listing (h listing stands)

/-- A disk that has grown is told by what lies at the place now. -/
theorem Stands.grow (h : Stands dir place other listing d) (grows : d.Grows d')
    {listing' : Listing} (holds : ∀ rest, d'.at? (place ++ rest) = listing' rest) :
    Stands dir place other listing' d' where
  homed := h.homed.grow grows
  leads := grows.leadsTo_iff.mpr h.leads
  direct steps l first led := by
    rw [grows.start_eq] at led
    exact h.direct steps l first (led.shrink grows)
  apart l led := h.apart l (grows.leadsTo_iff.mp led)
  holds := holds

/-- A write to the target that the other path is that of goes elsewhere. -/
theorem kept_of_target_write {target : Target} (text : String) (d : Disk) :
    Kept dir place target.path d (target.write text d).2 := by
  intro listing stands
  unfold Target.write
  split
  · exact stands
  · rw [Filing.writeText_apply]
    have came := Disk.replaced d target.path (Utf8.encode text)
    generalize d.replace target.path (Utf8.encode text) = result at came
    cases came with
    | refused => exact stands
    | whole wrote | cut _ _ wrote =>
      rcases Disk.leadsTo_of_write wrote with rfl | ⟨l, executable, led, rfl, grows⟩
      · exact stands
      · refine stands.grow grows fun rest => ?_
        have elsewhere : place ++ rest ≠ l := by
          rintro rfl
          exact stands.apart _ led (List.prefix_append place rest)
        rw [Disk.at?_put_of_ne d elsewhere, stands.holds]

theorem Wrote.exists_write {directory : Path} {files : List (Path × String)}
    (h : Wrote directory files d d') (some_file : files ≠ []) :
    ∃ file ∈ files, ∃ d'',
      d.write (Path.join directory file.1) (Utf8.encode file.2) = .ok d'' := by
  cases h with
  | nil => exact absurd rfl some_file
  | cons wrote => exact ⟨_, List.mem_cons_self, _, Disk.write_of_replace wrote⟩

/-- Texts that are written to free names of a directory lie there, and nothing else has changed. -/
theorem Wrote.holds {directory : Path} {m : Location} {files : List (Path × String)}
    (h : Wrote directory files d d') (homed : d.Homed)
    (led : ∀ file ∈ files, d.LeadsTo (Path.join directory file.1) (m ++ [file.1]))
    (free : ∀ file ∈ files, d.at? (m ++ [file.1]) = none)
    (distinct : (files.map (·.1)).Nodup) :
    d.Grows d' ∧
      (∀ file ∈ files, d'.at? (m ++ [file.1]) = some (.file (Utf8.encode file.2) false)) ∧
      ∀ l, (∀ file ∈ files, l ≠ m ++ [file.1]) → d'.at? l = d.at? l := by
  induction h with
  | nil => exact ⟨.refl _, nofun, fun _ _ => rfl⟩
  | @cons name text files d d' d'' wrote _ ih =>
    obtain ⟨led_here, led⟩ := List.forall_mem_cons.mp led
    obtain ⟨free_here, free⟩ := List.forall_mem_cons.mp free
    obtain ⟨first, distinct⟩ := List.nodup_cons.mp distinct
    have ordinary (l : Location) (leads : d.LeadsTo (Path.join directory name) l)
        (special : Special) : d.at? l ≠ some (.special special) := by
      rw [leads.unique led_here, free_here]
      exact nofun
    obtain ⟨l, executable, made, plain, grows, found⟩ :=
      Disk.find_of_write homed (Disk.write_of_replace wrote) ordinary
    have same : l = m ++ [name] :=
      (grows.leadsTo_iff.mp (Disk.leadsTo_of_find found nofun)).unique led_here
    obtain rfl : executable = false := plain (same ▸ free_here)
    subst made same
    -- a name that is still to come is another one
    have other {file : Path × String} (mem : file ∈ files) : m ++ [file.1] ≠ m ++ [name] := by
      intro same
      have names : file.1 = name := List.singleton_inj.mp (List.append_cancel_left same)
      exact first (names ▸ List.mem_map.mpr ⟨file, mem, rfl⟩)
    obtain ⟨grows', there, unchanged⟩ := ih (homed.grow grows)
      (fun file mem => grows.leadsTo_iff.mpr (led file mem))
      (fun file mem => by rw [Disk.at?_put_of_ne d (other mem), free file mem]) distinct
    refine ⟨grows.trans grows', ?_, ?_⟩
    · intro file mem
      rcases List.mem_cons.mp mem with rfl | mem
      · rw [unchanged _ fun file mem same => other mem same.symm, Disk.at?_put_self d (by simp)]
      · exact there file mem
    · intro l elsewhere
      obtain ⟨here, elsewhere⟩ := List.forall_mem_cons.mp elsewhere
      rw [unchanged l elsewhere, Disk.at?_put_of_ne d here]

/-- The files of a pass, written to an empty directory, are all that lies there. -/
theorem Wrote.lists {directory : Path} {m : Location}
    (h : Wrote directory (contents pass snapshot attempt?) d d') (homed : d.Homed)
    (led : d.LeadsTo directory m) (there : d.at? m = some .directory)
    (empty : ∀ name rest, d.at? (m ++ name :: rest) = none) :
    d.Grows d' ∧ (∀ rest, d'.at? (m ++ rest) = passListing pass snapshot attempt? rest) ∧
      ∀ l, ¬m <+: l → d'.at? l = d.at? l := by
  have unlinked (name target : Path) : d.at? (m ++ [name]) ≠ some (.link target) := by
    rw [empty name []]
    exact nofun
  obtain ⟨grows, written, unchanged⟩ := h.holds homed
    (fun file mem => (Disk.leadsTo_join (plain_of_mem (mem_fileNames mem))).mpr
      ⟨m, led, .down (unlinked file.1) .done⟩)
    (fun file _ => empty file.1 []) (names_contents.sublist.nodup (by decide : fileNames.Nodup))
  have elsewhere {rest : Location}
      (other : ∀ file ∈ contents pass snapshot attempt?, rest ≠ [file.1]) :
      d'.at? (m ++ rest) = d.at? (m ++ rest) :=
    unchanged _ fun file mem same => other file mem (List.append_cancel_left same)
  refine ⟨grows, fun rest => ?_, fun l outside => ?_⟩
  · match rest with
    | [] =>
      rw [elsewhere (by simp), List.append_nil, there]
      rfl
    | [name] =>
      rw [passListing]
      cases found : (contents pass snapshot attempt?).lookup name with
      | none =>
        rw [elsewhere, empty name []]
        · rfl
        · intro file mem same
          have other := List.lookup_eq_none_iff.mp found file mem
          simp [List.singleton_inj.mp same] at other
      | some text =>
        obtain ⟨before, after, parts, -⟩ := List.lookup_eq_some_iff.mp found
        exact written (name, text) (parts ▸ List.mem_append_right before List.mem_cons_self)
    | name :: next :: rest =>
      rw [elsewhere (by simp), empty]
      rfl
  · exact unchanged l fun file _ same => outside (same ▸ List.prefix_append m _)

section Pass

variable (stands : Stands dir place other listing d)
  (fresh : ∀ rest, listing (.ofText (Decimal.natText pass.index) :: rest) = none)
include stands fresh

theorem Stands.leadsTo_directory :
    d.LeadsTo (places dir pass.index).directory
      (place ++ [.ofText (Decimal.natText pass.index)]) := by
  refine (Disk.leadsTo_join (Path.plain_natText pass.index)).mpr ⟨place, stands.leads, ?_⟩
  refine .down (fun target linked => ?_) .done
  rw [stands.holds, fresh []] at linked
  cases linked

/-- Making the directory of a pass makes nothing else at the place but the directory of the
trail. -/
theorem Stands.paved (paved : d.Paves (places dir pass.index).directory d') {rest : Location}
    (below : rest ≠ []) (other : rest ≠ [.ofText (Decimal.natText pass.index)]) :
    d'.at? (place ++ rest) = listing rest := by
  rw [← stands.holds]
  by_contra changed
  obtain ⟨-, -, steps, first, led⟩ := paved.added _ changed
  have number := Path.plain_natText pass.index
  have parts : Path.steps (places dir pass.index).directory =
      Path.steps dir ++ [.down (.ofText (Decimal.natText pass.index))] := Disk.steps_join dir number
  rw [parts] at first
  rcases List.prefix_concat_iff.mp first with rfl | first
  · have whole := stands.leadsTo_directory fresh
    rw [Disk.LeadsTo, parts] at whole
    exact other (List.append_cancel_left (led.unique whole))
  · rw [places, Disk.start_join d dir number] at led
    have here := stands.direct steps _ first led (List.prefix_append place rest)
    exact below (List.append_right_eq_self.mp here)

/-- A write below the directory of a pass tells that it is there, and that of the trail too. -/
theorem Stands.directories_of_write (grows : d.Grows d') {name : Path} (plain : Path.Plain name)
    {data : Bytes} {d'' : Disk}
    (wrote : d'.write (Path.join (places dir pass.index).directory name) data = .ok d'') :
    d'.at? place = some .directory ∧
      d'.at? (place ++ [.ofText (Decimal.natText pass.index)]) = some .directory := by
  have number := Path.plain_natText pass.index
  obtain ⟨a, walked⟩ : ∃ a, d'.walk .opened (Path.join (places dir pass.index).directory name) =
      .ok a := by
    unfold Disk.write at wrote
    cases walked : d'.walk .opened (Path.join (places dir pass.index).directory name) with
    | error e =>
      rw [walked] at wrote
      cases wrote
    | ok a => exact ⟨a, rfl⟩
  have inner : Path.steps (Path.join (places dir pass.index).directory name) =
      Path.steps (places dir pass.index).directory ++ [.down name] := Disk.steps_join _ plain
  have outer : Path.steps (Path.join (places dir pass.index).directory name) =
      Path.steps dir ++ [.down (.ofText (Decimal.natText pass.index)), .down name] := by
    rw [inner, places, Disk.steps_join dir number, List.append_assoc]
    rfl
  have inside : d'.start (Path.join (places dir pass.index).directory name) =
      d'.start (places dir pass.index).directory := Disk.start_join d' _ plain
  constructor
  · obtain ⟨m, led, directory⟩ := Disk.directory_of_walk walked outer (List.cons_ne_nil _ _)
    rw [inside, places, Disk.start_join d' dir number] at led
    rw [← led.unique (grows.leadsTo_iff.mpr stands.leads)]
    exact of_decide_eq_true directory
  · obtain ⟨m, led, directory⟩ := Disk.directory_of_walk walked inner (List.cons_ne_nil _ _)
    rw [inside] at led
    rw [← led.unique (grows.leadsTo_iff.mpr (stands.leadsTo_directory fresh))]
    exact of_decide_eq_true directory

/-- Recording a pass with a new number adds its directory. -/
theorem Stands.writePass {found : Places}
    (wrote : AuditTrail.writePass dir pass snapshot attempt? d = (.ok found, d')) :
    Stands dir place other (listing.put pass snapshot attempt?) d' := by
  obtain ⟨-, made, making, wrote⟩ := writePass_eq_ok_iff.mp wrote
  have paved : d.Paves (places dir pass.index).directory made := by
    have paved := Disk.paves_makeDirectories d (places dir pass.index).directory
    rwa [making] at paved
  obtain ⟨file, inside, _, first⟩ := wrote.exists_write (List.cons_ne_nil _ _)
  obtain ⟨trail_there, pass_there⟩ := stands.directories_of_write fresh paved.grows
    (plain_of_mem (mem_fileNames inside)) first
  have empty (name : Path) (rest : Location) :
      made.at? (place ++ [.ofText (Decimal.natText pass.index)] ++ name :: rest) = none := by
    rw [List.append_assoc]
    exact (stands.paved fresh paved (by simp) (by simp)).trans (fresh (name :: rest))
  obtain ⟨grows, inner, outer⟩ := wrote.lists (stands.homed.grow paved.grows)
    (paved.grows.leadsTo_iff.mpr (stands.leadsTo_directory fresh)) pass_there empty
  refine stands.grow (paved.grows.trans grows) fun rest => ?_
  cases rest with
  | nil =>
    have outside : ¬place ++ [.ofText (Decimal.natText pass.index)] <+: place := by
      intro inside
      have shorter := inside.length_le
      simp at shorter
    rw [List.append_nil, outer place outside, trail_there]
    rfl
  | cons number rest =>
    rw [Listing.put]
    split
    · next same =>
      rw [same, ← List.singleton_append, ← List.append_assoc]
      exact inner rest
    · next other =>
      have outside :
          ¬place ++ [.ofText (Decimal.natText pass.index)] <+: place ++ number :: rest := by
        intro inside
        have names := (List.prefix_append_right_inj place).mp inside
        exact other (List.cons_prefix_cons.mp names).1.symm
      rw [outer _ outside, stands.paved fresh paved (List.cons_ne_nil _ _) (by simp [other])]

end Pass

end Mender.AuditTrail
