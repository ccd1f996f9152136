import Mender.Proofs.Toml.Document

/-!
# Tables of known slots

A table is read by the slots that it is known to have; what stands under other names is only
looked at for numbers that no machine type holds. A table that has values for some of its slots
and nothing else is laid out as it is written, and each slot takes back what was put into it.
-/

namespace Mender.Toml

theorem uint32?_toNat (n : UInt32) : uint32? (.integer n.toNat) = some n := by
  have small : n.toNat < UInt32.size := n.toNat_lt
  change ((if n.toNat < UInt32.size then some n.toNat else none).map UInt32.ofNat) = _
  rw [if_pos small, Option.map_some, UInt32.ofNat_toNat]

theorem uint64?_toNat (n : UInt64) : uint64? (.integer n.toNat) = some n := by
  have small : n.toNat < UInt64.size := n.toNat_lt
  change ((if n.toNat < UInt64.size then some n.toNat else none).map UInt64.ofNat) = _
  rw [if_pos small, Option.map_some, UInt64.ofNat_toNat]

theorem texts?_map (texts : List String) : texts? (.array (texts.map .string)) = some texts := by
  have each : (texts.map Toml.string).mapM text? = some texts := by
    induction texts with
    | nil => rfl
    | cons s texts ih => simp [List.mapM_cons, text?, ih]
  exact each

theorem isLeaf_texts (texts : List String) : isLeaf (.array (texts.map .string)) = true := by
  refine List.all_eq_true.mpr fun item mem => ?_
  obtain ⟨s, -, rfl⟩ := List.mem_map.mp mem
  rfl

/-- The table has these values under these names, and nothing under a name without one. -/
def Tells (fields : List (String × Toml)) (slots : List (String × Option Toml)) : Prop :=
  ∀ slot ∈ slots, fields.lookup slot.1 = slot.2

/-- Whether all numbers that a table holds under other names are sound. -/
def restSound (names : List String) (fields : List (String × Toml)) : Bool :=
  fieldsSound (fields.filter fun f => !names.contains f.1)

/-- A slot has a table that says the overlay, or nothing where there is no overlay. -/
inductive TableSays {α : Type} (said : α → List (String × Toml) → Prop) :
    Option α → Option Toml → Prop where
  | absent : TableSays said none none
  | present {overlay : α} {fields : List (String × Toml)} :
    said overlay fields → TableSays said (some overlay) (some (.table fields))

/-- Whether the table in a slot is sound, if there is one. -/
def slotSound (sound : List (String × Toml) → Bool) : Option Toml → Bool
  | some (.table fields) => sound fields
  | _ => true

theorem slots?_of_tells (names : List String) {fields : List (String × Toml)}
    {slots : List (String × Option Toml)} (h : Tells fields slots)
    (named : slots.map Prod.fst = names) :
    (table fields).slots? names =
      if restSound names fields then some (slots.map Prod.snd) else none := by
  have looked : names.map (fun name => fields.lookup name) = slots.map Prod.snd := by
    rw [← named, List.map_map]
    exact List.map_congr_left h
  rw [slots?, restSound, looked]

/-- A kind of tables without tables in them: the names of their slots, and what an overlay puts
into them. -/
structure Form (α : Type) where
  names : List String
  slots : α → List (String × Option Toml)
  named : ∀ o, (slots o).map Prod.fst = names
  leaf : ∀ o, ∀ slot ∈ slots o, ∀ value ∈ slot.2, isLeaf value = true
  bare : names.all isBare = true
  distinct : names.Nodup

namespace Form

variable {α : Type} (form : Form α)

def SaidBy (o : α) (fields : List (String × Toml)) : Prop := Tells fields (form.slots o)

def sound (fields : List (String × Toml)) : Bool := restSound form.names fields

theorem slots?_of_saidBy {form : Form α} {o : α} {fields : List (String × Toml)}
    (h : form.SaidBy o fields) :
    (table fields).slots? form.names =
      if form.sound fields then some ((form.slots o).map Prod.snd) else none :=
  slots?_of_tells form.names h (form.named o)

end Form

theorem leaf_map {α : Type} {overlay? : Option α} {print : α → Toml}
    (h : ∀ a, isLeaf (print a) = true) : ∀ value ∈ overlay?.map print, isLeaf value = true := by
  intro value held
  obtain ⟨a, -, rfl⟩ := Option.map_eq_some_iff.1 held
  exact h a

theorem slotOr_map {α : Type} {default : α} {read : Toml → Option α} {print : α → Toml}
    (reads : ∀ a, read (print a) = some a) (value? : Option α) :
    slotOr default read (value?.map print) = some (value?.getD default) := by
  cases value? with
  | none => rfl
  | some a => exact reads a

theorem text?_string (s : String) : text? (.string s) = some s := rfl

/-- A slot whose absence is a value of its own. -/
theorem slotOr_text (value? : Option String) :
    slotOr none (fun t => t.text?.map some) (value?.map .string) = some value? := by
  cases value? <;> rfl

theorem slotOr_table {α β : Type} {said : α → List (String × Toml) → Prop}
    {sound : List (String × Toml) → Bool} {read : Toml → Option β} {onto? : α → Option β}
    (reads : ∀ overlay fields, said overlay fields →
      read (.table fields) = if sound fields then onto? overlay else none)
    {default : β} {overlay? : Option α} {slot : Option Toml} (h : TableSays said overlay? slot) :
    slotOr default read slot =
      if slotSound sound slot then overlay?.elim (some default) onto? else none := by
  cases h with
  | absent => rfl
  | present told => exact reads _ _ told

theorem elim_some {α β : Type} (overlay? : Option α) (base : β) (onto : α → β) :
    overlay?.elim (some base) (fun overlay => some (onto overlay)) =
      some (overlay?.elim base onto) := by
  cases overlay? <;> rfl

/-- The fields of the slots that have a value. -/
def present (slots : List (String × Option Toml)) : List (String × Toml) :=
  slots.filterMap fun slot => slot.2.map fun value => (slot.1, value)

theorem present_append (slots more : List (String × Option Toml)) :
    present (slots ++ more) = present slots ++ present more := by
  simp [present]

theorem mem_of_mem_present {slots : List (String × Option Toml)} {f : String × Toml}
    (h : f ∈ present slots) : (f.1, some f.2) ∈ slots := by
  obtain ⟨slot, mem, field⟩ := List.mem_filterMap.1 h
  obtain ⟨value, held, rfl⟩ := Option.map_eq_some_iff.1 field
  rwa [← held]

theorem names_present (slots : List (String × Option Toml)) :
    ((present slots).map Prod.fst).Sublist (slots.map Prod.fst) := by
  induction slots with
  | nil => exact .slnil
  | cons slot slots ih =>
    obtain ⟨name, value | value⟩ := slot
    · exact ih.cons name
    · exact ih.cons_cons name

theorem tells_present {slots : List (String × Option Toml)}
    (distinct : (slots.map Prod.fst).Nodup) : Tells (present slots) slots := by
  induction slots with
  | nil => exact List.forall_mem_nil _
  | cons slot slots ih =>
    obtain ⟨name, value⟩ := slot
    obtain ⟨new, later⟩ := List.nodup_cons.1 distinct
    refine List.forall_mem_cons.2 ⟨?_, fun other behind => ?_⟩
    · cases value with
      | some value => exact List.lookup_cons_self
      | none =>
        refine List.lookup_eq_none_iff.2 fun f held => bne_iff_ne.2 fun same => new ?_
        exact (names_present slots).mem (same ▸ List.mem_map_of_mem held)
    · have apart : (other.1 == name) = false := by
        refine beq_eq_false_iff_ne.2 fun same => new ?_
        have named : other.1 ∈ slots.map Prod.fst := List.mem_map_of_mem behind
        rwa [same] at named
      cases value with
      | none => exact ih later other behind
      | some value =>
        rw [← ih later other behind]
        change List.lookup other.1 ((name, value) :: present slots) = _
        rw [List.lookup_cons, apart]

theorem restSound_present {slots : List (String × Option Toml)} {names : List String}
    (known : slots.map Prod.fst ⊆ names) : restSound names (present slots) = true := by
  have nothing : (present slots).filter (fun f => !names.contains f.1) = [] := by
    refine List.filter_eq_nil_iff.2 fun f mem => ?_
    have named : f.1 ∈ names := known (List.mem_map_of_mem (mem_of_mem_present mem))
    simpa using named
  rw [restSound, nothing]
  rfl

section Slots

variable {α : Type} {fields : α → List (String × Toml)} (overlay? : Option α)

theorem tableSays_map {said : α → List (String × Toml) → Prop} (h : ∀ o, said o (fields o)) :
    TableSays said overlay? (overlay?.map fun o => .table (fields o)) := by
  cases overlay? with
  | none => exact .absent
  | some o => exact .present (h o)

theorem slotSound_map {sound : List (String × Toml) → Bool} (h : ∀ o, sound (fields o) = true) :
    slotSound sound (overlay?.map fun o => .table (fields o)) = true := by
  cases overlay? with
  | none => rfl
  | some o => exact h o

end Slots

/-- Slots under names that are bare and distinct are laid out as they are written. -/
theorem layout_present {leaves tables : List (String × Option Toml)} (names : List String)
    (named : (leaves ++ tables).map Prod.fst = names)
    (leaf : ∀ slot ∈ leaves, ∀ value ∈ slot.2, isLeaf value = true)
    (bare : names.all isBare = true) (distinct : names.Nodup) :
    Layout (present leaves) (present tables) where
  leaf := fun f mem => leaf _ (mem_of_mem_present mem) f.2 rfl
  bare := by
    intro f mem
    rw [← present_append] at mem
    exact List.all_eq_true.mp bare f.1 (named ▸ List.mem_map_of_mem (mem_of_mem_present mem))
  distinct := by
    rw [← present_append]
    exact (named ▸ distinct).sublist (names_present _)

theorem Nested.slot {α : Type} {levels : Nat} {key : String} {overlay? : Option α}
    {leaves tables : α → List (String × Option Toml)} {rest : List (String × Option Toml)}
    (layout : ∀ o, Layout (present (leaves o)) (present (tables o)))
    (inside : ∀ o, Nested levels (present (tables o))) (more : Nested (levels + 1) (present rest)) :
    Nested (levels + 1)
      (present ((key, overlay?.map fun o => .table (present (leaves o ++ tables o))) :: rest)) := by
  cases overlay? with
  | none => exact more
  | some o =>
    have whole := @Nested.cons levels key _ _ _ (layout o) (inside o) more
    rwa [← present_append] at whole

namespace Form

variable {α : Type} (form : Form α)

/-- The fields of the table that says an overlay and nothing else. -/
def fields (o : α) : List (String × Toml) := present (form.slots o)

theorem saidBy_fields (o : α) : form.SaidBy o (form.fields o) :=
  tells_present (form.named o ▸ form.distinct)

theorem sound_fields (o : α) : form.sound (form.fields o) = true :=
  restSound_present (form.named o ▸ List.Subset.refl _)

/-- A slot with the table of an overlay is laid out as it is written. -/
theorem nested {levels : Nat} {key : String} {overlay? : Option α}
    {rest : List (String × Option Toml)} (more : Nested (levels + 1) (present rest)) :
    Nested (levels + 1)
      (present ((key, overlay?.map fun o => .table (form.fields o)) :: rest)) := by
  have layout (o : α) : Layout (present (form.slots o)) (present []) :=
    layout_present form.names (by rw [List.append_nil, form.named]) (form.leaf o) form.bare
      form.distinct
  have whole := @Nested.slot α levels key overlay? form.slots (fun _ => []) rest layout
    (fun _ => .nil) more
  simp only [List.append_nil] at whole
  exact whole

end Form

end Mender.Toml
