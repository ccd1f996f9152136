import Mender.AuditTrail
import Mender.Proofs.Json.Pretty

/-!
# Records that are read back

Every record of a trail is an object with one field for each of its slots. So it reads back as
what it was written for, also from its text.
-/

namespace Mender

namespace Json

/-- The text of a value reads back, with a line break behind it. -/
theorem ofText?_pretty_line {j : Json} (writable : j.isWritable = true) :
    ofText? (j.pretty ++ "\n").toList = some j := by
  have ends : EndsNumeral ['\n'] := endsNumeral_cons (by decide) []
  have spelled := spellsTokens_prettyAt 0 j writable ends (.space rfl .nil)
  rw [List.append_nil] at spelled
  refine ofText?_of_spells ?_
  rw [pretty, String.toList_append, String.toList_ofList]
  exact spelled

variable {fields : List (String × Json)}

theorem slot?_record (distinct : (fields.map (·.1)).Nodup) {field : String × Json}
    (mem : field ∈ fields) :
    slot? (fields.map fun (key, value) => (some key, value)) field.1 = some (some field.2) := by
  have only : (fields.map fun (key, value) => (some key, value)).filter
      (fun f => f.1 = some field.1) = [(some field.1, field.2)] := by
    induction fields with
    | nil => cases mem
    | cons head rest ih =>
      obtain ⟨absent, distinct⟩ := List.nodup_cons.mp distinct
      rcases List.mem_cons.mp mem with rfl | mem
      · have none : ∀ f ∈ rest, f.1 ≠ field.1 := fun f there same =>
          absent (List.mem_map.mpr ⟨f, there, same⟩)
        simpa [List.filter_map, List.filter_eq_nil_iff] using fun a b there => none (a, b) there
      · have other : head.1 ≠ field.1 := fun same =>
          absent (List.mem_map.mpr ⟨field, mem, same.symm⟩)
        simpa [other] using ih distinct mem
  rw [slot?, only]

/-- A record has the slots that it was made with. -/
theorem slots?_record {names : List String} (distinct : names.Nodup)
    (named : fields.map (·.1) = names) :
    (record fields).slots? names = some (fields.map fun field => some field.2) := by
  subst named
  have keyed : (fields.map fun (key, value) => (some key, value)).all (fun f => f.1.isSome) =
      true := by
    simp
  rw [record, slots?, objectSlots?, if_pos keyed]
  have each : ∀ part : List (String × Json), part ⊆ fields →
      (part.map (·.1)).mapM (slot? (fields.map fun (key, value) => (some key, value))) =
        some (part.map fun field => some field.2) := by
    intro part sub
    induction part with
    | nil => rfl
    | cons head rest ih =>
      obtain ⟨here, later⟩ := List.cons_subset.mp sub
      simp [List.mapM_cons, slot?_record distinct here, ih later]
  exact each fields (List.Subset.refl fields)

theorem natBelow?_nat {bound n : Nat} (small : n < bound) : (nat n).natBelow? bound = some n := by
  simp [natBelow?, nat, nat?, Option.filter, small]

theorem uint32?_nat (n : UInt32) : (nat n.toNat).uint32? = some n := by
  rw [uint32?, natBelow?_nat n.toNat_lt, Option.map_some, UInt32.ofNat_toNat]

/-- Items that each read back are read back together. -/
theorem mapM_map {α : Type} {toJson : α → Json} {ofJson? : Json → Option α} {items : List α}
    (each : ∀ a ∈ items, ofJson? (toJson a) = some a) :
    (items.map toJson).mapM ofJson? = some items := by
  induction items with
  | nil => rfl
  | cons a rest ih =>
    obtain ⟨here, later⟩ := List.forall_mem_cons.mp each
    simp [List.mapM_cons, here, ih later]

theorem itemsWritable_map {α : Type} {toJson : α → Json} (items : List α)
    (each : ∀ a, (toJson a).isWritable = true) : itemsWritable (items.map toJson) = true := by
  induction items with
  | nil => rfl
  | cons a rest ih => simp [itemsWritable, each, ih]

end Json

theorem Finding.ofJson?_toJson (f : Finding) : ofJson? f.toJson = some f := by
  have slots : f.toJson.slots? slots = some _ :=
    Json.slots?_record (by decide : slots.Nodup) rfl
  rw [ofJson?, slots]
  simp [Json.choice?, Json.text, Json.text?, Json.bool?, Json.uint32?_nat]

@[simp] theorem Finding.isWritable_toJson (f : Finding) : f.toJson.isWritable = true := by
  simp [toJson, Json.record, Json.isWritable, Json.fieldsWritable, Json.text, Json.nat,
    Numeral.ofNat]

theorem Snapshot.ofJson?_toJson (s : Snapshot) : ofJson? s.toJson = some s := by
  have slots : s.toJson.slots? ["static_errors", "test_failures"] = some _ :=
    Json.slots?_record (by decide : ["static_errors", "test_failures"].Nodup) rfl
  rw [ofJson?, slots]
  simp [Json.items?, Json.mapM_map fun f _ => Finding.ofJson?_toJson f]

@[simp] theorem Snapshot.isWritable_toJson (s : Snapshot) : s.toJson.isWritable = true := by
  simp [toJson, Json.record, Json.isWritable, Json.fieldsWritable, Json.itemsWritable_map]

/-- The numbers of a record fit the words that it is read into. -/
structure Pass.Fits (p : Pass) : Prop where
  index : p.index < UInt32.size
  staticErrors : p.staticErrors < UInt64.size
  testFailures : p.testFailures < UInt64.size

theorem Pass.ofJson?_toJson {p : Pass} (fits : p.Fits) : ofJson? p.toJson = some p := by
  have slots : p.toJson.slots? slots = some _ :=
    Json.slots?_record (by decide : slots.Nodup) rfl
  rw [ofJson?, slots]
  simp [Json.bool?, Json.count?, Json.natBelow?_nat fits.index,
    Json.natBelow?_nat fits.staticErrors, Json.natBelow?_nat fits.testFailures]

@[simp] theorem Pass.isWritable_toJson (p : Pass) : p.toJson.isWritable = true := by
  simp [toJson, Json.record, Json.isWritable, Json.fieldsWritable, Json.nat, Numeral.ofNat]

theorem Outcome.ofJson?_toJson {o : Outcome} (iterations : o.iterations < UInt32.size)
    (finalErrors : o.finalErrors < UInt64.size)
    (finalTestFailures : o.finalTestFailures < UInt64.size)
    (history : ∀ pass ∈ o.history, pass.Fits) : ofJson? o.toJson = some o := by
  have slots : o.toJson.slots? slots = some _ :=
    Json.slots?_record (by decide : slots.Nodup) rfl
  rw [ofJson?, slots]
  simp [Json.bool?, Json.count?, Json.items?, Json.natBelow?_nat iterations,
    Json.natBelow?_nat finalErrors, Json.natBelow?_nat finalTestFailures,
    Json.mapM_map fun pass mem => Pass.ofJson?_toJson (history pass mem)]

@[simp] theorem Outcome.isWritable_toJson (o : Outcome) : o.toJson.isWritable = true := by
  simp [toJson, Json.record, Json.isWritable, Json.fieldsWritable, Json.itemsWritable_map,
    Json.nat, Numeral.ofNat]

@[simp] theorem Attempt.isWritable_toJson (a : Attempt) : a.toJson.isWritable = true := by
  cases detail : a.fix.detail? <;>
    simp [toJson, detail, Json.record, Json.isWritable, Json.fieldsWritable, Json.text]

/-- The record of an answer says its kind, its detail, if it has one, and whether it was
written. -/
theorem Attempt.field?_toJson (a : Attempt) :
    a.toJson.field? "kind" = some (.text a.fix.kind) ∧
      a.toJson.field? "detail" = a.fix.detail?.map Json.text ∧
      a.toJson.field? "written" = some (.bool a.written) := by
  cases detail : a.fix.detail? <;> simp [toJson, detail, Json.record, Json.field?]

end Mender
