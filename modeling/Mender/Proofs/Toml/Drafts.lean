import Mender.Proofs.Toml.Lines
import Mender.Toml.Document

/-!
# What the statements of a document make

The statements of a printed table, in the order in which they are written, make that table
again: its header opens it, its keys are set in it, and the tables in it are made in the same
way one level down.
-/

namespace Mender.Toml

namespace Fields

variable {key : String} {fields : Fields}

theorem lookup_put (fields : Fields) (key : String) (node : Node) :
    List.lookup key (fields.put key node) = some node := by
  induction fields with
  | nil => simp [put]
  | cons f fields ih =>
    obtain ⟨k, n⟩ := f
    rw [put]
    split_ifs with same
    · simp [same]
    · have other : (key == k) = false := by simpa using Ne.symm same
      rw [List.lookup_cons, other]
      exact ih

theorem put_put (fields : Fields) (key : String) (a b : Node) :
    (fields.put key a).put key b = fields.put key b := by
  induction fields with
  | nil => simp [put]
  | cons f fields ih =>
    obtain ⟨k, n⟩ := f
    by_cases same : k = key
    · simp [put, same]
    · simp [put, same, ih]

theorem put_of_fresh (fresh : key ∉ fields.map Prod.fst) (node : Node) :
    fields.put key node = fields ++ [(key, node)] := by
  induction fields with
  | nil => rfl
  | cons f fields ih =>
    obtain ⟨k, n⟩ := f
    rw [List.map_cons, List.mem_cons, not_or] at fresh
    rw [put, if_neg (Ne.symm fresh.1), ih fresh.2]
    rfl

theorem lookup_of_fresh (fresh : key ∉ fields.map Prod.fst) : List.lookup key fields = none := by
  rw [List.lookup_eq_none_iff]
  intro f mem
  have other : key ≠ f.1 := fun same => fresh (same ▸ List.mem_map_of_mem mem)
  simpa using other

theorem within_append (path more : List String) (rewrite : Fields → Option Fields)
    (fields : Fields) :
    fields.within (path ++ more) rewrite = fields.within path (within more rewrite) := by
  induction path generalizing fields with
  | nil => rfl
  | cons step path ih =>
    rw [List.cons_append, within, within]
    simp only [ih]

end Fields

/-- The table at a path lies in the hole of what is around it. -/
def Focus (path : List String) (around : Fields → Fields) : Prop :=
  ∀ (rewrite : Fields → Option Fields) (inner : Fields),
    (around inner).within path rewrite = (rewrite inner).map around

theorem Focus.root : Focus [] id := by
  intro rewrite inner
  cases h : rewrite inner <;> simp [Fields.within, h]

/-- A table in the table that lies in the hole. -/
theorem Focus.child {path : List String} {around : Fields → Fields} (focus : Focus path around)
    (inner : Fields) (key : String) (origin : Origin) :
    Focus (path ++ [key]) fun sub => around (inner.put key (.table origin sub)) := by
  intro rewrite sub
  have within : (inner.put key (.table origin sub)).within [key] rewrite =
      (rewrite sub).map fun sub => inner.put key (.table origin sub) := by
    rw [Fields.within, Fields.lookup_put]
    simp only [Fields.within, Fields.put_put]
  rw [Fields.within_append, focus, within, Option.map_map]
  rfl

/-- The statements of the keys of a table that hold no table. -/
def leafStatements (fields : List (String × Toml)) : List Statement :=
  fields.flatMap fun f => if isTable f.2 then [] else [.assign [] f.1 f.2]

/-- The statements of the block of a table. -/
def blockStatements (path : List String) (key : String) (fields : List (String × Toml)) :
    List (List Statement) :=
  if !fields.isEmpty && fields.all (isTable ·.2) then []
  else [.table path key :: leafStatements fields]

mutual

/-- The statements of the blocks of a table and of those in it. -/
def tableStatements (path : List String) (key : String) : Toml → List (List Statement)
  | .table fields => blockStatements path key fields ++ fieldStatements (path ++ [key]) fields
  | _ => []

def fieldStatements (path : List String) : List (String × Toml) → List (List Statement)
  | [] => []
  | (key, value) :: fields => tableStatements path key value ++ fieldStatements path fields

end

/-- The fields of a table in the order in which they are written: behind values without tables
those that are tables, all under distinct bare keys. -/
structure Layout (leaves tables : List (String × Toml)) : Prop where
  leaf : ∀ f ∈ leaves, isLeaf f.2 = true
  bare : ∀ f ∈ leaves ++ tables, isBare f.1 = true
  distinct : ((leaves ++ tables).map Prod.fst).Nodup

/-- Tables whose fields are laid out as they are written, with so many levels at the most. -/
inductive Nested : Nat → List (String × Toml) → Prop
  | nil {levels} : Nested levels []
  | cons {levels key leaves tables rest} (layout : Layout leaves tables)
      (inside : Nested levels tables) (more : Nested (levels + 1) rest) :
      Nested (levels + 1) ((key, .table (leaves ++ tables)) :: rest)

section Statements

variable {leaves tables : List (String × Toml)} {levels : Nat}

theorem not_table_of_leaf {value : Toml} (leaf : isLeaf value = true) : isTable value = false := by
  cases value with
  | table fields => cases leaf
  | _ => rfl

theorem Nested.all_tables (nested : Nested levels tables) : tables.all (isTable ·.2) = true := by
  induction nested with
  | nil => rfl
  | cons _ _ _ _ ih => exact ih

theorem leafStatements_leaves (leaf : ∀ f ∈ leaves, isLeaf f.2 = true)
    (rest : List (String × Toml)) :
    leafStatements (leaves ++ rest) =
      leaves.map (fun f => .assign [] f.1 f.2) ++ leafStatements rest := by
  induction leaves with
  | nil => rfl
  | cons f leaves ih =>
    have other := not_table_of_leaf (leaf f List.mem_cons_self)
    have later := ih fun g mem => leaf g (List.mem_cons_of_mem f mem)
    rw [leafStatements] at later ⊢
    rw [List.cons_append, List.flatMap_cons, if_neg (by simp [other]), later]
    rfl

theorem Nested.leafStatements (nested : Nested levels tables) : leafStatements tables = [] := by
  have all := List.all_eq_true.mp nested.all_tables
  rw [Toml.leafStatements, List.flatMap_eq_nil_iff]
  intro f mem
  rw [if_pos (all f mem)]

theorem fieldStatements_leaves (leaf : ∀ f ∈ leaves, isLeaf f.2 = true) (path : List String)
    (rest : List (String × Toml)) :
    fieldStatements path (leaves ++ rest) = fieldStatements path rest := by
  induction leaves with
  | nil => rfl
  | cons f leaves ih =>
    obtain ⟨key, value⟩ := f
    have other := not_table_of_leaf (leaf _ List.mem_cons_self)
    have nothing : tableStatements path key value = [] := by
      cases value with
      | table => cases other
      | _ => rfl
    rw [List.cons_append, fieldStatements, nothing, ih fun g mem => leaf g (List.mem_cons_of_mem _ mem)]
    rfl

/-- A table has a header if it has values that are no tables, or nothing in it. -/
theorem shown_of_named (layout : Layout leaves tables) (named : leaves ≠ [] ∨ tables = []) :
    (!(leaves ++ tables).isEmpty && (leaves ++ tables).all (isTable ·.2)) = false := by
  rcases leaves with - | ⟨f, leaves⟩
  · rcases named with nonempty | rfl
    · exact absurd rfl nonempty
    · rfl
  · have other := not_table_of_leaf (layout.leaf f List.mem_cons_self)
    simp [other]

theorem Nested.left_out (nested : Nested levels tables) (nonempty : tables ≠ []) :
    (!tables.isEmpty && tables.all (isTable ·.2)) = true := by
  simpa [nonempty] using nested.all_tables

/-- What a table with a header says. -/
theorem tableStatements_named (layout : Layout leaves tables) (nested : Nested levels tables)
    (named : leaves ≠ [] ∨ tables = []) (path : List String) (key : String) :
    tableStatements path key (.table (leaves ++ tables)) =
      (.table path key :: leaves.map fun f => .assign [] f.1 f.2) ::
        fieldStatements (path ++ [key]) tables := by
  rw [tableStatements, blockStatements, shown_of_named layout named, leafStatements_leaves layout.leaf,
    nested.leafStatements, List.append_nil, fieldStatements_leaves layout.leaf]
  rfl

/-- What a table without a header says. -/
theorem tableStatements_passed (nested : Nested levels tables) (nonempty : tables ≠ [])
    (path : List String) (key : String) :
    tableStatements path key (.table tables) = fieldStatements (path ++ [key]) tables := by
  rw [tableStatements, blockStatements, nested.left_out nonempty]
  rfl

/-- Statements about tables below a path make the same of two roots if whatever is done at
that path does. -/
theorem extend_congr (nested : Nested levels tables) (nonempty : tables ≠ [])
    {path : List String} {a b : Fields}
    (same : ∀ rewrite, a.within path rewrite = b.within path rewrite) (c d : List String) :
    (fieldStatements path tables).flatten.foldlM Draft.extend ⟨a, c⟩ =
      (fieldStatements path tables).flatten.foldlM Draft.extend ⟨b, d⟩ := by
  induction nested generalizing path a b with
  | nil => exact absurd rfl nonempty
  | @cons levels key leaves tables rest layout inside more ih =>
    rw [fieldStatements, List.flatten_append, List.foldlM_append, List.foldlM_append]
    by_cases named : leaves ≠ [] ∨ tables = []
    · rw [tableStatements_named layout inside named]
      simp only [List.flatten_cons, List.cons_append, List.foldlM_cons, Draft.extend, same]
    · obtain ⟨rfl, deeper⟩ : leaves = [] ∧ tables ≠ [] := by simpa using named
      have below (rewrite : Fields → Option Fields) :
          a.within (path ++ [key]) rewrite = b.within (path ++ [key]) rewrite := by
        rw [Fields.within_append, Fields.within_append, same]
      rw [List.nil_append, tableStatements_passed inside deeper, ih deeper below]

end Statements

section Making

theorem fieldsToToml_append (a b : Fields) :
    fieldsToToml (a ++ b) = fieldsToToml a ++ fieldsToToml b := by
  induction a with
  | nil => rfl
  | cons f a ih => rw [List.cons_append, fieldsToToml, ih, fieldsToToml, List.cons_append]

theorem fieldsToToml_leaves (leaves : List (String × Toml)) :
    fieldsToToml (leaves.map fun f => (f.1, .leaf f.2)) = leaves := by
  induction leaves with
  | nil => rfl
  | cons f leaves ih => rw [List.map_cons, fieldsToToml, ih, Node.toToml]

variable {path : List String} {around : Fields → Fields}

/-- The keys of a table are set behind those that it has. -/
theorem extend_leaves (focus : Focus path around) (leaves : List (String × Toml))
    (inner : Fields) (distinct : (inner.map Prod.fst ++ leaves.map Prod.fst).Nodup) :
    (leaves.map fun f => Statement.assign [] f.1 f.2).foldlM Draft.extend ⟨around inner, path⟩ =
      some ⟨around (inner ++ leaves.map fun f => (f.1, .leaf f.2)), path⟩ := by
  induction leaves generalizing inner with
  | nil => simp
  | cons f leaves ih =>
    have fresh : f.1 ∉ inner.map Prod.fst := by
      intro mem
      exact (List.nodup_append.mp distinct).2.2 _ mem _ (by simp) rfl
    have assigned : Draft.extend ⟨around inner, path⟩ (.assign [] f.1 f.2) =
        some ⟨around (inner ++ [(f.1, .leaf f.2)]), path⟩ := by
      have defined : Fields.assign [] f.1 f.2 inner = some (inner ++ [(f.1, .leaf f.2)]) := by
        rw [Fields.assign, List.isEmpty_nil, if_pos rfl, Fields.define,
          Fields.lookup_of_fresh fresh, Fields.put_of_fresh fresh]
      rw [Draft.extend, focus, defined]
      rfl
    rw [List.map_cons, List.foldlM_cons, assigned]
    refine (ih (inner ++ [(f.1, .leaf f.2)]) (by simpa using distinct)).trans ?_
    simp

/-- The fields of a table are made in it one after another. -/
def Makes (tables : List (String × Toml)) : Prop :=
  ∀ {path : List String} {around : Fields → Fields}, Focus path around → ∀ (inner : Fields),
    (inner.map Prod.fst ++ tables.map Prod.fst).Nodup → ∀ current, ∃ nodes latest,
      fieldsToToml nodes = tables ∧
        (fieldStatements path tables).flatten.foldlM Draft.extend ⟨around inner, current⟩ =
          some ⟨around (inner ++ nodes), latest⟩

theorem extend_table {levels : Nat} {leaves tables : List (String × Toml)}
    (layout : Layout leaves tables) (inside : Nested levels tables) (makes : Makes tables)
    (focus : Focus path around) {inner : Fields} {key : String}
    (fresh : key ∉ inner.map Prod.fst) (current : List String) :
    ∃ origin sub latest, fieldsToToml sub = leaves ++ tables ∧
      (tableStatements path key (.table (leaves ++ tables))).flatten.foldlM Draft.extend
          ⟨around inner, current⟩ =
        some ⟨around (inner ++ [(key, .table origin sub)]), latest⟩ := by
  have distinct := layout.distinct
  by_cases named : leaves ≠ [] ∨ tables = []
  · have inside_table := focus.child inner key .named
    have opened : Draft.extend ⟨around inner, current⟩ (.table path key) =
        some ⟨around (inner.put key (.table .named [])), path ++ [key]⟩ := by
      rw [Draft.extend, focus, Fields.openTable, Fields.lookup_of_fresh fresh]
      rfl
    have leaves_made := extend_leaves inside_table leaves [] (by simpa using
      (List.nodup_append.mp (by simpa using distinct)).1)
    obtain ⟨nodes, latest, made, tables_made⟩ := makes inside_table
      (leaves.map fun f => (f.1, .leaf f.2)) (by simpa [Function.comp_def] using distinct)
      (path ++ [key])
    refine ⟨.named, (leaves.map fun f => (f.1, .leaf f.2)) ++ nodes, latest, ?_, ?_⟩
    · rw [fieldsToToml_append, fieldsToToml_leaves, made]
    · rw [tableStatements_named layout inside named, List.flatten_cons, List.cons_append,
        List.foldlM_cons, opened, Option.bind_eq_bind, Option.bind_some, List.foldlM_append,
        leaves_made, Option.bind_eq_bind, Option.bind_some, List.nil_append, tables_made,
        Fields.put_of_fresh fresh]
  · obtain ⟨rfl, deeper⟩ : leaves = [] ∧ tables ≠ [] := by simpa using named
    have inside_table := focus.child inner key .passed
    have reached (rewrite : Fields → Option Fields) :
        (around inner).within (path ++ [key]) rewrite =
          (around (inner.put key (.table .passed []))).within (path ++ [key]) rewrite := by
      rw [inside_table rewrite [], Fields.within_append, focus, Fields.within,
        Fields.lookup_of_fresh fresh]
      simp only [Fields.within, Option.map_map]
      rfl
    obtain ⟨nodes, latest, made, tables_made⟩ := makes inside_table []
      (by simpa using distinct) current
    refine ⟨.passed, nodes, latest, made, ?_⟩
    rw [List.nil_append, tableStatements_passed inside deeper,
      extend_congr inside deeper reached current current, tables_made, Fields.put_of_fresh fresh]
    rfl

/-- Tables are made behind what the table around them has. -/
theorem makes_of_nested {levels : Nat} {tables : List (String × Toml)}
    (nested : Nested levels tables) : Makes tables := by
  induction nested with
  | nil => exact fun _ _ _ current => ⟨[], current, rfl, by simp [fieldStatements]⟩
  | @cons levels key leaves tables rest layout inside more ih_inside ih_more =>
    intro path around focus inner distinct current
    have fresh : key ∉ inner.map Prod.fst := by
      intro mem
      exact (List.nodup_append.mp distinct).2.2 _ mem _ (by simp) rfl
    obtain ⟨origin, sub, latest, made, first⟩ :=
      extend_table layout inside ih_inside focus fresh current
    obtain ⟨nodes, last, made_rest, later⟩ := ih_more focus
      (inner ++ [(key, .table origin sub)]) (by simpa using distinct) latest
    refine ⟨(key, .table origin sub) :: nodes, last, ?_, ?_⟩
    · rw [fieldsToToml, Node.toToml, made, made_rest]
    · rw [fieldStatements, List.flatten_append, List.foldlM_append, first]
      refine later.trans ?_
      simp

end Making

end Mender.Toml
