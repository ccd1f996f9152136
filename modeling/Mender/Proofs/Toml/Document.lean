import Mender.Proofs.Toml.Drafts

/-!
# Documents read back

A printed document says the statements of its tables, block by block, and these make the
tables again. So a document whose fields are laid out as they are written reads back as it
was.
-/

namespace Mender.Toml

/-- The lines of the text are these statements, whatever stands before and behind them. -/
def Says (text : List Char) (statements : List Statement) : Prop :=
  ∀ found rest, run ⟨.lineStart, found⟩ (text ++ rest) =
    run ⟨.lineStart, statements.reverse ++ found⟩ rest

theorem says_nil : Says [] [] := fun _ _ => rfl

theorem says_emptyLine : Says ['\n'] [] := fun _ _ => run_mark (t := .lineEnd) rfl rfl

theorem Says.append {text more : List Char} {statements others : List Statement}
    (first : Says text statements) (later : Says more others) :
    Says (text ++ more) (statements ++ others) := by
  intro found rest
  rw [List.append_assoc, first, later, List.reverse_append, List.append_assoc]

/-- Empty lines between blocks say nothing. -/
theorem says_intercalate {blocks : List (List Char)} {statements : List (List Statement)}
    (each : List.Forall₂ Says blocks statements) :
    Says (['\n'].intercalate blocks) statements.flatten := by
  induction each with
  | nil => exact says_nil
  | @cons block these blocks others first later ih =>
    cases later with
    | nil => simpa using first
    | cons second more =>
      rw [List.intercalate_cons_of_ne_nil (List.cons_ne_nil _ _)]
      have apart := (first.append says_emptyLine).append ih
      rwa [List.append_nil] at apart

section Blocks

variable {leaves tables : List (String × Toml)} {levels : Nat}

theorem keyLines_cons {f : String × Toml} (leaf : isLeaf f.2 = true)
    (rest : List (String × Toml)) :
    keyLines (f :: rest) =
      (keyText f.1 ++ [' ', '=', ' '] ++ valueText f.2 ++ ['\n']) ++ keyLines rest := by
  have other := not_table_of_leaf leaf
  obtain ⟨key, value⟩ := f
  rw [keyLines, List.flatMap_cons]
  exact congrArg (· ++ _) (if_neg (by simp [other]))

theorem says_keyLines (leaf : ∀ f ∈ leaves, isLeaf f.2 = true)
    (bare : ∀ f ∈ leaves, isBare f.1 = true) :
    Says (keyLines leaves) (leaves.map fun f => .assign [] f.1 f.2) := by
  induction leaves with
  | nil => exact says_nil
  | cons f leaves ih =>
    have line : Says (keyText f.1 ++ [' ', '=', ' '] ++ valueText f.2 ++ ['\n'])
        [.assign [] f.1 f.2] := fun found rest =>
      run_keyLine (bare f List.mem_cons_self) (leaf f List.mem_cons_self)
    rw [keyLines_cons (leaf f List.mem_cons_self)]
    exact line.append (ih (fun g mem => leaf g (List.mem_cons_of_mem f mem))
      fun g mem => bare g (List.mem_cons_of_mem f mem))

theorem keyLines_append (nested : Nested levels tables) (leaves : List (String × Toml)) :
    keyLines (leaves ++ tables) = keyLines leaves := by
  have all := List.all_eq_true.mp nested.all_tables
  have nothing : keyLines tables = [] := by
    rw [keyLines, List.flatMap_eq_nil_iff]
    rintro ⟨key, value⟩ mem
    exact if_pos (all _ mem)
  rw [keyLines, List.flatMap_append, ← keyLines, ← keyLines, nothing, List.append_nil]

theorem fieldBlocks_append (leaf : ∀ f ∈ leaves, isLeaf f.2 = true) (path : List String)
    (rest : List (String × Toml)) : fieldBlocks path (leaves ++ rest) = fieldBlocks path rest := by
  induction leaves with
  | nil => rfl
  | cons f leaves ih =>
    obtain ⟨key, value⟩ := f
    have other := not_table_of_leaf (leaf _ List.mem_cons_self)
    have nothing : tableBlocks (path ++ [key]) value = [] := by
      cases value with
      | table => cases other
      | _ => rfl
    rw [List.cons_append, fieldBlocks, nothing, ih fun g mem => leaf g (List.mem_cons_of_mem _ mem)]
    rfl

/-- The blocks of tables say what their statements are. -/
theorem says_fieldBlocks (nested : Nested levels tables) {path : List String}
    (room : path.length + levels ≤ maxDepth) (bare : ∀ key ∈ path, isBare key = true)
    (named : ∀ f ∈ tables, isBare f.1 = true) :
    List.Forall₂ Says (fieldBlocks path tables) (fieldStatements path tables) := by
  induction nested generalizing path with
  | nil => exact .nil
  | @cons levels key leaves tables rest layout inside more ih_inside ih_more =>
    have bare_path : ∀ k ∈ path ++ [key], isBare k = true := by
      intro k mem
      rcases List.mem_append.mp mem with mem | mem
      · exact bare k mem
      · rw [List.mem_singleton.mp mem]
        exact named _ List.mem_cons_self
    have bare_leaves : ∀ f ∈ leaves, isBare f.1 = true :=
      fun f mem => layout.bare f (List.mem_append_left _ mem)
    have below : List.Forall₂ Says (fieldBlocks (path ++ [key]) tables)
        (fieldStatements (path ++ [key]) tables) :=
      ih_inside (by simp; omega) bare_path fun f mem => layout.bare f (List.mem_append_right _ mem)
    have beside := ih_more room bare fun f mem => named f (List.mem_cons_of_mem _ mem)
    have here : List.Forall₂ Says (tableBlocks (path ++ [key]) (.table (leaves ++ tables)))
        (tableStatements path key (.table (leaves ++ tables))) := by
      rw [tableBlocks, block, fieldBlocks_append layout.leaf]
      by_cases shown : leaves ≠ [] ∨ tables = []
      · have header : Says (headerLine (path ++ [key])) [.table path key] :=
          fun found rest => run_headerLine (by omega) bare_path
        rw [shown_of_named layout shown, tableStatements_named layout inside shown,
          keyLines_append inside]
        exact .cons (header.append (says_keyLines layout.leaf bare_leaves)) below
      · obtain ⟨rfl, deeper⟩ : leaves = [] ∧ tables ≠ [] := by simpa using shown
        rw [List.nil_append, inside.left_out deeper, tableStatements_passed inside deeper]
        exact below
    rw [fieldBlocks, fieldStatements]
    exact List.rel_append here beside

/-- A printed document says the statements of its fields. -/
theorem says_documentText (layout : Layout leaves tables) (nested : Nested maxDepth tables) :
    Says (documentText (leaves ++ tables)).toList
      ((leaves.map fun f => .assign [] f.1 f.2) ++ (fieldStatements [] tables).flatten) := by
  have lines := says_keyLines layout.leaf fun f mem => layout.bare f (List.mem_append_left _ mem)
  have blocks : List.Forall₂ Says (fieldBlocks [] tables) (fieldStatements [] tables) :=
    says_fieldBlocks nested (Nat.zero_add _).le nofun
      fun f mem => layout.bare f (List.mem_append_right _ mem)
  rw [documentText, String.toList_ofList, keyLines_append nested, fieldBlocks_append layout.leaf]
  by_cases top : (keyLines leaves).isEmpty = true
  · obtain rfl : leaves = [] := by
      cases leaves with
      | nil => rfl
      | cons f leaves =>
        rw [keyLines_cons (layout.leaf f List.mem_cons_self)] at top
        simp at top
    rw [if_pos top]
    exact says_intercalate blocks
  · rw [if_neg top]
    exact says_intercalate (.cons lines blocks)

end Blocks

/-- No line starts with a byte order mark. -/
theorem run_byteOrderMark (found : List Statement) (rest : List Char) :
    run ⟨.lineStart, found⟩ ('\ufeff' :: rest) = none := by
  rw [run_cons (token_word (by decide) rest)]
  rfl

/-- A document whose lines are statements reads as what they make. -/
theorem ofText?_of_says {text : List Char} {statements : List Statement}
    (h : Says text statements) : ofText? text = ofStatements? statements := by
  have whole := h [] []
  rw [List.append_nil, List.append_nil, run_nil] at whole
  have no_mark : ∀ rest, text ≠ '\ufeff' :: rest := by
    rintro rest rfl
    rw [run_byteOrderMark] at whole
    cases whole
  obtain ⟨tokens, cut, read⟩ := Option.bind_eq_some_iff.mp whole
  have found : statements? tokens = some statements := by
    rw [statements?, List.foldlM_append, read]
    change some statements.reverse.reverse = _
    rw [List.reverse_reverse]
  rw [ofText?, cut, Option.bind_some, found, Option.bind_some]
  exact no_mark

/-- A printed document reads back as it was. -/
theorem ofText?_documentText {leaves tables : List (String × Toml)}
    (layout : Layout leaves tables) (nested : Nested maxDepth tables) :
    ofText? (documentText (leaves ++ tables) ++ "\n").toList =
      some (.table (leaves ++ tables)) := by
  have said := (says_documentText layout nested).append says_emptyLine
  have distinct : (leaves.map Prod.fst ++ tables.map Prod.fst).Nodup := by
    rw [← List.map_append]
    exact layout.distinct
  have leaves_made := extend_leaves Focus.root leaves []
    (by simpa using (List.nodup_append.mp distinct).1)
  obtain ⟨nodes, latest, made, tables_made⟩ := makes_of_nested nested Focus.root
    (leaves.map fun f => (f.1, .leaf f.2)) (by simpa [Function.comp_def] using distinct) []
  have drawn : ((leaves.map fun f => Statement.assign [] f.1 f.2) ++
      (fieldStatements [] tables).flatten).foldlM Draft.extend ⟨[], []⟩ =
        some ⟨(leaves.map fun f => (f.1, .leaf f.2)) ++ nodes, latest⟩ := by
    rw [List.foldlM_append]
    exact (congrArg (Option.bind · _) leaves_made).trans tables_made
  rw [List.append_nil] at said
  rw [String.toList_append, show "\n".toList = ['\n'] from rfl, ofText?_of_says said, ofStatements?,
    drawn, Option.map_some, Fields.toToml, fieldsToToml_append, fieldsToToml_leaves, made]

end Mender.Toml
