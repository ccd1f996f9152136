import Mender.Proofs.Settings.Overlay

/-!
# Documents of overlays

Every overlay is said by a document that says nothing else. Settings are written as the document
of the overlay that says all of them, and so they read back from their text.
-/

namespace Mender

section Tables

open Toml

namespace Tools.Overlay

def leafSlots (o : Overlay) : List (String × Option Toml) :=
  [("dry_run_flag", o.dryRunFlag?.map .string)]

def tableSlots (o : Overlay) : List (String × Option Toml) :=
  [("rewriter", o.rewriter?.map fun tool => .table (ToolSpec.form.fields tool)),
   ("analyzer", o.analyzer?.map fun tool => .table (ToolSpec.form.fields tool)),
   ("tests", o.tests?.map fun tool => .table (ToolSpec.form.fields tool))]

def fields (o : Overlay) : List (String × Toml) := present (o.leafSlots ++ o.tableSlots)

theorem tells_fields (o : Overlay) : Tells o.fields (o.leafSlots ++ o.tableSlots) :=
  tells_present (by decide : ["dry_run_flag", "rewriter", "analyzer", "tests"].Nodup)

theorem saidBy_fields (o : Overlay) : o.SaidBy o.fields := by
  obtain ⟨leaves, tables⟩ := List.forall_mem_append.1 o.tells_fields
  simp only [tableSlots, List.forall_mem_cons] at tables
  obtain ⟨rewriter, analyzer, tests, -⟩ := tables
  constructor
  · exact rewriter ▸ tableSays_map o.rewriter? ToolSpec.form.saidBy_fields
  · exact analyzer ▸ tableSays_map o.analyzer? ToolSpec.form.saidBy_fields
  · exact tests ▸ tableSays_map o.tests? ToolSpec.form.saidBy_fields
  · exact leaves _ List.mem_cons_self

theorem sound_fields (o : Overlay) : sound o.fields = true := by
  obtain ⟨-, tables⟩ := List.forall_mem_append.1 o.tells_fields
  simp only [tableSlots, List.forall_mem_cons] at tables
  obtain ⟨rewriter, analyzer, tests, -⟩ := tables
  have rest : restSound ["rewriter", "analyzer", "tests", "dry_run_flag"] o.fields = true :=
    restSound_present (by decide : ["dry_run_flag", "rewriter", "analyzer", "tests"] ⊆ _)
  rw [sound, rest, rewriter, analyzer, tests, slotSound_map _ ToolSpec.form.sound_fields,
    slotSound_map _ ToolSpec.form.sound_fields, slotSound_map _ ToolSpec.form.sound_fields]
  rfl

theorem layout (o : Overlay) : Layout (present o.leafSlots) (present o.tableSlots) := by
  refine layout_present ["dry_run_flag", "rewriter", "analyzer", "tests"] rfl ?_ (by decide)
    (by decide)
  simp only [leafSlots, List.forall_mem_cons]
  exact ⟨leaf_map fun _ => rfl, List.forall_mem_nil _⟩

theorem nested (o : Overlay) {levels : Nat} : Nested (levels + 1) (present o.tableSlots) :=
  ToolSpec.form.nested (ToolSpec.form.nested (ToolSpec.form.nested .nil))

end Tools.Overlay

namespace Settings.Overlay

def tableSlots (o : Overlay) : List (String × Option Toml) :=
  [("tools", o.tools?.map fun tools => .table tools.fields),
   ("analyzer", o.analyzer?.map fun options => .table (AnalyzerOptions.form.fields options)),
   ("oracle", o.oracle?.map fun options => .table (OracleOptions.form.fields options)),
   ("language", o.language?.map fun language => .table (Language.form.fields language))]

def fields (o : Overlay) : List (String × Toml) := present (o.leafSlots ++ o.tableSlots)

/-- The document that says the overlay and nothing else. -/
def text (o : Overlay) : String := documentText o.fields ++ "\n"

theorem tells_fields (o : Overlay) : Tells o.fields (o.leafSlots ++ o.tableSlots) :=
  tells_present (by decide : Settings.slots.Nodup)

theorem saidBy_fields (o : Overlay) : o.SaidBy o.fields := by
  obtain ⟨leaves, tables⟩ := List.forall_mem_append.1 o.tells_fields
  simp only [tableSlots, List.forall_mem_cons] at tables
  obtain ⟨tools, analyzer, oracle, language, -⟩ := tables
  constructor
  · exact leaves
  · exact tools ▸ tableSays_map o.tools? Tools.Overlay.saidBy_fields
  · exact analyzer ▸ tableSays_map o.analyzer? AnalyzerOptions.form.saidBy_fields
  · exact oracle ▸ tableSays_map o.oracle? OracleOptions.form.saidBy_fields
  · exact language ▸ tableSays_map o.language? Language.form.saidBy_fields

theorem sound_fields (o : Overlay) : sound o.fields = true := by
  obtain ⟨-, tables⟩ := List.forall_mem_append.1 o.tells_fields
  simp only [tableSlots, List.forall_mem_cons] at tables
  obtain ⟨tools, analyzer, oracle, language, -⟩ := tables
  have rest : restSound slots o.fields = true := restSound_present (List.Subset.refl slots)
  rw [sound, rest, tools, analyzer, oracle, language, slotSound_map _ Tools.Overlay.sound_fields,
    slotSound_map _ AnalyzerOptions.form.sound_fields,
    slotSound_map _ OracleOptions.form.sound_fields, slotSound_map _ Language.form.sound_fields]
  rfl

theorem layout (o : Overlay) : Layout (present o.leafSlots) (present o.tableSlots) := by
  refine layout_present Settings.slots rfl ?_ (by decide) (by decide)
  simp only [leafSlots, List.forall_mem_cons]
  exact ⟨leaf_map fun _ => rfl, leaf_map fun _ => rfl, leaf_map fun _ => rfl,
    leaf_map fun _ => rfl, List.forall_mem_nil _⟩

theorem nested (o : Overlay) : Nested maxDepth (present o.tableSlots) := by
  have levels : Nested (78 + 2) (present o.tableSlots) :=
    .slot Tools.Overlay.layout (fun tools => tools.nested) (AnalyzerOptions.form.nested
      (OracleOptions.form.nested (Language.form.nested .nil)))
  exact levels

/-- The text of an overlay reads as its fields. -/
theorem ofText?_text (o : Overlay) : Toml.ofText? o.text.toList = some (.table o.fields) := by
  have read := ofText?_documentText o.layout o.nested
  rw [← present_append] at read
  exact read

end Settings.Overlay

end Tables

section Whole

/-- The overlay that says all of a tool. -/
def ToolSpec.overlay (s : ToolSpec) : Overlay := ⟨some s.binary, some s.args⟩

def Tools.overlay (t : Tools) : Overlay :=
  ⟨some t.rewriter.overlay, some t.analyzer.overlay, some t.tests.overlay, some t.dryRunFlag⟩

def AnalyzerOptions.overlay (a : AnalyzerOptions) : Overlay :=
  ⟨some a.level, some a.profile, some a.memoryLimit⟩

/-- What is not set is not said. -/
def OracleOptions.overlay (o : OracleOptions) : Overlay :=
  ⟨some o.model, some o.maxTokens, o.baseUrl?, some o.timeoutSecs⟩

def Language.overlay (l : Language) : Overlay :=
  ⟨some l.standard, some l.fenceTag, some l.prologue, some l.extension, some l.requirements⟩

namespace Settings

def overlay (s : Settings) : Overlay where
  maxIterations? := some s.maxIterations
  processTimeoutSecs? := some s.processTimeoutSecs
  outputLimitBytes? := some s.outputLimitBytes
  auditDir? := s.auditDir?
  tools? := some s.tools.overlay
  analyzer? := some s.analyzer.overlay
  oracle? := some s.oracle.overlay
  language? := some s.language.overlay

variable (s : Settings)

theorem fields_overlay : s.overlay.fields = s.fields := by
  obtain ⟨_, _, _, auditDir?, _, _, ⟨_, _, baseUrl?, _⟩, _⟩ := s
  cases auditDir? <;> cases baseUrl? <;> rfl

theorem text_overlay : s.overlay.text = s.text := by
  rw [Overlay.text, fields_overlay, text]

theorem onto?_overlay : s.overlay.onto? default = some s := by
  obtain ⟨_, _, _, auditDir?, _, _, ⟨_, _, baseUrl?, _⟩, _⟩ := s
  cases auditDir? <;> cases baseUrl? <;> rfl

/-- Settings read back from their text. -/
theorem ofText?_text : ofText? s.text = some s := by
  rw [ofText?, ← text_overlay, Overlay.ofText?_text, Option.bind_some,
    ofToml?_said s.overlay.saidBy_fields, s.overlay.sound_fields, if_pos rfl, onto?_overlay]

end Settings

end Whole

end Mender
