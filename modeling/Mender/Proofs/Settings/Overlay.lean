import Mender.Proofs.Toml.Form
import Mender.Settings.Record

/-!
# Overlays

An overlay is what a document says of settings, of their tools or of one of their other parts;
what the document leaves out is `none` in it. A document is read as its overlay put over the
defaults: `Settings.ofToml?_said`. What it holds under other names is only looked at for numbers
that no machine type holds, and these spoil it.
-/

namespace Mender

namespace ToolSpec

structure Overlay where
  binary? : Option String
  args? : Option (List String)

def form : Toml.Form Overlay where
  names := ["binary", "args"]
  slots o :=
    [("binary", o.binary?.map .string),
     ("args", o.args?.map fun args => .array (args.map .string))]
  named _ := rfl
  leaf o := by
    simp only [List.forall_mem_cons]
    exact ⟨Toml.leaf_map fun _ => rfl, Toml.leaf_map Toml.isLeaf_texts, List.forall_mem_nil _⟩
  bare := by decide
  distinct := by decide

/-- A tool that is named needs a binary, and has no arguments but those it is named with. -/
def Overlay.spec? (o : Overlay) : Option ToolSpec :=
  o.binary?.map fun binary => ⟨binary, o.args?.getD []⟩

theorem Overlay.elim_spec?_eq_none_iff (tool? : Option Overlay) (base : ToolSpec) :
    tool?.elim (some base) spec? = none ↔ (tool?.any (·.binary?.isNone)) = true := by
  cases tool? with
  | none => simp
  | some tool => simp [spec?]

theorem ofToml?_said (o : Overlay) (fields : List (String × Toml)) (h : form.SaidBy o fields) :
    ofToml? (.table fields) = if form.sound fields then o.spec? else none := by
  have slots : (Toml.table fields).slots? ["binary", "args"] = _ := Toml.Form.slots?_of_saidBy h
  rw [ofToml?, slots]
  split
  · cases binary : o.binary? with
    | none => simp [form, Overlay.spec?, binary]
    | some binary =>
      simp [form, Overlay.spec?, binary, Toml.text?, Toml.slotOr_map Toml.texts?_map]
  · rfl

theorem slotOr_said {base : ToolSpec} {overlay? : Option Overlay} {slot : Option Toml}
    (h : Toml.TableSays form.SaidBy overlay? slot) :
    Toml.slotOr base ofToml? slot =
      if Toml.slotSound form.sound slot then overlay?.elim (some base) (·.spec?) else none :=
  Toml.slotOr_table ofToml?_said h

end ToolSpec

namespace Tools

structure Overlay where
  rewriter? : Option ToolSpec.Overlay
  analyzer? : Option ToolSpec.Overlay
  tests? : Option ToolSpec.Overlay
  dryRunFlag? : Option String

namespace Overlay

structure SaidBy (o : Overlay) (fields : List (String × Toml)) : Prop where
  rewriter : Toml.TableSays ToolSpec.form.SaidBy o.rewriter? (fields.lookup "rewriter")
  analyzer : Toml.TableSays ToolSpec.form.SaidBy o.analyzer? (fields.lookup "analyzer")
  tests : Toml.TableSays ToolSpec.form.SaidBy o.tests? (fields.lookup "tests")
  dryRunFlag : fields.lookup "dry_run_flag" = o.dryRunFlag?.map .string

/-- The tools of the overlay, and those of `base` where it names none. -/
def onto? (o : Overlay) (base : Tools) : Option Tools := do
  return {
    rewriter := ← o.rewriter?.elim (some base.rewriter) (·.spec?)
    analyzer := ← o.analyzer?.elim (some base.analyzer) (·.spec?)
    tests := ← o.tests?.elim (some base.tests) (·.spec?)
    dryRunFlag := o.dryRunFlag?.getD base.dryRunFlag }

/-- Whether a tool is named without a binary. -/
def lacksBinary (o : Overlay) : Bool :=
  [o.rewriter?, o.analyzer?, o.tests?].any fun tool => tool.any (·.binary?.isNone)

theorem onto?_eq_none_iff (o : Overlay) (base : Tools) :
    o.onto? base = none ↔ o.lacksBinary = true := by
  simp only [lacksBinary, List.any_cons, List.any_nil, Bool.or_false, Bool.or_eq_true]
  rw [← ToolSpec.Overlay.elim_spec?_eq_none_iff o.rewriter? base.rewriter,
    ← ToolSpec.Overlay.elim_spec?_eq_none_iff o.analyzer? base.analyzer,
    ← ToolSpec.Overlay.elim_spec?_eq_none_iff o.tests? base.tests, onto?]
  cases o.rewriter?.elim (some base.rewriter) ToolSpec.Overlay.spec? with
  | none => simp
  | some rewriter =>
    cases o.analyzer?.elim (some base.analyzer) ToolSpec.Overlay.spec? with
    | none => simp
    | some analyzer =>
      cases o.tests?.elim (some base.tests) ToolSpec.Overlay.spec? <;> simp

end Overlay

/-- Whether all numbers of unknown slots are sound, those of the tools among them. -/
def sound (fields : List (String × Toml)) : Bool :=
  Toml.restSound ["rewriter", "analyzer", "tests", "dry_run_flag"] fields &&
    Toml.slotSound ToolSpec.form.sound (fields.lookup "rewriter") &&
    Toml.slotSound ToolSpec.form.sound (fields.lookup "analyzer") &&
    Toml.slotSound ToolSpec.form.sound (fields.lookup "tests")

theorem ofToml?_said (o : Overlay) (fields : List (String × Toml)) (h : o.SaidBy fields) :
    ofToml? (.table fields) = if sound fields then o.onto? default else none := by
  have tells : Toml.Tells fields [("rewriter", fields.lookup "rewriter"),
      ("analyzer", fields.lookup "analyzer"), ("tests", fields.lookup "tests"),
      ("dry_run_flag", o.dryRunFlag?.map .string)] := by
    simp [Toml.Tells, h.dryRunFlag]
  rw [ofToml?, Toml.slots?_of_tells ["rewriter", "analyzer", "tests", "dry_run_flag"] tells rfl,
    sound]
  simp only [List.map_cons, List.map_nil]
  by_cases rest : Toml.restSound ["rewriter", "analyzer", "tests", "dry_run_flag"] fields = true
  · simp only [rest, if_true, Bool.true_and, Option.bind_eq_bind, Option.bind_some]
    rw [ToolSpec.slotOr_said h.rewriter, ToolSpec.slotOr_said h.analyzer,
      ToolSpec.slotOr_said h.tests, Toml.slotOr_map Toml.text?_string]
    cases Toml.slotSound ToolSpec.form.sound (fields.lookup "rewriter") <;>
      cases Toml.slotSound ToolSpec.form.sound (fields.lookup "analyzer") <;>
        cases Toml.slotSound ToolSpec.form.sound (fields.lookup "tests") <;> simp [Overlay.onto?]
  · simp [rest]

end Tools

namespace AnalyzerOptions

structure Overlay where
  level? : Option UInt32
  profile? : Option String
  memoryLimit? : Option String

def form : Toml.Form Overlay where
  names := ["level", "profile", "memory_limit"]
  slots o :=
    [("level", o.level?.map fun n => .integer n.toNat), ("profile", o.profile?.map .string),
     ("memory_limit", o.memoryLimit?.map .string)]
  named _ := rfl
  leaf o := by
    simp only [List.forall_mem_cons]
    exact ⟨Toml.leaf_map fun _ => rfl, Toml.leaf_map fun _ => rfl, Toml.leaf_map fun _ => rfl,
      List.forall_mem_nil _⟩
  bare := by decide
  distinct := by decide

def Overlay.onto (o : Overlay) (base : AnalyzerOptions) : AnalyzerOptions where
  level := o.level?.getD base.level
  profile := o.profile?.getD base.profile
  memoryLimit := o.memoryLimit?.getD base.memoryLimit

theorem ofToml?_said (o : Overlay) (fields : List (String × Toml)) (h : form.SaidBy o fields) :
    ofToml? (.table fields) = if form.sound fields then some (o.onto default) else none := by
  have slots : (Toml.table fields).slots? ["level", "profile", "memory_limit"] = _ :=
    Toml.Form.slots?_of_saidBy h
  rw [ofToml?, slots]
  split
  · simp [form, Overlay.onto, Toml.slotOr_map Toml.uint32?_toNat, Toml.slotOr_map Toml.text?_string]
  · rfl

end AnalyzerOptions

namespace OracleOptions

structure Overlay where
  model? : Option String
  maxTokens? : Option UInt32
  baseUrl? : Option String
  timeoutSecs? : Option UInt64

def form : Toml.Form Overlay where
  names := ["model", "max_tokens", "base_url", "timeout_secs"]
  slots o :=
    [("model", o.model?.map .string), ("max_tokens", o.maxTokens?.map fun n => .integer n.toNat),
     ("base_url", o.baseUrl?.map .string),
     ("timeout_secs", o.timeoutSecs?.map fun n => .integer n.toNat)]
  named _ := rfl
  leaf o := by
    simp only [List.forall_mem_cons]
    exact ⟨Toml.leaf_map fun _ => rfl, Toml.leaf_map fun _ => rfl,
      Toml.leaf_map fun _ => rfl, Toml.leaf_map fun _ => rfl, List.forall_mem_nil _⟩
  bare := by decide
  distinct := by decide

def Overlay.onto (o : Overlay) (base : OracleOptions) : OracleOptions where
  model := o.model?.getD base.model
  maxTokens := o.maxTokens?.getD base.maxTokens
  baseUrl? := o.baseUrl?.or base.baseUrl?
  timeoutSecs := o.timeoutSecs?.getD base.timeoutSecs

theorem ofToml?_said (o : Overlay) (fields : List (String × Toml)) (h : form.SaidBy o fields) :
    ofToml? (.table fields) = if form.sound fields then some (o.onto default) else none := by
  have unset : default.baseUrl? = none := rfl
  have slots : (Toml.table fields).slots? ["model", "max_tokens", "base_url", "timeout_secs"] = _ :=
    Toml.Form.slots?_of_saidBy h
  rw [ofToml?, slots]
  split
  · simp [form, Overlay.onto, unset, Toml.slotOr_map Toml.uint32?_toNat,
      Toml.slotOr_map Toml.uint64?_toNat, Toml.slotOr_map Toml.text?_string, Toml.slotOr_text]
  · rfl

end OracleOptions

namespace Language

structure Overlay where
  standard? : Option String
  fenceTag? : Option String
  prologue? : Option String
  extension? : Option String
  requirements? : Option (List String)

def form : Toml.Form Overlay where
  names := ["standard", "fence_tag", "prologue", "extension", "requirements"]
  slots o :=
    [("standard", o.standard?.map .string), ("fence_tag", o.fenceTag?.map .string),
     ("prologue", o.prologue?.map .string), ("extension", o.extension?.map .string),
     ("requirements", o.requirements?.map fun texts => .array (texts.map .string))]
  named _ := rfl
  leaf o := by
    simp only [List.forall_mem_cons]
    exact ⟨Toml.leaf_map fun _ => rfl, Toml.leaf_map fun _ => rfl,
      Toml.leaf_map fun _ => rfl, Toml.leaf_map fun _ => rfl,
      Toml.leaf_map Toml.isLeaf_texts, List.forall_mem_nil _⟩
  bare := by decide
  distinct := by decide

def Overlay.onto (o : Overlay) (base : Language) : Language where
  standard := o.standard?.getD base.standard
  fenceTag := o.fenceTag?.getD base.fenceTag
  prologue := o.prologue?.getD base.prologue
  extension := o.extension?.getD base.extension
  requirements := o.requirements?.getD base.requirements

theorem ofToml?_said (o : Overlay) (fields : List (String × Toml)) (h : form.SaidBy o fields) :
    ofToml? (.table fields) = if form.sound fields then some (o.onto default) else none := by
  have slots : (Toml.table fields).slots?
      ["standard", "fence_tag", "prologue", "extension", "requirements"] = _ :=
    Toml.Form.slots?_of_saidBy h
  rw [ofToml?, slots]
  split
  · simp [form, Overlay.onto, Toml.slotOr_map Toml.text?_string, Toml.slotOr_map Toml.texts?_map]
  · rfl

end Language

namespace Settings

structure Overlay where
  maxIterations? : Option UInt32
  processTimeoutSecs? : Option UInt64
  outputLimitBytes? : Option UInt64
  auditDir? : Option String
  tools? : Option Tools.Overlay
  analyzer? : Option AnalyzerOptions.Overlay
  oracle? : Option OracleOptions.Overlay
  language? : Option Language.Overlay

namespace Overlay

/-- The slots that are no tables. -/
def leafSlots (o : Overlay) : List (String × Option Toml) :=
  [("max_iterations", o.maxIterations?.map fun n => .integer n.toNat),
   ("process_timeout_secs", o.processTimeoutSecs?.map fun n => .integer n.toNat),
   ("output_limit_bytes", o.outputLimitBytes?.map fun n => .integer n.toNat),
   ("audit_dir", o.auditDir?.map .string)]

structure SaidBy (o : Overlay) (fields : List (String × Toml)) : Prop where
  leaves : Toml.Tells fields o.leafSlots
  tools : Toml.TableSays Tools.Overlay.SaidBy o.tools? (fields.lookup "tools")
  analyzer : Toml.TableSays AnalyzerOptions.form.SaidBy o.analyzer? (fields.lookup "analyzer")
  oracle : Toml.TableSays OracleOptions.form.SaidBy o.oracle? (fields.lookup "oracle")
  language : Toml.TableSays Language.form.SaidBy o.language? (fields.lookup "language")

/-- What the overlay says, and `base` where it says nothing. -/
def onto? (o : Overlay) (base : Settings) : Option Settings := do
  return {
    maxIterations := o.maxIterations?.getD base.maxIterations
    processTimeoutSecs := o.processTimeoutSecs?.getD base.processTimeoutSecs
    outputLimitBytes := o.outputLimitBytes?.getD base.outputLimitBytes
    auditDir? := o.auditDir?.or base.auditDir?
    tools := ← o.tools?.elim (some base.tools) (·.onto? base.tools)
    analyzer := o.analyzer?.elim base.analyzer (·.onto base.analyzer)
    oracle := o.oracle?.elim base.oracle (·.onto base.oracle)
    language := o.language?.elim base.language (·.onto base.language) }

def lacksBinary (o : Overlay) : Bool := o.tools?.any (·.lacksBinary)

theorem onto?_eq_none_iff (o : Overlay) (base : Settings) :
    o.onto? base = none ↔ o.lacksBinary = true := by
  cases tools : o.tools? with
  | none => simp [onto?, lacksBinary, tools]
  | some named =>
    rw [lacksBinary, tools, Option.any_some, ← named.onto?_eq_none_iff base.tools, onto?, tools]
    simp only [Option.elim_some]
    cases named.onto? base.tools <;> simp

end Overlay

/-- Whether all numbers of unknown slots are sound, those of every table that is read among
them. -/
def sound (fields : List (String × Toml)) : Bool :=
  Toml.restSound slots fields && Toml.slotSound Tools.sound (fields.lookup "tools") &&
    Toml.slotSound AnalyzerOptions.form.sound (fields.lookup "analyzer") &&
    Toml.slotSound OracleOptions.form.sound (fields.lookup "oracle") &&
    Toml.slotSound Language.form.sound (fields.lookup "language")

theorem ofToml?_said {o : Overlay} {fields : List (String × Toml)} (h : o.SaidBy fields) :
    ofToml? (.table fields) = if sound fields then o.onto? default else none := by
  have tells : Toml.Tells fields (o.leafSlots ++ [("tools", fields.lookup "tools"),
      ("analyzer", fields.lookup "analyzer"), ("oracle", fields.lookup "oracle"),
      ("language", fields.lookup "language")]) := by
    refine List.forall_mem_append.2 ⟨h.leaves, ?_⟩
    simp
  have unset : default.auditDir? = none := rfl
  rw [ofToml?, Toml.slots?_of_tells slots tells rfl, sound]
  by_cases rest : Toml.restSound slots fields = true
  · simp only [rest, if_true, Bool.true_and, Option.bind_eq_bind, Option.bind_some,
      Overlay.leafSlots, List.map_cons, List.map_nil, List.cons_append, List.nil_append]
    rw [Toml.slotOr_table Tools.ofToml?_said h.tools,
      Toml.slotOr_table AnalyzerOptions.ofToml?_said h.analyzer,
      Toml.slotOr_table OracleOptions.ofToml?_said h.oracle,
      Toml.slotOr_table Language.ofToml?_said h.language, Toml.slotOr_map Toml.uint32?_toNat,
      Toml.slotOr_map Toml.uint64?_toNat, Toml.slotOr_map Toml.uint64?_toNat, Toml.slotOr_text]
    cases Toml.slotSound Tools.sound (fields.lookup "tools") with
    | false => simp
    | true =>
      cases Toml.slotSound AnalyzerOptions.form.sound (fields.lookup "analyzer") with
      | false => simp
      | true =>
        cases Toml.slotSound OracleOptions.form.sound (fields.lookup "oracle") with
        | false => simp
        | true =>
          cases Toml.slotSound Language.form.sound (fields.lookup "language") with
          | false => simp
          | true =>
            simp only [if_true, Bool.and_self, Option.bind_some, Toml.elim_some, Overlay.onto?,
              Option.bind_eq_bind, unset, Option.or_none]
            rfl
  · simp [rest]

end Settings

end Mender
