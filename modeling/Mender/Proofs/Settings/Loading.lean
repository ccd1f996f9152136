import Mender.Proofs.Settings.RoundTrip

/-!
# Settings that are said in part

Loading a document puts its overlay over the defaults, and refuses what no run can use.
-/

namespace Mender

namespace Settings

open scoped Mender.Path

variable {o : Overlay} {s : Settings} {disk : Disk} {path : Path} {text : String}
  {fields : List (String × Toml)}

/-- The failure of a load that cannot make sense of the text of the document. -/
def unreadable (path : Path) (text : String) : Failure :=
  (Failure.ofCause (.malformed .settings text)).within ("parse " ++ path.shown)

/-- The text at a path is that of a document that says the overlay; `fields` is all that the
document holds. -/
structure Overlay.At (o : Overlay) (disk : Disk) (path : Path) (text : String)
    (fields : List (String × Toml)) : Prop where
  holds : disk.readText path = .ok text
  reads : Toml.ofText? text.toList = some (.table fields)
  said : o.SaidBy fields

/-- A document is loaded as its overlay put onto the defaults. -/
theorem load_of_at (h : o.At disk path text fields) :
    load disk path =
      match if sound fields then o.onto? default else none with
      | none => .error (unreadable path text)
      | some s => s.validate.map fun _ => s := by
  rw [load_eq h.holds, ofText?, h.reads, Option.bind_some, ofToml?_said h.said]
  rfl

/-- A sound document is loaded as the settings that its overlay makes, if they are valid. -/
theorem load_of_onto? (h : o.At disk path text fields) (kept : sound fields = true)
    (made : o.onto? default = some s) : load disk path = s.validate.map fun _ => s := by
  have loaded := load_of_at h
  rw [kept, if_pos rfl, made] at loaded
  exact loaded

theorem load_unreadable (h : o.At disk path text fields)
    (spoiled : sound fields = false ∨ o.lacksBinary = true) :
    load disk path = .error (unreadable path text) := by
  have nothing : (if sound fields then o.onto? default else none) = none := by
    rcases spoiled with unsound | lacks
    · simp [unsound]
    · simp [(o.onto?_eq_none_iff default).2 lacks]
  rw [load_of_at h, nothing]

theorem load_of_malformed (holds : disk.readText path = .ok text)
    (malformed : Toml.ofText? text.toList = none) :
    load disk path = .error (unreadable path text) := by
  rw [load_eq holds, ofText?, malformed]
  rfl

theorem Overlay.exists_onto? (named : o.lacksBinary = false) :
    ∃ s, o.onto? default = some s := by
  refine Option.ne_none_iff_exists'.1 fun nothing => ?_
  rw [(o.onto?_eq_none_iff default).1 nothing] at named
  cases named

/-- Loading a document gives the defaults with what the document says put over them, if the
settings that this makes are valid. What the document holds beside that never counts, but for a
number that no machine type holds: of two sound documents that say the same, both are loaded
alike, or both are refused for a tool without a binary. -/
theorem load_overlay (o : Overlay) :
    (o.lacksBinary = false → ∃ s, o.onto? default = some s) ∧
      (∀ disk path, disk.readText path = .ok o.text →
        o.At disk path o.text o.fields ∧ sound o.fields = true) ∧
      (∀ disk path text, disk.readText path = .ok text → Toml.ofText? text.toList = none →
        load disk path = .error (unreadable path text)) ∧
      (∀ disk path text fields, o.At disk path text fields →
        (o.lacksBinary = true → load disk path = .error (unreadable path text)) ∧
          (sound fields = false → load disk path = .error (unreadable path text)) ∧
          (sound fields = true → ∀ s, o.onto? default = some s →
            (s.validate = .ok () → load disk path = .ok s) ∧
              ∀ failure, s.validate = .error failure → load disk path = .error failure)) ∧
      ∀ disk disk' path path' text text' fields fields', o.At disk path text fields →
        o.At disk' path' text' fields' → sound fields = true → sound fields' = true →
          (o.lacksBinary = false ∧ load disk path = load disk' path') ∨
            (o.lacksBinary = true ∧ load disk path = .error (unreadable path text) ∧
              load disk' path' = .error (unreadable path' text')) := by
  refine ⟨Overlay.exists_onto?, fun disk path holds => ?_, fun _ _ _ => load_of_malformed,
    fun disk path text fields h => ?_,
    fun disk disk' path path' text text' fields fields' h h' kept kept' => ?_⟩
  · exact ⟨⟨holds, o.ofText?_text, o.saidBy_fields⟩, o.sound_fields⟩
  · refine ⟨fun lacks => load_unreadable h (.inr lacks),
      fun unsound => load_unreadable h (.inl unsound), fun kept s made => ?_⟩
    have loaded := load_of_onto? h kept made
    refine ⟨fun valid => ?_, fun failure refused => ?_⟩
    · rw [valid] at loaded
      exact loaded
    · rw [refused] at loaded
      exact loaded
  · cases lacks : o.lacksBinary with
    | false =>
      obtain ⟨s, made⟩ := Overlay.exists_onto? lacks
      exact .inl ⟨rfl, (load_of_onto? h kept made).trans (load_of_onto? h' kept' made).symm⟩
    | true => exact .inr ⟨rfl, load_unreadable h (.inr lacks), load_unreadable h' (.inr lacks)⟩

/-- Infinities are held by a machine type. -/
example : sound [("k", .unbounded ['i', 'n', 'f'])] = true := rfl

/-- The overlay of a document without a known key. -/
def Overlay.empty : Overlay := ⟨none, none, none, none, none, none, none, none⟩

def Overlay.testsNamed : Overlay :=
  { Overlay.empty with
    tools? := some ⟨none, none, some ⟨some "x", none⟩, none⟩
    oracle? := some ⟨some "m", none, none, none⟩ }

def testsNamedText : String :=
  "junk = 1\n[tools.tests]\nbinary = 'x'\n[oracle]\nmodel = 'm'\nmore = 2.5\n"

/-- A document with unknown keys beside its tables and in one of them. -/
theorem load_overlay_testsNamed :
    Overlay.testsNamed.lacksBinary = false ∧
      load (diskOf testsNamedText) "/c" =
        .ok { default with
          tools := { Tools.default with tests := ⟨"x", []⟩ }
          oracle := { OracleOptions.default with model := "m" } } := by
  let fields : List (String × Toml) :=
    [("junk", .integer 1), ("tools", .table [("tests", .table [("binary", .string "x")])]),
     ("oracle", .table [("model", .string "m"), ("more", .float ⟨false, 2, ['5'], none⟩)])]
  have read : Toml.ofText? testsNamedText.toList = some (.table fields) := by cbv
  have said : Overlay.testsNamed.SaidBy fields := by
    constructor
    · simp [Toml.Tells, Overlay.leafSlots, Overlay.testsNamed, Overlay.empty, fields, List.lookup]
    · refine .present ⟨.absent, .absent, .present ?_, rfl⟩
      simp [Toml.Form.SaidBy, Toml.Tells, ToolSpec.form, List.lookup]
    · exact .absent
    · refine .present ?_
      simp [Toml.Form.SaidBy, Toml.Tells, OracleOptions.form, List.lookup]
    · exact .absent
  have at_path : Overlay.testsNamed.At (diskOf testsNamedText) "/c" testsNamedText fields :=
    ⟨readText_diskOf _, read, said⟩
  obtain ⟨-, -, -, loaded, -⟩ := load_overlay Overlay.testsNamed
  obtain ⟨-, -, loaded⟩ := loaded _ _ _ _ at_path
  have kept : sound fields = true := by decide +kernel
  exact ⟨rfl, (loaded kept _ rfl).1 rfl⟩

/-- A known key, and unknown ones that lead one level too deep. -/
def deepKeys : List Char :=
  "max_iterations = 3\n".toList ++ (List.replicate 80 ['k', '.']).flatten ++ "k = 1\n".toList

set_option maxRecDepth 10000 in
theorem ofText?_deepKeys : Toml.ofText? (String.ofList deepKeys).toList = none := by
  rw [String.toList_ofList]
  cbv

/-- An unknown key spoils a document with a number that is too large, and where it lies too deep. -/
theorem load_spoiled :
    Overlay.empty.onto? default = some default ∧ default.validate = .ok () ∧
      load (diskOf "junk = 1e400\n") "/c" = .error (unreadable "/c" "junk = 1e400\n") ∧
      (∃ s, { Overlay.empty with maxIterations? := some 3 }.onto? default = some s ∧
        s.validate = .ok ()) ∧
      load (diskOf (String.ofList deepKeys)) "/c" =
        .error (unreadable "/c" (String.ofList deepKeys)) := by
  refine ⟨rfl, rfl, ?_, ⟨_, rfl, rfl⟩, ?_⟩
  · let fields : List (String × Toml) := [("junk", .float ⟨false, 1, [], some 400⟩)]
    have read : Toml.ofText? "junk = 1e400\n".toList = some (.table fields) := by cbv
    have said : Overlay.empty.SaidBy fields := by
      refine ⟨?_, .absent, .absent, .absent, .absent⟩
      simp [Toml.Tells, Overlay.leafSlots, Overlay.empty, fields, List.lookup]
    have unsound : sound fields = false := by decide +kernel
    exact load_unreadable ⟨readText_diskOf _, read, said⟩ (.inl unsound)
  · exact load_of_malformed (readText_diskOf _) ofText?_deepKeys

end Settings

end Mender
