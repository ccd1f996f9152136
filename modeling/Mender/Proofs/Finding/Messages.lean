import Mender.Finding.AnalyzerReport
import Mender.Proofs.Json.Cut
import Mender.Proofs.Json.Fields
import Mender.Proofs.Text.ByteOrder

/-!
# Messages of a report

A report that is spelled as JSON, in whatever way, is read without loss: each message is one
finding, by the order of the files and then by that of the messages. Where a message does not
say something properly, only this one thing gets its default.
-/

namespace Mender.AnalyzerReport

open Json Text

/-- What a report says of one file. -/
structure FileEntry where
  name : String
  messages : List Json
  others : Surroundings "messages"

def FileEntry.toJson (entry : FileEntry) : Json := entry.others.object (.array entry.messages)

structure Report where
  files : List FileEntry
  others : Surroundings "files"
  distinct : (files.map (·.name)).Nodup

def Report.toJson (report : Report) : Json :=
  report.others.object (.record (fieldsOf (·.name) FileEntry.toJson report.files))

/-- The value is what the field of the message spells, and the default if the field spells
nothing of the kind or is not there. -/
structure FieldOr {α : Type} (message : Json) (key : String) (spell : α → Json)
    (default value : α) : Prop where
  of_field : ∀ a, IsField key message (spell a) → value = a
  of_other : (∀ a, ¬IsField key message (spell a)) → value = default

/-- The finding says of the file what the message says. -/
structure Tells (finding : Finding) (file : String) (message : Json) : Prop where
  kind_eq : finding.kind = .staticError
  file_eq : finding.file = file
  testName_eq : finding.testName = ""
  line_or : FieldOr message "line" (fun n : UInt32 => .nat n.toNat) 0 finding.line
  message_or : FieldOr message "message" .text "Unknown error" finding.message
  ignorable_or : FieldOr message "ignorable" .bool false finding.ignorable

/-- A field is looked up by a reading that takes just the spellings of a value. -/
theorem fieldOr_getD {α : Type} {message : Json} {key : String} {spell : α → Json}
    {read : Json → Option α} (reads : ∀ j a, read j = some a ↔ j = spell a) (default : α) :
    FieldOr message key spell default (((message.field? key).bind read).getD default) := by
  constructor
  · intro a isField
    rw [field?_eq_some_iff.mpr isField, Option.bind_some, (reads _ _).mpr rfl]
    rfl
  · intro other
    cases found : (message.field? key).bind read with
    | none => rfl
    | some a =>
      obtain ⟨j, field, meant⟩ := Option.bind_eq_some_iff.mp found
      rw [(reads j a).mp meant] at field
      exact absurd (field?_eq_some_iff.mp field) (other a)

/-- The line that a value names: a plain number of 32 bits. -/
def line? (j : Json) : Option UInt32 := (j.nat?.filter (· < UInt32.size)).map UInt32.ofNat

theorem line?_eq_some_iff {j : Json} {n : UInt32} : line? j = some n ↔ j = .nat n.toNat := by
  rw [← nat?_eq_some_iff, line?, Option.map_eq_some_iff]
  constructor
  · rintro ⟨m, small, rfl⟩
    obtain ⟨plain, small⟩ := Option.filter_eq_some_iff.mp small
    rw [plain, UInt32.toNat_ofNat_of_lt' (by simpa using small)]
  · intro plain
    refine ⟨n.toNat, Option.filter_eq_some_iff.mpr ⟨plain, ?_⟩, UInt32.ofNat_toNat⟩
    exact decide_eq_true n.toNat_lt

theorem finding_line (file : String) (message : Json) :
    (finding file message).line = ((message.field? "line").bind line?).getD 0 := by
  dsimp only [finding, Finding.staticError]
  cases message.field? "line" with
  | none => rfl
  | some j =>
    rw [Option.bind_some, Option.bind_some, line?]
    cases j.nat?.filter (· < UInt32.size) <;> rfl

theorem tells_finding (file : String) (message : Json) :
    Tells (finding file message) file message where
  kind_eq := rfl
  file_eq := rfl
  testName_eq := rfl
  line_or := by
    rw [finding_line]
    exact fieldOr_getD (fun _ _ => line?_eq_some_iff) 0
  message_or := fieldOr_getD (fun _ _ => text?_eq_some_iff) unknownError
  ignorable_or := fieldOr_getD (fun _ _ => bool?_eq_some_iff) false

theorem fileFindings_toJson (entry : FileEntry) :
    fileFindings entry.name entry.toJson = entry.messages.map (finding entry.name) := by
  rw [fileFindings, FileEntry.toJson, Surroundings.field?_object]
  rfl

/-- The findings of a report are those of its files in the order of their names. -/
theorem exists_findings_toJson (report : Report) :
    ∃ files : List FileEntry, files.Perm report.files ∧
      (files.Pairwise fun a b => a.name < b.name) ∧
      findings report.toJson = files.flatMap fun file => file.messages.map (finding file.name) := by
  obtain ⟨files, sorted, perm, ordered⟩ :=
    exists_sortedFields? FileEntry.toJson report.distinct
  refine ⟨files, perm, ordered, ?_⟩
  rw [findings, Report.toJson, Surroundings.field?_object, Option.bind_some, sorted,
    Option.getD_some, fieldsOf, List.flatMap_map]
  exact List.flatMap_congr fun file _ => fileFindings_toJson file

/-- The findings in any spelling of a report, with blanks around it. -/
theorem parse_surrounded {report : Json} {fields : List (Option String × Json)}
    {text before after : List Char} (object : report = .object fields)
    (spelled : Spells text report) (kept : report.isStorable = true)
    (blank_before : ∀ c ∈ before, isBlank c = true) (blank_after : ∀ c ∈ after, isBlank c = true) :
    parse (Utf8.encode (String.ofList (before ++ text ++ after))) = findings report := by
  subst object
  have read : stored? (trim (before ++ text ++ after)) = some (.object fields) := by
    rw [List.append_assoc, trim_blank_append blank_before, trim_append_blank blank_after, stored?,
      ofText?_trim (ofText?_of_spells spelled)]
    simpa using kept
  rw [parse, Utf8.decodeLossy_encode, String.toList_ofList, ofText, read]

/-- However a report is spelled and whatever blanks stand around it, its messages come back one
by one, those of a file together, the files in the order of the bytes of their names. -/
theorem parse_of_spelled (report : Report) {text before after : List Char}
    (spelled : Spells text report.toJson) (shallow : report.toJson.depth ≤ maxDepth)
    (sound : report.toJson.isSound = true) (blank_before : ∀ c ∈ before, isBlank c = true)
    (blank_after : ∀ c ∈ after, isBlank c = true) :
    ∃ files : List FileEntry, files.Perm report.files ∧
      (files.Pairwise fun a b => Utf8.encode a.name < Utf8.encode b.name) ∧
      List.Forall₂ (fun finding (said : String × Json) => Tells finding said.1 said.2)
        (parse (Utf8.encode (String.ofList (before ++ text ++ after))))
        (files.flatMap fun file => file.messages.map (file.name, ·)) := by
  obtain ⟨files, perm, ordered, flattened⟩ := exists_findings_toJson report
  refine ⟨files, perm, ordered.imp Utf8.encode_lt_encode_iff.mpr, ?_⟩
  have kept : report.toJson.isStorable = true := by
    rw [isStorable, sound, Bool.and_true]
    exact decide_eq_true shallow
  have parsed : parse (Utf8.encode (String.ofList (before ++ text ++ after))) =
      findings report.toJson := parse_surrounded rfl spelled kept blank_before blank_after
  have paired : findings report.toJson =
      (files.flatMap fun file => file.messages.map (file.name, ·)).map
        fun said => finding said.1 said.2 := by
    rw [flattened, List.map_flatMap]
    simp only [List.map_map]
    rfl
  rw [parsed, paired, List.forall₂_map_left_iff, List.forall₂_same]
  exact fun said _ => tells_finding said.1 said.2

/-- Two files out of order: one with a complete message and a message that is no object, the
other with a message whose line is negative. -/
def mixedReport : Report where
  files :=
    [⟨"é", [.record [("line", .nat 3), ("message", .text "ab"), ("ignorable", .bool true)], .null],
      ⟨[], [], nofun⟩⟩,
     ⟨"b", [.record [("line", .int (-1))]], ⟨[], [("errors", .nat 1)], by decide⟩⟩]
  others := ⟨[("totals", .array [])], [], nofun⟩
  distinct := by decide

def mixedText : String :=
  "\x7b\"totals\":[],\"files\":\x7b\"é\":\x7b\"messages\": [\x7b\"line\":3," ++
    "\"message\":\"a\\u0062\", \"ignorable\":true\x7d,null]\x7d,\n\"b\":\x7b\"messages\":" ++
    "[\x7b\"line\":-1\x7d],\"errors\":1\x7d\x7d\x7d"

theorem parse_of_spelled_mixed :
    Spells mixedText.toList mixedReport.toJson ∧
      (parse (Utf8.encode (String.ofList (['\u3000'] ++ mixedText.toList ++ ['\n'])))).length = 3 ∧
      ∃ files : List FileEntry, files.Perm mixedReport.files ∧
        (files.Pairwise fun a b => Utf8.encode a.name < Utf8.encode b.name) ∧
        List.Forall₂ (fun finding (said : String × Json) => Tells finding said.1 said.2)
          (parse (Utf8.encode (String.ofList (['\u3000'] ++ mixedText.toList ++ ['\n']))))
          (files.flatMap fun file => file.messages.map (file.name, ·)) := by
  have spelled : Spells mixedText.toList mixedReport.toJson := by
    rw [← ofText?_eq_some_iff]
    cbv
  have told := @parse_of_spelled mixedReport mixedText.toList ['\u3000'] ['\n'] spelled
    (by decide) (by decide +kernel) (List.forall_mem_singleton.mpr (by decide))
    (List.forall_mem_singleton.mpr (by decide))
  refine ⟨spelled, ?_, told⟩
  obtain ⟨files, perm, -, told⟩ := told
  rw [told.length_eq, (perm.flatMap_right _).length_eq]
  rfl

end Mender.AnalyzerReport
