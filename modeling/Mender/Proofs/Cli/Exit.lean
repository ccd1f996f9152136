import Mender.Cli
import Mender.Proofs.Batch.Accounts
import Mender.Proofs.Repair.Trail

/-!
# Exits and answers

The exit of a command says three times how it went: by its code, in the record that it
prints and in the list of what was done. `Exit.TellsRun` and `Exit.TellsBatch` say how the
three go together, whatever the answer is. A summary with a path that is no text has no record,
and then only the code tells.
-/

namespace Mender

/-- The last pass of a run found nothing. -/
def Outcome.Clean (outcome : Outcome) : Prop :=
  ∃ last, outcome.history.getLast? = some last ∧ last.staticErrors = 0 ∧ last.testFailures = 0

theorem ItemResult.isWritable_of_toJson? {result : ItemResult} {millis : UInt64} {record : Json}
    (h : result.toJson? millis = some record) : record.isWritable = true := by
  obtain ⟨path, -, rfl⟩ := Option.map_eq_some_iff.mp h
  cases error : result.error? <;>
    simp [Json.record, Json.isWritable, Json.fieldsWritable, Json.text, Json.nat, Json.int,
      Numeral.ofNat, Numeral.ofInt]

/-- Results are told one after another, if each of them can be. -/
theorem ItemResult.records_cons (times : Nat → UInt64) (n : Nat) (result : ItemResult)
    (results : List ItemResult) :
    (((result :: results).zipIdx n).mapM fun (result, i) => toJson? result (times i)) =
      (result.toJson? (times n)).bind fun record =>
        ((results.zipIdx (n + 1)).mapM fun (result, i) => toJson? result (times i)).map
          (record :: ·) := by
  rw [List.zipIdx_cons, List.mapM_cons]
  dsimp only
  cases result.toJson? (times n) with
  | none => rfl
  | some record =>
    cases (results.zipIdx (n + 1)).mapM fun (result, i) => toJson? result (times i) <;> rfl

/-- A list of results has records if the path of each of them is a text. -/
theorem ItemResult.exists_records (times : Nat → UInt64) {results : List ItemResult}
    (shown : ∀ result ∈ results, result.path.text? ≠ none) (n : Nat) :
    ∃ records, ((results.zipIdx n).mapM fun (result, i) => result.toJson? (times i)) =
      some records ∧ Json.itemsWritable records = true := by
  induction results generalizing n with
  | nil => exact ⟨[], rfl, rfl⟩
  | cons result results ih =>
    obtain ⟨path, text⟩ := Option.ne_none_iff_exists'.mp (shown result List.mem_cons_self)
    have here : ∃ record, result.toJson? (times n) = some record := by
      simp only [toJson?, text, Option.map_some, Option.some.injEq, exists_eq']
    obtain ⟨record, here⟩ := here
    obtain ⟨records, later, writable⟩ :=
      ih (fun other mem => shown other (List.mem_cons_of_mem _ mem)) (n + 1)
    refine ⟨record :: records, ?_, ?_⟩
    · rw [records_cons, here, later]
      rfl
    · rw [Json.itemsWritable, isWritable_of_toJson? here, writable]
      rfl

/-- A result without a record keeps all of them from being told. -/
theorem ItemResult.no_records (times : Nat → UInt64) {results : List ItemResult}
    (unshown : ∃ result ∈ results, result.path.text? = none) (n : Nat) :
    ((results.zipIdx n).mapM fun (result, i) => result.toJson? (times i)) = none := by
  obtain ⟨odd, mem, unshown⟩ := unshown
  induction results generalizing n with
  | nil => cases mem
  | cons result results ih =>
    rw [records_cons, Option.bind_eq_none_iff]
    intro record told
    rcases List.mem_cons.mp mem with rfl | mem
    · simp only [toJson?, unshown, Option.map_none, reduceCtorEq] at told
    · rw [ih (n + 1) mem]
      rfl

/-- A summary has a record if the path of each result is a text. -/
theorem Batch.Summary.exists_record {summary : Summary} (times : Times)
    (shown : ∀ result ∈ summary.results, result.path.text? ≠ none) :
    ∃ fields, summary.toJson? times = some (.object fields) ∧
      (Json.object fields).isWritable = true ∧
      (Json.object fields).field? "failure_count" = some (.nat summary.failures) := by
  obtain ⟨records, told, writable⟩ := ItemResult.exists_records times.item shown 0
  rw [toJson?, told]
  refine ⟨_, rfl, ?_, ?_⟩
  · simp [Json.isWritable, Json.fieldsWritable, Json.nat, Numeral.ofNat, writable]
  · simp [Json.field?]

theorem Batch.Summary.no_record {summary : Summary} (times : Times)
    (unshown : ∃ result ∈ summary.results, result.path.text? = none) :
    summary.toJson? times = none := by
  rw [toJson?, ItemResult.no_records times.item unshown 0]
  rfl

namespace Cli

theorem isWritable_failureRecord (message : String) :
    (failureRecord message).isWritable = true := by
  simp [failureRecord, Json.record, Json.isWritable, Json.fieldsWritable, Json.text]

namespace Exit

/-- What the exit of a run tells about its answer. -/
structure TellsRun (exit : Exit) (wording : Wording) (format : Format)
    (answer : Except Failure Outcome) : Prop where
  clean_iff : exit.code = 0 ↔ ∃ outcome, answer = .ok outcome ∧ outcome.Clean
  exhausted_iff : exit.code = 2 ↔ ∃ outcome, answer = .ok outcome ∧ ¬outcome.Clean
  invalid_iff : exit.code = 1 ↔ ∃ failure, answer = .error failure
  /-- One object is printed, which says the same and tells the outcome or the failure. -/
  printed : format = .json → ∃ fields,
    Json.ofText? exit.stdout.toList = some (.object fields) ∧
      (Json.object fields).field? "success" = some (.bool (exit.code = 0)) ∧
      (∀ outcome, answer = .ok outcome → Outcome.ofJson? (.object fields) = some outcome) ∧
      ∀ failure, answer = .error failure → (Json.object fields).field? "error" =
        some (.text (": ".intercalate (failure.contexts ++ [failure.cause.message wording])))

/-- What the exit of a batch tells about its answer. -/
structure TellsBatch (exit : Exit) (times : Batch.Times) (answer : Except Failure Batch.Summary) :
    Prop where
  invalid_iff : exit.code = 1 ↔ ∃ failure, answer = .error failure
  silent : exit.code = 1 → exit.stdout = ""
  /-- Otherwise the count of failures decides the code. -/
  code_iff : ∀ summary, answer = .ok summary →
    (exit.code = 0 ↔ summary.failures = 0) ∧ (exit.code = 2 ↔ summary.failures ≠ 0)
  /-- One object is printed, which tells this count, if the paths of all results are text. -/
  printed : ∀ summary, answer = .ok summary →
    (∀ result ∈ summary.results, result.path.text? ≠ none) → ∃ fields,
      Json.ofText? exit.stdout.toList = some (.object fields) ∧
        summary.toJson? times = some (.object fields) ∧
        (Json.object fields).field? "failure_count" = some (.nat summary.failures)
  unprinted : ∀ summary, answer = .ok summary →
    (∃ result ∈ summary.results, result.path.text? = none) → exit.stdout = ""

theorem code_ofSuccess (success : Bool) (stdout : String) :
    ((ofSuccess success stdout).code = 0 ↔ success = true) ∧
      ((ofSuccess success stdout).code = 2 ↔ success = false) ∧
      (ofSuccess success stdout).code ≠ 1 := by
  cases success <;> simp [ofSuccess, clean, exhausted]

end Exit

/-- Printed text reads back as the value that was printed. -/
theorem ofText?_printed {j : Json} (writable : j.isWritable = true) :
    Json.ofText? (printed j).toList = some j :=
  Json.ofText?_pretty_line writable

/-- The exit of a run tells about its answer, if the answer is that of a history of passes
whose numbers fit. -/
theorem tellsRun_runExit (wording : Wording) (format : Format) {answer : Except Failure Outcome}
    (told : ∀ outcome, answer = .ok outcome → ∃ history : History, outcome = history.outcome ∧
      ∀ pass ∈ history.passes, pass.Fits) :
    (runExit wording format answer).TellsRun wording format answer := by
  cases answer with
  | error failure =>
    have code : (runExit wording format (.error failure)).code = 1 := rfl
    refine ⟨?_, ?_, ?_, ?_⟩
    · simp [code]
    · simp [code]
    · simp [code]
    · rintro rfl
      refine ⟨_, ofText?_printed (isWritable_failureRecord _), ?_, ?_, ?_⟩
      · rw [code]
        simp [Json.field?]
      · rintro _ ⟨⟩
      · rintro _ ⟨⟩
        simp [Json.field?, Failure.message]
  | ok outcome =>
    obtain ⟨history, rfl, fit⟩ := told outcome rfl
    let exit := runExit wording format (.ok history.outcome)
    obtain ⟨clean, exhausted, valid⟩ :
        (exit.code = 0 ↔ history.outcome.success = true) ∧
          (exit.code = 2 ↔ history.outcome.success = false) ∧ exit.code ≠ 1 :=
      Exit.code_ofSuccess _ _
    have success : history.outcome.success = true ↔ history.outcome.Clean :=
      History.outcome_success_iff history
    have answered {P : Outcome → Prop} :
        (∃ outcome, Except.ok (ε := Failure) history.outcome = .ok outcome ∧ P outcome) ↔
          P history.outcome := by
      simp
    refine ⟨?_, ?_, ?_, ?_⟩
    · exact (clean.trans success).trans answered.symm
    · refine (exhausted.trans ?_).trans answered.symm
      rw [← Bool.not_eq_true, success]
    · refine ⟨fun invalid => absurd invalid valid, ?_⟩
      rintro ⟨_, ⟨⟩⟩
    · rintro rfl
      refine ⟨_, ofText?_printed history.outcome.isWritable_toJson, ?_, ?_, ?_⟩
      · have same : decide (exit.code = 0) = history.outcome.success :=
          Bool.eq_iff_iff.mpr (decide_eq_true_iff.trans clean)
        rw [same]
        simp [Json.field?]
      · rintro _ ⟨⟩
        exact History.ofJson?_outcome fit
      · rintro _ ⟨⟩

theorem code_batchExit (wording : Wording) (times : Batch.Times) (summary : Batch.Summary) :
    (batchExit wording times (.ok summary)).code =
      (Exit.ofSuccess summary.allSuccessful "").code := by
  rw [batchExit]
  cases summary.toJson? times <;> rfl

theorem tellsBatch_batchExit (wording : Wording) (times : Batch.Times)
    (answer : Except Failure Batch.Summary) :
    (batchExit wording times answer).TellsBatch times answer := by
  cases answer with
  | error failure => exact ⟨by simp [batchExit, Exit.invalid], fun _ => rfl, nofun, nofun, nofun⟩
  | ok summary =>
    obtain ⟨clean, exhausted, valid⟩ := Exit.code_ofSuccess summary.allSuccessful ""
    rw [← code_batchExit wording times summary] at clean exhausted valid
    refine ⟨⟨fun invalid => absurd invalid valid, nofun⟩, fun invalid => absurd invalid valid,
      ?_, ?_, ?_⟩
    · rintro _ ⟨⟩
      refine ⟨clean.trans summary.allSuccessful_iff, exhausted.trans ?_⟩
      rw [← Bool.not_eq_true, summary.allSuccessful_iff]
    · rintro _ ⟨⟩ shown
      obtain ⟨fields, told, writable, count⟩ := Batch.Summary.exists_record times shown
      refine ⟨fields, ?_, told, count⟩
      rw [batchExit, told]
      exact ofText?_printed writable
    · rintro _ ⟨⟩ unshown
      rw [batchExit, Batch.Summary.no_record times unshown]
      rfl

end Cli

end Mender
