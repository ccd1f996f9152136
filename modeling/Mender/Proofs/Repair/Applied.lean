import Mender.Proofs.Repair.Course
import Mender.Proofs.Text.Utf8

/-!
# Applied content

Which answers of the oracle bring new content, read off the calls of a run. A pass
counts as one that applied a fix where its calls have such an answer, and no pass has
two of them.
-/

namespace Mender

namespace Event

/-- The new content that an answer brought, if it differs from the content that was asked
about by more than blanks at the end. -/
def applied? : Event → Option String
  | .ask _ current (.applied content) =>
    if content.rightTrimmed = current.rightTrimmed then none else some content
  | _ => none

def lastApplied? (calls : List Event) : Option String := (calls.filterMap applied?).getLast?

/-- The bytes of a file that held the data before the calls. -/
def contentAfter (data : Bytes) (calls : List Event) : Bytes :=
  ((lastApplied? calls).map Utf8.encode).getD data

theorem applied?_ask (prompt current : String) (fix : Fix) :
    applied? (.ask prompt current fix) = Repair.replacement? fix current := by
  cases fix with
  | applied content =>
    simp only [applied?, Repair.replacement?, Fix.sameContent, decide_eq_true_eq]
  | noFix | transportError => rfl

theorem lastApplied?_ask (prompt current : String) (fix : Fix) :
    lastApplied? [.ask prompt current fix] = Repair.replacement? fix current := by
  rw [← applied?_ask prompt]
  unfold lastApplied?
  cases brought : applied? (.ask prompt current fix) with
  | none => rw [List.filterMap_cons_none brought]; rfl
  | some content => rw [List.filterMap_cons_some brought]; rfl

theorem lastApplied?_append (calls later : List Event) :
    lastApplied? (calls ++ later) = (lastApplied? later).or (lastApplied? calls) := by
  rw [lastApplied?, List.filterMap_append, List.getLast?_append]
  rfl

theorem lastApplied?_ask_write (prompt current : String) (path : Path) (content : String)
    (fix : Fix) (done : Except Failure Unit) :
    lastApplied? [.ask prompt current fix, .write path content done] =
      Repair.replacement? fix current := by
  rw [← lastApplied?_ask prompt]
  exact lastApplied?_append [.ask prompt current fix] [.write path content done]

theorem contentAfter_append (data : Bytes) (calls later : List Event) :
    contentAfter data (calls ++ later) = contentAfter (contentAfter data calls) later := by
  unfold contentAfter
  rw [lastApplied?_append]
  cases lastApplied? later <;> rfl

theorem contentAfter_of_silent {calls : List Event} (silent : lastApplied? calls = none)
    (data : Bytes) : contentAfter data calls = data := by
  rw [contentAfter, silent]
  rfl

/-- No write among the calls has failed. -/
def AllWritten (calls : List Event) : Prop :=
  ∀ path content failure, .write path content (.error failure) ∉ calls

theorem AllWritten.append {calls later : List Event} (h : AllWritten calls)
    (more : AllWritten later) : AllWritten (calls ++ later) := by
  intro path content failure mem
  rcases List.mem_append.mp mem with mem | mem
  · exact h path content failure mem
  · exact more path content failure mem

/-- The last call is a write that failed, of what an answer brought. What it found in the file,
or a part of the new content, is left there. -/
def Spoiled (data : Bytes) (calls : List Event) (failure : Failure) (held : Bytes) : Prop :=
  ∃ before prompt current content path,
    calls =
      before ++ [.ask prompt current (.applied content), .write path content (.error failure)] ∧
    AllWritten before ∧
    Disk.Remains (contentAfter data before) (Utf8.encode content)
      (Except.error failure : Except Failure Unit) held

/-- What a file that held the data holds after the calls: what was applied last, unless the last
write failed and the calls end so. -/
def Leaves (data : Bytes) (calls : List Event) (ending : Failure → Prop) (held : Bytes) : Prop :=
  AllWritten calls ∧ held = contentAfter data calls ∨
    ∃ failure, ending failure ∧ Spoiled data calls failure held

theorem leaves_of_silent {data : Bytes} {calls : List Event} {ending : Failure → Prop}
    (written : AllWritten calls) (silent : lastApplied? calls = none) :
    Leaves data calls ending data :=
  .inl ⟨written, (contentAfter_of_silent silent data).symm⟩

theorem Leaves.mono {data held : Bytes} {calls : List Event} {ending ending' : Failure → Prop}
    (h : Leaves data calls ending held) (ends : ∀ failure, ending failure → ending' failure) :
    Leaves data calls ending' held :=
  h.imp_right fun ⟨failure, ended, spoiled⟩ => ⟨failure, ends failure ended, spoiled⟩

theorem Leaves.prepend {data held : Bytes} {calls later : List Event} {ending : Failure → Prop}
    (h : Leaves (contentAfter data calls) later ending held) (written : AllWritten calls) :
    Leaves data (calls ++ later) ending held := by
  rcases h with ⟨more, rfl⟩ | ⟨failure, ended, before, prompt, current, content, path, rfl, more,
    remains⟩
  · exact .inl ⟨written.append more, (contentAfter_append data calls later).symm⟩
  · refine .inr ⟨failure, ended, calls ++ before, prompt, current, content, path, ?_,
      written.append more, ?_⟩
    · rw [List.append_assoc]
    · rwa [contentAfter_append]

/-- Calls that bring nothing leave the file to those that follow. -/
theorem Leaves.behind {data held : Bytes} {calls earlier : List Event}
    {ending : Failure → Prop} (h : Leaves data calls ending held) (written : AllWritten earlier)
    (silent : lastApplied? earlier = none) : Leaves data (earlier ++ calls) ending held := by
  rw [← contentAfter_of_silent silent data] at h
  exact h.prepend written

/-- The text of the content, as far as it is one. -/
theorem decode?_contentAfter (data : Bytes) (calls : List Event) :
    (Utf8.decode? (contentAfter data calls)).getD "" =
      (lastApplied? calls).getD ((Utf8.decode? data).getD "") := by
  unfold contentAfter
  cases lastApplied? calls with
  | none => rfl
  | some content =>
    change (Utf8.decode? (Utf8.encode content)).getD "" = content
    rw [Utf8.decode?_encode]
    rfl

theorem applied?_eq_some_iff {call : Event} {content : String} :
    call.applied? = some content ↔ ∃ prompt current,
      call = .ask prompt current (.applied content) ∧
        content.rightTrimmed ≠ current.rightTrimmed := by
  unfold applied?
  split
  · next prompt current content' =>
    by_cases same : content'.rightTrimmed = current.rightTrimmed
    · rw [if_pos same]
      simp only [reduceCtorEq, false_iff]
      rintro ⟨_, _, call, other⟩
      cases call
      exact other same
    · rw [if_neg same]
      constructor
      · intro brought
        cases brought
        exact ⟨prompt, current, rfl, same⟩
      · rintro ⟨_, _, call, -⟩
        cases call
        rfl
  · next other =>
    simp only [reduceCtorEq, false_iff]
    rintro ⟨prompt, current, rfl, -⟩
    exact other prompt current content rfl

theorem isSome_lastApplied?_iff (calls : List Event) :
    (lastApplied? calls).isSome = true ↔ ∃ prompt current content,
      .ask prompt current (.applied content) ∈ calls ∧
        content.rightTrimmed ≠ current.rightTrimmed := by
  rw [lastApplied?, List.getLast?_isSome]
  constructor
  · intro some_applied
    obtain ⟨content, mem⟩ := List.exists_mem_of_ne_nil _ some_applied
    obtain ⟨call, mem, brought⟩ := List.mem_filterMap.mp mem
    obtain ⟨prompt, current, rfl, other⟩ := applied?_eq_some_iff.mp brought
    exact ⟨prompt, current, content, mem, other⟩
  · rintro ⟨prompt, current, content, mem, other⟩
    have brought := applied?_eq_some_iff.mpr ⟨prompt, current, rfl, other⟩
    exact List.ne_nil_of_mem (List.mem_filterMap.mpr ⟨_, mem, brought⟩)

/-- Every question is about what was applied last before it, and as long as nothing was,
about the data that the file held at first. -/
def Informed (data : Bytes) (calls : List Event) : Prop :=
  ∀ i prompt current fix, calls[i]? = some (.ask prompt current fix) →
    current = (lastApplied? (calls.take i)).getD ((Utf8.decode? data).getD "")

theorem informed_of_no_ask {data : Bytes} {calls : List Event}
    (silent : ∀ prompt current fix, .ask prompt current fix ∉ calls) : Informed data calls := by
  intro i prompt current fix at_i
  exact absurd (List.mem_of_getElem? at_i) (silent prompt current fix)

theorem Informed.append {data : Bytes} {calls later : List Event} (h : Informed data calls)
    (more : Informed (contentAfter data calls) later) : Informed data (calls ++ later) := by
  intro i prompt current fix at_i
  by_cases first : i < calls.length
  · rw [List.getElem?_append_left first] at at_i
    rw [List.take_append_of_le_length (Nat.le_of_lt first)]
    exact h i prompt current fix at_i
  · obtain ⟨j, rfl⟩ := Nat.exists_eq_add_of_le (Nat.le_of_not_lt first)
    rw [List.getElem?_append_right (Nat.le_add_right _ _), Nat.add_sub_cancel_left] at at_i
    rw [List.take_length_add_append, lastApplied?_append, more j prompt current fix at_i,
      decode?_contentAfter]
    cases lastApplied? (later.take j) <;> rfl

end Event

namespace Repair

open Event

variable {σ : Type} {r : Repair σ} {target : Target} {dryRun : Bool} {a b : Site σ}
  {calls : List Event} {snapshot : Snapshot}

/-- Only an answer that brings content is written. -/
theorem applied_of_replacement? {fix : Fix} {current content : String}
    (h : replacement? fix current = some content) : fix = .applied content := by
  cases fix with
  | applied content' =>
    simp only [replacement?, Option.ite_none_left_eq_some, Option.some.injEq] at h
    rw [h.2]
  | noFix | transportError => cases h

theorem AttemptCourse.written_eq {attempt : Attempt}
    (h : r.AttemptCourse target a snapshot calls b (.ok attempt)) :
    attempt.written = (lastApplied? calls).isSome := by
  cases h with
  | kept _ nothing =>
    rw [lastApplied?_ask, nothing]
    rfl
  | written _ replaced =>
    rw [lastApplied?_ask_write, replaced]
    rfl

/-- An attempt has one answer, and what that brings is all that it applies. -/
theorem AttemptCourse.lastApplied?_eq {answer : Except Failure Attempt}
    (h : r.AttemptCourse target a snapshot calls b answer) {prompt current : String} {fix : Fix}
    (mem : .ask prompt current fix ∈ calls) : lastApplied? calls = replacement? fix current := by
  cases h with
  | kept =>
    cases List.mem_singleton.mp mem
    exact lastApplied?_ask prompt current fix
  | written | refused =>
    rcases List.mem_cons.mp mem with asked | mem
    · cases asked
      exact lastApplied?_ask_write prompt current _ _ fix _
    · cases List.mem_singleton.mp mem

theorem silent_inspection : lastApplied? (inspection target snapshot) = none := rfl

theorem no_ask_inspection (prompt current : String) (fix : Fix) :
    .ask prompt current fix ∉ inspection target snapshot := by
  simp [inspection]

theorem lastApplied?_inspection_append (calls : List Event) :
    lastApplied? (inspection target snapshot ++ calls) = lastApplied? calls := by
  rw [lastApplied?_append, silent_inspection, Option.or_none]

theorem PassCourse.written_eq {attempt? : Option Attempt}
    (h : r.PassCourse target dryRun a calls b (.ok (snapshot, attempt?))) :
    attempt?.any (·.written) = (lastApplied? calls).isSome := by
  cases h with
  | idle => rfl
  | tried _ _ attempted =>
    rw [lastApplied?_inspection_append, ← attempted.written_eq]
    rfl

theorem PassCourse.lastApplied?_eq {answer : Except Failure (Snapshot × Option Attempt)}
    (h : r.PassCourse target dryRun a calls b answer) {prompt current : String} {fix : Fix}
    (mem : .ask prompt current fix ∈ calls) : lastApplied? calls = replacement? fix current := by
  cases h with
  | unanalyzed | untested | idle => simp [inspection] at mem
  | tried _ _ attempted | refused _ _ attempted =>
    rw [lastApplied?_inspection_append]
    rcases List.mem_append.mp mem with mem | mem
    · exact absurd mem (no_ask_inspection _ _ _)
    · exact attempted.lastApplied?_eq mem

/-- A completed pass counts as one that applied a fix if an answer in it brought new content. -/
theorem RunCourse.fixApplied_eq {rounds : List (Round σ)} {answer : Except Failure Outcome}
    (h : r.RunCourse target dryRun a calls rounds b answer) {round : Round σ}
    (mem : round ∈ rounds) : round.record.fixApplied = (lastApplied? round.calls).isSome := by
  obtain ⟨i, rewritten, c, passed, record⟩ := h.completed mem
  rw [record]
  exact passed.written_eq

theorem RunCourse.lastApplied?_eq {rounds : List (Round σ)} {answer : Except Failure Outcome}
    (h : r.RunCourse target dryRun a calls rounds b answer) {round : Round σ}
    (mem : round ∈ rounds) {prompt current : String} {fix : Fix}
    (asked : .ask prompt current fix ∈ round.calls) :
    lastApplied? round.calls = replacement? fix current := by
  obtain ⟨i, rewritten, c, passed, -⟩ := h.completed mem
  exact passed.lastApplied?_eq asked

end Repair

end Mender
