import Mender.Proofs.Repair.Applied
import Mender.Proofs.Reply.Scan
import Mender.Rehearsal
import Mender.Service

/-!
# Blank fixes

A reply whose first block holds nothing but blanks offers the empty text as code, and this
differs from every content that is not blank. So it counts as a fix, and a run writes it. No
other reply makes a run write a blank content.
-/

namespace Mender

namespace Reply

open Text

/-- The first fence that opens with the tag is closed, and only blanks stand in between. -/
def BlankBlock (tag text : List Char) : Prop :=
  ∃ front after inner rest, FirstAt (fence ++ tag) text front after ∧
    FirstAt fence after inner rest ∧ ∀ c ∈ inner, isBlank c = true

theorem fenced?_cases (tag text : List Char) :
    (∃ front after inner rest, FirstAt (fence ++ tag) text front after ∧
      FirstAt fence after inner rest ∧ fenced? tag text = some (trim inner)) ∨
      fenced? tag text = none := by
  by_cases closed : ∃ front after, FirstAt (fence ++ tag) text front after ∧ fence <:+: after
  · obtain ⟨front, after, opens, inside⟩ := closed
    obtain ⟨inner, rest, closes⟩ := exists_firstAt inside
    exact .inl ⟨front, after, inner, rest, opens, closes, fenced?_of_first opens closes⟩
  · right
    apply fenced?_eq_none
    intro front after opens inside
    exact closed ⟨front, after, opens, inside⟩

theorem fenced?_eq_nil_iff {tag text : List Char} :
    fenced? tag text = some [] ↔ BlankBlock tag text := by
  constructor
  · intro empty
    obtain ⟨front, after, inner, rest, opens, closes, held⟩ | none := fenced?_cases tag text
    · rw [held, Option.some_inj, trim_eq_nil_iff] at empty
      exact ⟨front, after, inner, rest, opens, closes, empty⟩
    · rw [none] at empty
      cases empty
  · rintro ⟨front, after, inner, rest, opens, closes, blank⟩
    rw [fenced?_of_first opens closes, trim_of_blank blank]

/-- Code is a trimmed text, and the empty one only if that is what the first block holds. It is
only looked for with a pattern that the engine takes. -/
theorem code?_cases {engine : Engine} {tag prologue reply code : String}
    (h : code? engine tag prologue reply = some code) :
    engine.accepts (blockPattern tag.toList) = true ∧ (∃ cs, code.toList = trim cs) ∧
      (code = "" ↔ BlankBlock tag.toList reply.toList) := by
  have fits : engine.accepts (blockPattern tag.toList) = true := by
    by_contra refused
    rw [code?_of_refused (Bool.eq_false_iff.mpr refused)] at h
    cases h
  rw [code?_of_accepts fits] at h
  refine ⟨fits, ?_⟩
  obtain ⟨cs, offered, rfl⟩ := Option.map_eq_some_iff.mp h
  have empty : String.ofList cs = "" ↔ cs = [] := by simp [← String.toList_inj]
  rw [String.toList_ofList, ← fenced?_eq_nil_iff, empty]
  obtain ⟨-, -, inner, -, -, -, block⟩ | block := fenced?_cases tag.toList reply.toList
  · rw [block] at offered ⊢
    cases offered
    exact ⟨⟨inner, rfl⟩, by simp⟩
  · rw [block] at offered ⊢
    have bare : bare? prologue.toList reply.toList = some cs := offered
    rw [bare?_eq] at bare
    split at bare
    · next starts =>
      cases bare
      refine ⟨⟨_, rfl⟩, ?_⟩
      simp only [reduceCtorEq, iff_false]
      intro nothing
      rw [nothing] at starts
      exact starts.1 (List.prefix_nil.mp starts.2)
    · cases bare

theorem sameContent_empty (current : String) :
    Fix.sameContent "" current = current.isBlankText := by
  have ends : "".rightTrimmed = current.rightTrimmed ↔ trimRight current.toList = [] := by
    rw [String.rightTrimmed, String.rightTrimmed, String.ofList_inj, eq_comm]
    rfl
  rw [Bool.eq_iff_iff, Fix.sameContent, decide_eq_true_eq, ends, trimRight_eq_nil_iff,
    String.isBlankText, List.all_eq_true]

/-- A reply comes to a blank fix where its first block is blank and the current content is not.
Then the fix is the empty text. -/
theorem ofCandidate_blank_iff (engine : Engine) (tag prologue reply current content : String) :
    Fix.ofCandidate (code? engine tag prologue reply) current = .applied content ∧
        content.isBlankText = true ↔
      engine.accepts (blockPattern tag.toList) = true ∧
        content = "" ∧ BlankBlock tag.toList reply.toList ∧ current.isBlankText = false := by
  rw [Fix.ofCandidate_eq_applied_iff]
  constructor
  · rintro ⟨⟨offered, other⟩, blank⟩
    obtain ⟨fits, ⟨cs, trimmed⟩, empty⟩ := code?_cases offered
    have nothing : content = "" := by
      rw [String.isBlankText, List.all_eq_true, trimmed] at blank
      rw [← String.toList_inj, trimmed, trim_eq_nil_of_blank blank]
      rfl
    refine ⟨fits, nothing, empty.mp nothing, ?_⟩
    rw [← sameContent_empty, ← nothing]
    exact other
  · rintro ⟨fits, rfl, block, inked⟩
    have offered : code? engine tag prologue reply = some "" := by
      rw [code?_of_accepts fits, fenced?_eq_nil_iff.mpr block]
      rfl
    exact ⟨⟨offered, (sameContent_empty current).trans inked⟩, rfl⟩

end Reply

theorem Service.ask_of_complete {σ : Type} {s : Service} {carrier : Carrier σ} {prompt : String}
    {a b : Site σ} {answer : Except Failure String}
    (replied : s.complete carrier prompt a = (answer, b)) (engine : Text.Engine)
    (wording : Wording) (current : String) :
    (s.oracle engine wording carrier).ask prompt current a =
      (Service.interpret engine wording s.language current answer, b) := by
  simp only [Service.oracle, StateT.bind, bind, replied]
  rfl

namespace Repair

open Reply
open scoped Mender.Path

variable {σ : Type} {r : Repair σ} {target : Target} {dryRun rewritten : Bool} {a b : Site σ}
  {calls : List Event} {snapshot : Snapshot}

/-- What the calls write is what the oracle answered to one of them. -/
def WritesAnswers (r : Repair σ) (calls : List Event) : Prop :=
  ∀ path content done, .write path content done ∈ calls →
    ∃ prompt current before after, .ask prompt current (.applied content) ∈ calls ∧
      r.oracle.ask prompt current before = (.applied content, after)

theorem WritesAnswers.append {later : List Event} (h : r.WritesAnswers calls)
    (more : r.WritesAnswers later) : r.WritesAnswers (calls ++ later) := by
  intro path content done mem
  obtain here | there := List.mem_append.mp mem
  · obtain ⟨prompt, current, before, after, asked, answered⟩ := h path content done here
    exact ⟨prompt, current, before, after, List.mem_append_left later asked, answered⟩
  · obtain ⟨prompt, current, before, after, asked, answered⟩ := more path content done there
    exact ⟨prompt, current, before, after, List.mem_append_right calls asked, answered⟩

theorem writesAnswers_of_no_write (silent : ∀ path content done, .write path content done ∉ calls) :
    r.WritesAnswers calls :=
  fun path content done mem => absurd mem (silent path content done)

theorem AttemptCourse.writesAnswers {answer : Except Failure Attempt}
    (h : r.AttemptCourse target a snapshot calls b answer) : r.WritesAnswers calls := by
  cases h with
  | kept => exact writesAnswers_of_no_write (by simp)
  | written asked replaced | refused asked replaced =>
    intro path content done mem
    obtain ⟨-, rfl, -⟩ : _ ∧ content = _ ∧ _ := by simpa using mem
    obtain rfl := applied_of_replacement? replaced
    exact ⟨_, _, _, _, List.mem_cons_self, asked.answered⟩

theorem writesAnswers_inspection : r.WritesAnswers (inspection target snapshot) :=
  writesAnswers_of_no_write (by simp [inspection])

theorem PassCourse.writesAnswers {answer : Except Failure (Snapshot × Option Attempt)}
    (h : r.PassCourse target dryRun a calls b answer) : r.WritesAnswers calls := by
  cases h with
  | unanalyzed | untested => exact writesAnswers_of_no_write (by simp)
  | idle => exact writesAnswers_inspection
  | tried _ _ attempted | refused _ _ attempted =>
    exact writesAnswers_inspection.append attempted.writesAnswers

theorem Course.writesAnswers {index budget : Nat} {rounds : List (Round σ)} {stop : Option Failure}
    (h : r.Course target dryRun rewritten index budget a calls rounds b stop) :
    r.WritesAnswers calls := by
  induction h with
  | spent => exact writesAnswers_of_no_write (by simp)
  | failed passed | unaudited passed | gold passed => exact passed.writesAnswers
  | further passed _ _ _ ih => exact passed.writesAnswers.append ih

theorem RunCourse.writesAnswers {rounds : List (Round σ)} {answer : Except Failure Outcome}
    (h : r.RunCourse target dryRun a calls rounds b answer) : r.WritesAnswers calls := by
  have rewriting (done : Except Failure Bool) :
      r.WritesAnswers [.rewrite target.path dryRun done] :=
    writesAnswers_of_no_write (by simp)
  cases h with
  | unrewritten => exact rewriting _
  | stopped _ course | finished _ course => exact (rewriting _).append course.writesAnswers

/-- A reply comes to a blank fix exactly where its first block is blank and the current content
is not, and the engine takes the pattern of a block. The fix is then the empty text, and an
attempt writes it. A run writes a blank content after such a reply only. -/
theorem blank_written (engine : Text.Engine) (wording : Wording) (language : Language)
    (current : String) :
    (∀ reply content,
      Service.interpret engine wording language current (.ok reply) = .applied content ∧
          content.isBlankText = true ↔
        engine.accepts (blockPattern language.fenceTag.toList) = true ∧ content = "" ∧
          BlankBlock language.fenceTag.toList reply.toList ∧ current.isBlankText = false) ∧
      (∀ {σ : Type} (r : Repair σ) (target : Target) (snapshot : Snapshot) (a b : Site σ)
        (prompt : String) (events : List Event),
        r.Asks target a snapshot prompt current (.applied "") b → current.isBlankText = false →
          r.attempt target snapshot ⟨a, events⟩ =
            let (done, disk) := target.write "" b.disk
            (done.map fun _ => ⟨prompt, .applied "", true⟩, ⟨{ b with disk },
              events ++ [.ask prompt current (.applied ""), .write target.path "" done]⟩)) ∧
      ∀ {σ : Type} (s : Service) (carrier : Carrier σ) (r : Repair σ) (target : Target)
        (dryRun : Bool) (a b : Site σ) (calls : List Event) (rounds : List (Round σ))
        (answer : Except Failure Outcome), r.oracle = s.oracle engine wording carrier →
        r.RunCourse target dryRun a calls rounds b answer →
          ∀ path content done, .write path content done ∈ calls → content.isBlankText = true →
            content = "" ∧ ∃ prompt current reply before after,
              .ask prompt current (.applied "") ∈ calls ∧
                s.complete carrier prompt before = (.ok reply, after) ∧
                BlankBlock s.language.fenceTag.toList reply.toList ∧
                current.isBlankText = false := by
  refine ⟨fun reply content => ofCandidate_blank_iff _ _ _ reply current content, ?_, ?_⟩
  · intro σ r target snapshot a b prompt events asked inked
    have replaced : replacement? (.applied "") current = some "" := by
      rw [replacement?, sameContent_empty, inked]
      rfl
    have attempted := attempt_of_asks asked events
    rw [replaced] at attempted
    exact attempted
  · intro σ s carrier r target dryRun a b calls rounds answer served course path content done mem
      blank
    obtain ⟨prompt, current, before, after, asked, answered⟩ :=
      course.writesAnswers path content done mem
    rw [served] at answered
    rcases replied : s.complete carrier prompt before with ⟨reply, later⟩
    rw [Service.ask_of_complete replied, Prod.mk.injEq] at answered
    obtain ⟨meant, rfl⟩ := answered
    cases reply with
    | error failure => cases meant
    | ok reply =>
      obtain ⟨-, rfl, block, inked⟩ :=
        (ofCandidate_blank_iff _ _ _ reply current content).mp ⟨meant, blank⟩
      exact ⟨rfl, prompt, current, reply, before, later, asked, replied, block, inked⟩

/-- The body of a reply whose block is empty. -/
def emptyBlockBody : String :=
  "\x7b\"content\":[\x7b\"type\":\"text\",\"text\":\"\x60\x60\x60php\\n\x60\x60\x60\"\x7d]\x7d"

/-- A service and its carrier, which brings this body for every request. -/
def emptyBlockService : Service := .create "key" none .default .default

@[inherit_doc emptyBlockService]
def emptyBlockCarrier : Carrier Script := ⟨fun _ => return .ok emptyBlockBody⟩

/-- A run of one pass that asks this service. -/
def emptyBlockRepair : Repair Script where
  tools := Rehearsal.toolchain ⟨false, none, none⟩
  oracle := emptyBlockService.oracle .standard (fun _ text => text) emptyBlockCarrier
  maxIterations := 1
  language := .default
  auditDir? := none

/-- Before, in and after the run: the file `/a` loses its content. -/
def beforeBlank : Site Script where
  disk := ⟨[(["a"], .file (Utf8.encode "<?php") false)], [], []⟩
  memory := .ofLists [.sample 1 0] []

@[inherit_doc beforeBlank]
def betweenBlank : Site Script := { beforeBlank with memory := ⟨[], .sample 1 0, []⟩ }

@[inherit_doc beforeBlank]
def afterBlank : Site Script where
  disk := ⟨[(["a"], .file [] false)], [], []⟩
  memory := ⟨[], .sample 1 0, []⟩

/-- The reply in this body and the prompt of the run. -/
def emptyBlock : String := "\x60\x60\x60php\n\x60\x60\x60"

@[inherit_doc emptyBlock]
def emptyBlockPrompt : String := Prompt.build .default "<?php" (.sample 1 0)

theorem blank_written_rehearsal :
    Service.interpret .standard (fun _ text => text) .default "<?php" (.ok emptyBlock) =
        .applied "" ∧
      emptyBlockRepair.attempt ⟨"/a", false⟩ (.sample 1 0) ⟨betweenBlank, []⟩ =
        (.ok ⟨emptyBlockPrompt, .applied "", true⟩, ⟨afterBlank,
          [.ask emptyBlockPrompt "<?php" (.applied ""), .write "/a" "" (.ok ())]⟩) ∧
      ∃ calls rounds answer,
        emptyBlockRepair.RunCourse ⟨"/a", false⟩ false beforeBlank calls rounds afterBlank answer ∧
          .write "/a" "" (.ok ()) ∈ calls ∧
          ∃ prompt current reply before after, .ask prompt current (.applied "") ∈ calls ∧
            emptyBlockService.complete emptyBlockCarrier prompt before = (.ok reply, after) ∧
            BlankBlock "php".toList reply.toList ∧ current.isBlankText = false := by
  obtain ⟨meant, attempted, account⟩ :=
    blank_written .standard (fun _ text => text) .default "<?php"
  have fits :
      Text.Engine.standard.accepts (blockPattern Language.default.fenceTag.toList) = true := by
    decide
  have inked : "<?php".isBlankText = false := by decide
  have block : BlankBlock "php".toList emptyBlock.toList := by
    rw [← fenced?_eq_nil_iff]
    decide
  have fixed := ((meant emptyBlock "").mpr ⟨fits, rfl, block, inked⟩).1
  have replied : Reply.text emptyBlockBody = .ok emptyBlock := by cbv
  have current : "<?php" = Target.read betweenBlank.disk .default ⟨"/a", false⟩ := by cbv
  have wrote : Target.write ⟨"/a", false⟩ "" betweenBlank.disk = (.ok (), afterBlank.disk) := by
    cbv
  have served : emptyBlockRepair.oracle.ask emptyBlockPrompt "<?php" betweenBlank =
      (Service.interpret .standard (fun _ text => text) .default "<?php"
        (Reply.text emptyBlockBody), betweenBlank) := rfl
  rw [replied, fixed] at served
  have asked : emptyBlockRepair.Asks ⟨"/a", false⟩ betweenBlank (.sample 1 0) emptyBlockPrompt
      "<?php" (.applied "") betweenBlank := ⟨current, rfl, served⟩
  have attempt := attempted emptyBlockRepair ⟨"/a", false⟩ (.sample 1 0) betweenBlank betweenBlank
    emptyBlockPrompt [] asked inked
  rw [wrote] at attempt
  have pass : emptyBlockRepair.PassCourse ⟨"/a", false⟩ false beforeBlank _ _ _ :=
    .tried ⟨betweenBlank, rfl, rfl⟩ rfl (.written asked rfl wrote)
  have course : emptyBlockRepair.RunCourse ⟨"/a", false⟩ false beforeBlank _ _ _ _ :=
    .finished rfl (.further pass (fun _ => rfl) rfl .spent) (fun _ => rfl)
  refine ⟨fixed, attempt, _, _, _, course, by simp, ?_⟩
  exact (account emptyBlockService emptyBlockCarrier emptyBlockRepair _ _ _ _ _ _ _ rfl course
    "/a" "" (.ok ()) (by simp) rfl).2

/-- The empty block is offered as a fix of a content that is not blank. -/
theorem interpret_of_blank_block :
    Settings.default.validate = .ok () ∧ "<?php".isBlankText = false ∧
      Service.interpret .standard (fun _ text => text) .default "<?php"
        (.ok "\x60\x60\x60php\n\x60\x60\x60") = .applied "" ∧
      "".isBlankText = true := by
  refine ⟨by decide, by decide, by decide, by decide⟩

end Repair

end Mender
