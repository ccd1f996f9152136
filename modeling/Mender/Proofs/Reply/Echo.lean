import Mender.Proofs.Repair.Applied
import Mender.Proofs.Repair.Outcome
import Mender.Proofs.Reply.Fence

/-!
# Echoes

A reply that only repeats the current content is no progress, and counts as none unless
the content has blanks in front of something else: code is trimmed at both ends before
it is compared, the content only at its end.
-/

namespace Mender.Reply

open Text
open scoped Mender.Path

/-- The reply that holds the content in a block of the language and nothing else. -/
def echo (tag current : String) : String :=
  String.ofList (fence ++ tag.toList ++ '\n' :: (current.toList ++ '\n' :: fence))

/-- What an echo of the content counts as. -/
def echoFix (current : String) : Fix :=
  if startsBlank current.toList then .applied current.trimmed else .noFix

/-- The code in an echo is the content without the blanks around it. -/
theorem fenced?_echo {tag current : String} (no_fence : contains fence current.toList = false) :
    fenced? tag.toList (echo tag current).toList = some (trim current.toList) := by
  have nothing : contains fence [] = false := by decide
  have apart : Separates [] tag.toList := nofun
  have held := fenced?_block nothing apart no_fence []
  rw [List.nil_append, List.append_nil] at held
  rw [echo, String.toList_ofList]
  exact held

/-- A content without a fence holds no block of the language. -/
theorem fenced?_content {tag : List Char} {content : List Char}
    (no_fence : contains fence content = false) : fenced? tag content = none := by
  apply fenced?_eq_none
  intro front after opens
  have found := opens.cut?_eq
  rw [cut?_append_of_not_contains tag no_fence] at found
  cases found

/-- The trimmed content is the same as the content unless blanks stand in front of something
else. -/
theorem sameContent_trimmed (current : String) :
    Fix.sameContent current.trimmed current = !startsBlank current.toList := by
  have ends : current.trimmed.rightTrimmed = String.ofList (trim current.toList) := by
    rw [String.rightTrimmed, String.trimmed, String.toList_ofList, trim, trimRight_trimRight]
  have same : String.ofList (trim current.toList) = current.rightTrimmed ↔
      startsBlank current.toList = false := by
    rw [String.rightTrimmed, String.ofList_inj]
    exact trim_eq_trimRight_iff current.toList
  unfold Fix.sameContent
  rw [ends]
  cases blank : startsBlank current.toList with
  | false => exact decide_eq_true (same.mpr blank)
  | true =>
    refine decide_eq_false fun equal => ?_
    rw [same.mp equal] at blank
    cases blank

theorem ofCandidate_trimmed (current : String) :
    Fix.ofCandidate (some current.trimmed) current = echoFix current := by
  unfold Fix.ofCandidate echoFix
  dsimp only
  rw [sameContent_trimmed]
  cases startsBlank current.toList <;> rfl

theorem replacement?_echoFix (current : String) :
    Repair.replacement? (echoFix current) current =
      if startsBlank current.toList then some current.trimmed else none := by
  unfold echoFix
  cases blank : startsBlank current.toList with
  | false => rfl
  | true =>
    change (if Fix.sameContent current.trimmed current then none else some current.trimmed) = _
    rw [sameContent_trimmed, blank]
    rfl

/-- An echo of the content, in a block of the language or bare behind the prologue, counts as
no fix: the target is not written, and no pass counts as one that applied it. It is different
if the content has blanks in front of something else. Then the echo counts as a fix that takes
those blanks away, and is written. An engine that refuses the pattern of a block makes no fix
of any echo. -/
theorem echo_of_content {language : Language} {current : String} (engine : Engine)
    (no_fence : contains fence current.toList = false) :
    Fix.ofCandidate (code? engine language.fenceTag language.prologue
        (echo language.fenceTag current)) current =
          (if engine.accepts (blockPattern language.fenceTag.toList) then echoFix current
          else .noFix) ∧
      (language.prologue ≠ "" →
        startsWith language.prologue.toList current.trimmed.toList = true →
          Fix.ofCandidate (code? engine language.fenceTag language.prologue current) current =
            if engine.accepts (blockPattern language.fenceTag.toList) then echoFix current
            else .noFix) ∧
      (∀ {σ : Type} (r : Repair σ) (target : Target) (snapshot : Snapshot) (a b : Site σ)
        (prompt : String) (events : List Event),
        r.Asks target a snapshot prompt current (echoFix current) b →
          r.attempt target snapshot ⟨a, events⟩ =
            if startsBlank current.toList then
              let (done, disk) := target.write current.trimmed b.disk
              (done.map fun _ => ⟨prompt, .applied current.trimmed, true⟩, ⟨{ b with disk },
                events ++ [.ask prompt current (.applied current.trimmed),
                  .write target.path current.trimmed done]⟩)
            else
              (.ok ⟨prompt, .noFix, false⟩, ⟨b, events ++ [.ask prompt current .noFix]⟩)) ∧
      ∀ {σ : Type} (r : Repair σ) (target : Target) (dryRun : Bool) (a b : Site σ)
        (calls : List Event) (rounds : List (Round σ)) (answer : Except Failure Outcome),
        r.RunCourse target dryRun a calls rounds b answer →
          ∀ round ∈ rounds, ∀ prompt, .ask prompt current (echoFix current) ∈ round.calls →
            round.record.fixApplied = startsBlank current.toList := by
  refine ⟨?_, ?_, ?_, ?_⟩
  · cases fits : engine.accepts (blockPattern language.fenceTag.toList) with
    | true =>
      rw [code?_of_accepts fits, fenced?_echo no_fence]
      exact ofCandidate_trimmed current
    | false => exact congrArg (Fix.ofCandidate · current) (code?_of_refused fits _ _)
  · intro nonempty starts
    have offered : bare? language.prologue.toList current.toList = some (trim current.toList) := by
      rw [String.trimmed, String.toList_ofList] at starts
      have prologue : language.prologue.toList.isEmpty = false := by simpa using nonempty
      simp only [bare?, prologue, starts]
      rfl
    cases fits : engine.accepts (blockPattern language.fenceTag.toList) with
    | true =>
      rw [code?_of_accepts fits, fenced?_content no_fence, offered]
      exact ofCandidate_trimmed current
    | false => exact congrArg (Fix.ofCandidate · current) (code?_of_refused fits _ _)
  · intro σ r target snapshot a b prompt events asked
    rw [Repair.attempt_of_asks asked, replacement?_echoFix]
    unfold echoFix
    cases startsBlank current.toList <;> rfl
  · intro σ r target dryRun a b calls rounds answer course round mem prompt asked
    rw [course.fixApplied_eq mem, course.lastApplied?_eq mem asked, replacement?_echoFix]
    cases startsBlank current.toList <;> rfl

/-- Before a question about the file `/a`, which holds the start of a program. -/
def beforeEcho : Site Script where
  disk := ⟨[(["a"], .file (Utf8.encode "<?php\n") false)], [], []⟩
  memory := .ofLists [] []

theorem echo_of_content_rehearsal :
    contains fence "<?php\n".toList = false ∧
      Fix.ofCandidate (code? .standard "php" "<?php" (echo "php" "<?php\n")) "<?php\n" =
        .noFix ∧
      Fix.ofCandidate (code? .standard "php" "<?php" "<?php\n") "<?php\n" = .noFix ∧
      ∃ prompt, (Repair.rehearsal none).attempt ⟨"/a", false⟩ (.sample 1 0) ⟨beforeEcho, []⟩ =
        (.ok ⟨prompt, .noFix, false⟩, ⟨beforeEcho, [] ++ [.ask prompt "<?php\n" .noFix]⟩) := by
  have no_fence : contains fence "<?php\n".toList = false := by decide
  have nothing : echoFix "<?php\n" = .noFix := by decide
  have current : "<?php\n" = Target.read beforeEcho.disk .default ⟨"/a", false⟩ := by cbv
  obtain ⟨fenced, bare, attempted, -⟩ := @echo_of_content .default "<?php\n" .standard no_fence
  refine ⟨no_fence, fenced.trans nothing, (bare (by decide) (by decide)).trans nothing, ?_⟩
  refine ⟨_, attempted (Repair.rehearsal none) ⟨"/a", false⟩ (.sample 1 0) beforeEcho beforeEcho
    _ [] ⟨current, rfl, ?_⟩⟩
  rw [nothing]
  rfl

/-- The content `\n<?php` comes back without the line in front, which counts as a fix. -/
theorem echo_of_blank_line :
    Fix.ofCandidate (code? .standard "php" "<?php"
      "\x60\x60\x60php\n\n<?php\n\x60\x60\x60") "\n<?php" = .applied "<?php" := by
  decide +kernel

end Mender.Reply
