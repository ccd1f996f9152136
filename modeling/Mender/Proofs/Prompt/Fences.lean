import Mender.Prompt
import Mender.Proofs.Reply.Fence
import Mender.Proofs.Text.Decimal

/-!
# Fences in prompts

The code stands in a prompt as it would in a reply. No section in front of it ends in a
backtick, and none holds a fence unless a text from outside does. So a prompt that is read as a
reply gives the code back: `code?_build`.
-/

namespace Mender.Prompt

open Reply Text

/-- There is no fence in the text, and none can begin at its end. -/
structure Sealed (text : List Char) : Prop where
  no_fence : contains fence text = false
  ends : text.getLast? ≠ some '\x60'

theorem sealed_of_not_mem {text : List Char} (h : '\x60' ∉ text) : Sealed text := by
  constructor
  · exact not_contains_of_not_mem (by decide) h
  · intro last
    exact h (List.mem_of_getLast? last)

/-- Behind a sealed text a fence has to stand on its own. -/
theorem Sealed.contains_append {text : List Char} (h : Sealed text) (more : List Char) :
    contains fence (text ++ more) = contains fence more := by
  rcases List.eq_nil_or_concat text with rfl | ⟨front, c, rfl⟩
  · rfl
  · have other : c ∉ fence := by
      intro mem
      apply h.ends
      simpa [fence] using mem
    have front_plain : contains fence front = false := by
      have plain := h.no_fence
      rw [List.concat_eq_append, contains_append_cons other (by decide)] at plain
      exact (Bool.or_eq_false_iff.mp plain).1
    rw [List.concat_eq_append, List.append_assoc, List.singleton_append,
      contains_append_cons other (by decide), front_plain, Bool.false_or]

theorem Sealed.append {text more : List Char} (h : Sealed text) (h' : Sealed more) :
    Sealed (text ++ more) := by
  refine ⟨(h.contains_append more).trans h'.no_fence, ?_⟩
  rw [List.getLast?_append]
  cases last : more.getLast? with
  | none => exact h.ends
  | some c => simpa [last] using h'.ends

/-- Data without a fence may stand between sealed texts, if no backtick follows it. -/
theorem Sealed.around {before data after : List Char} (h : Sealed before)
    (plain : contains fence data = false) (h' : Sealed after)
    (apart : ∃ c ∈ after.head?, c ≠ '\x60') : Sealed (before ++ (data ++ after)) := by
  obtain ⟨c, first, other⟩ := apart
  obtain ⟨rest, rfl⟩ : ∃ rest, after = c :: rest := List.head?_eq_some_iff.mp first
  have absent : c ∉ fence := by simpa [fence] using other
  have rest_plain : contains fence rest = false := by
    have whole := h'.no_fence
    rw [← List.nil_append (c :: rest), contains_append_cons absent (by decide)] at whole
    exact (Bool.or_eq_false_iff.mp whole).2
  constructor
  · rw [h.contains_append, contains_append_cons absent (by decide), plain, rest_plain]
    rfl
  · have ends := h'.ends
    simpa [List.getLast?_append] using ends

theorem sealed_flatMap {α : Type} {items : List α} {entry : α → List Char}
    (h : ∀ item ∈ items, Sealed (entry item)) : Sealed (items.flatMap entry) := by
  induction items with
  | nil => exact sealed_of_not_mem (by simp)
  | cons item items ih =>
    rw [List.flatMap_cons]
    exact (h item List.mem_cons_self).append (ih fun i mem => h i (List.mem_cons_of_mem _ mem))

/-- The digits of a line are no fence. -/
theorem sealed_lineOf (n : UInt32) : Sealed (lineOf n).toList := by
  apply sealed_of_not_mem
  rw [lineOf, Decimal.natText, String.toList_ofList]
  exact Decimal.not_mem_digits (by decide) n.toNat

theorem sealed_requirement {text : String} (h : contains fence text.toList = false) :
    Sealed (requirement text).toList := by
  have start : Sealed "- ".toList := sealed_of_not_mem (by decide)
  have stop : Sealed "\n".toList := sealed_of_not_mem (by decide)
  have whole := start.around h stop ⟨'\n', rfl, by decide⟩
  simpa only [requirement, String.toList_append, List.append_assoc] using whole

theorem sealed_staticError {f : Finding} (h : contains fence f.message.toList = false) :
    Sealed (staticError f).toList := by
  have place : Sealed ("- Line ".toList ++ (lineOf f.line).toList ++ ": ".toList) :=
    ((sealed_of_not_mem (by decide)).append (sealed_lineOf f.line)).append
      (sealed_of_not_mem (by decide))
  have stop : Sealed "\n".toList := sealed_of_not_mem (by decide)
  have whole := place.around h stop ⟨'\n', rfl, by decide⟩
  simpa only [staticError, String.toList_append, List.append_assoc] using whole

theorem sealed_testFailure {f : Finding} (name : contains fence f.testName.toList = false)
    (message : contains fence f.message.toList = false) : Sealed (testFailure f).toList := by
  have start : Sealed "- ".toList := sealed_of_not_mem (by decide)
  have place : Sealed (" (Line ".toList ++ (lineOf f.line).toList ++ "): ".toList) :=
    ((sealed_of_not_mem (by decide)).append (sealed_lineOf f.line)).append
      (sealed_of_not_mem (by decide))
  have stop : Sealed "\n".toList := sealed_of_not_mem (by decide)
  have named := start.around name place ⟨' ', rfl, by decide⟩
  have whole := named.around message stop ⟨'\n', rfl, by decide⟩
  simpa only [testFailure, String.toList_append, List.append_assoc] using whole

/-- A section of findings is sealed if its title and its entries are. -/
theorem sealed_findingList (title : String) {entry : Finding → String} {findings : List Finding}
    (titled : '\x60' ∉ title.toList) (h : ∀ f ∈ findings, Sealed (entry f).toList) :
    Sealed (findingList title entry findings).toList := by
  unfold findingList
  split
  · exact sealed_of_not_mem (by simp)
  · have heading : Sealed ("\n## ".toList ++ title.toList ++ ":\n".toList) :=
      ((sealed_of_not_mem (by decide)).append (sealed_of_not_mem titled)).append
        (sealed_of_not_mem (by decide))
    have whole := heading.append (sealed_flatMap h)
    simpa only [String.toList_append, String.toList_join, List.flatMap_map] using whole

theorem sealed_preamble {standard : String} (h : contains fence standard.toList = false) :
    Sealed (preamble standard).toList := by
  have start : Sealed "You are an expert ".toList := sealed_of_not_mem (by decide)
  have task : Sealed (" developer. Your task is to fix the code below so that ".toList ++
      "it passes static analysis at the strictest level and the whole test suite.\n".toList) :=
    (sealed_of_not_mem (by decide)).append (sealed_of_not_mem (by decide))
  unfold preamble
  rw [String.toList_append, String.toList_append, String.toList_append, List.append_assoc,
    List.append_assoc]
  exact start.around h task ⟨' ', rfl, by decide⟩

theorem sealed_requirementList {requirements : List String}
    (h : ∀ text ∈ requirements, contains fence text.toList = false) :
    Sealed (requirementList requirements).toList := by
  have start : Sealed "\nREQUIREMENTS:\n".toList := sealed_of_not_mem (by decide)
  have entries : Sealed (requirements.flatMap fun text => (requirement text).toList) :=
    sealed_flatMap fun text mem => sealed_requirement (h text mem)
  have stop : Sealed ("- Fix ALL reported errors\n- Preserve the existing behaviour\n".toList ++
      "- Return ONLY the fixed code, no explanation\n".toList) :=
    (sealed_of_not_mem (by decide)).append (sealed_of_not_mem (by decide))
  unfold requirementList
  rw [String.toList_append, String.toList_append, String.toList_append, String.toList_join,
    List.flatMap_map, List.append_assoc]
  exact (start.append entries).append stop

/-- No text that goes into the prompt holds a fence. -/
structure Unfenced (language : Language) (content : String) (snapshot : Snapshot) : Prop where
  standard : contains fence language.standard.toList = false
  requirements : ∀ text ∈ language.requirements, contains fence text.toList = false
  staticErrors : ∀ f ∈ snapshot.staticErrors, contains fence f.message.toList = false
  testNames : ∀ f ∈ snapshot.testFailures, contains fence f.testName.toList = false
  testMessages : ∀ f ∈ snapshot.testFailures, contains fence f.message.toList = false
  content : contains fence content.toList = false

/-- The sections in front of the code. -/
def sections (language : Language) (snapshot : Snapshot) : String :=
  preamble language.standard ++ requirementList language.requirements ++
    findingList "STATIC ANALYSIS ERRORS" staticError snapshot.staticErrors ++
    findingList "TEST FAILURES" testFailure snapshot.testFailures ++ "\n## CURRENT CODE:\n"

theorem sealed_sections {language : Language} {content : String} {snapshot : Snapshot}
    (h : Unfenced language content snapshot) : Sealed (sections language snapshot).toList := by
  have opening := (sealed_preamble h.standard).append (sealed_requirementList h.requirements)
  have errors := sealed_findingList "STATIC ANALYSIS ERRORS" (by decide)
    fun f mem => sealed_staticError (h.staticErrors f mem)
  have failures := sealed_findingList "TEST FAILURES" (by decide)
    fun f mem => sealed_testFailure (h.testNames f mem) (h.testMessages f mem)
  have heading : Sealed "\n## CURRENT CODE:\n".toList := sealed_of_not_mem (by decide)
  unfold sections
  rw [String.toList_append, String.toList_append, String.toList_append, String.toList_append]
  exact ((opening.append errors).append failures).append heading

theorem toList_build (language : Language) (content : String) (snapshot : Snapshot) :
    (build language content snapshot).toList =
      (sections language snapshot).toList ++ block language.fenceTag.toList content.toList ++
        "\n\n## FIXED CODE:\n".toList := by
  have opening : "\n## CURRENT CODE:\n\x60\x60\x60".toList =
      "\n## CURRENT CODE:\n".toList ++ fence := by decide
  have closing : "\n\x60\x60\x60\n".toList = '\n' :: fence ++ ['\n'] := by decide
  have ending : "\n\n## FIXED CODE:\n".toList = '\n' :: "\n## FIXED CODE:\n".toList := by decide
  have newline : "\n".toList = ['\n'] := rfl
  unfold build codeBlock sections block
  rw [String.toList_append, String.toList_append]
  simp only [String.toList_append, opening, closing, ending,
    newline, List.append_assoc, List.cons_append, List.nil_append]

/-- A prompt that is read as a reply gives back its code without the blanks around it, whatever
was found, if the engine takes the pattern of a block. -/
theorem code?_build {engine : Engine} {language : Language} {content : String}
    {snapshot : Snapshot}
    (fits : engine.accepts (blockPattern language.fenceTag.toList) = true)
    (h : Unfenced language content snapshot) (prologue : String) :
    code? engine language.fenceTag prologue (build language content snapshot) =
      some content.trimmed := by
  have front := sealed_sections h
  have apart : Separates (sections language snapshot).toList language.fenceTag.toList :=
    fun _ => front.ends
  have held := fenced?_block front.no_fence apart h.content "\n\n## FIXED CODE:\n".toList
  rw [code?_of_accepts fits, toList_build, held]
  rfl

/-- The tag may be a backtick itself, and pairs of backticks may stand at every end. -/
theorem code?_build_backticks :
    let language : Language := ⟨"\x60\x60", "\x60", "", "md", ["\x60\x60"]⟩
    let snapshot : Snapshot :=
      ⟨[.staticError "a" 1 "\x60\x60" false], [.testFailure "\x60\x60" "" 0 "\x60"]⟩
    let content := " \x60\x60 x\n\x60\x60\t"
    Unfenced language content snapshot ∧
      code? .standard language.fenceTag "x" (Prompt.build language content snapshot) =
        some "\x60\x60 x\n\x60\x60" := by
  intro language snapshot content
  have plain : Unfenced language content snapshot := by
    constructor <;> decide
  have fits : Engine.standard.accepts (blockPattern language.fenceTag.toList) = true := by
    decide
  have read := code?_build fits plain "x"
  have trimmed : content.trimmed = "\x60\x60 x\n\x60\x60" := by decide
  rw [trimmed] at read
  exact ⟨plain, read⟩

/-- A tag whose blocks have too large a pattern, so that not even the prompt itself offers
code. -/
theorem code?_build_longTag :
    ({ Settings.default with language := longTag }).validate = .ok () ∧
      Unfenced longTag "x" ⟨[], []⟩ ∧
      code? .standard longTag.fenceTag "" (Prompt.build longTag "x" ⟨[], []⟩) = none := by
  have plain : Unfenced longTag "x" ⟨[], []⟩ := by
    constructor <;> decide
  exact ⟨validate_longTag, plain, code?_of_refused refused_longTag _ _⟩

end Mender.Prompt
