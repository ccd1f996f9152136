import Mender.Proofs.Prompt.Template
import Mender.Proofs.Prompt.Fences

/-!
# The layout of prompts

A prompt is a template filled in: `renderAll?_nodes`. Written out, it is a row of lines in which
the texts from outside stand as they are, whatever marks or line breaks they hold: `build_eq_lines`.
-/

namespace Mender.Prompt

open Template Text

/-! ## The template -/

/-- The template of a prompt, line by line; its two longest lines are cut. -/
def template : List String :=
  ["You are an expert \x7b\x7b standard \x7d\x7d developer. Your task is to fix the code",
   " below so that it passes static analysis at the strictest level",
   " and the whole test suite.\n",
   "\n",
   "REQUIREMENTS:\n",
   "\x7b% for requirement in requirements %\x7d\n",
   "- \x7b\x7b requirement \x7d\x7d\n",
   "\x7b% endfor %\x7d\n",
   "- Fix ALL reported errors\n",
   "- Preserve the existing behaviour\n",
   "- Return ONLY the fixed code, no explanation\n",
   "\x7b% if static_errors %\x7d\n",
   "\n",
   "## STATIC ANALYSIS ERRORS:\n",
   "\x7b% for error in static_errors %\x7d\n",
   "- Line \x7b\x7b error.line \x7d\x7d: \x7b\x7b error.message \x7d\x7d\n",
   "\x7b% endfor %\x7d\n",
   "\x7b% endif %\x7d\n",
   "\x7b% if test_failures %\x7d\n",
   "\n",
   "## TEST FAILURES:\n",
   "\x7b% for failure in test_failures %\x7d\n",
   "- \x7b\x7b failure.test_name \x7d\x7d (Line \x7b\x7b failure.line \x7d\x7d): ",
   "\x7b\x7b failure.message \x7d\x7d\n",
   "\x7b% endfor %\x7d\n",
   "\x7b% endif %\x7d\n",
   "\n",
   "## CURRENT CODE:\n",
   "\x60\x60\x60\x7b\x7b fence_tag \x7d\x7d\n",
   "\x7b\x7b content \x7d\x7d\n",
   "\x60\x60\x60\n",
   "\n",
   "## FIXED CODE:\n"]

/-- The text between the standard and the requirements. -/
def taskText : List Char :=
  " developer. Your task is to fix the code below so that ".toList ++
    "it passes static analysis at the strictest level and the whole test suite.\n".toList ++
    "\nREQUIREMENTS:\n".toList

/-- The requirements that every prompt has. -/
def rulesText : List Char :=
  "- Fix ALL reported errors\n- Preserve the existing behaviour\n".toList ++
    "- Return ONLY the fixed code, no explanation\n".toList

def codeText : List Char := "\n## CURRENT CODE:\n\x60\x60\x60".toList

def endText : List Char := "\n\x60\x60\x60\n".toList ++ "\n## FIXED CODE:\n".toList

/-- The part of the template for the findings of a kind. -/
def findingSegments (list title item : String) (entry : List Segment) : List Segment :=
  .statement (" if ".toList ++ list.toList ++ " ".toList) ::
    .text ("\n## ".toList ++ title.toList ++ ":\n".toList) ::
    .statement (" for ".toList ++ item.toList ++ " in ".toList ++ list.toList ++ " ".toList) ::
    (entry ++ [.statement " endfor ".toList, .statement " endif ".toList])

/-- The part of the template in front of the findings. -/
def frontSegments : List Segment :=
  [.text "You are an expert ".toList,
   .value " standard ".toList,
   .text taskText,
   .statement " for requirement in requirements ".toList,
   .text "- ".toList,
   .value " requirement ".toList,
   .text "\n".toList,
   .statement " endfor ".toList,
   .text rulesText]

def staticErrorSegments : List Segment :=
  [.text "- Line ".toList,
   .value " error.line ".toList,
   .text ": ".toList,
   .value " error.message ".toList,
   .text "\n".toList]

def testFailureSegments : List Segment :=
  [.text "- ".toList,
   .value " failure.test_name ".toList,
   .text " (Line ".toList,
   .value " failure.line ".toList,
   .text "): ".toList,
   .value " failure.message ".toList,
   .text "\n".toList]

def codeSegments : List Segment :=
  [.text codeText,
   .value " fence_tag ".toList,
   .text "\n".toList,
   .value " content ".toList,
   .text endText]

/-- The segments of the template. -/
def segments : List Segment :=
  frontSegments ++
    findingSegments "static_errors" "STATIC ANALYSIS ERRORS" "error" staticErrorSegments ++
    findingSegments "test_failures" "TEST FAILURES" "failure" testFailureSegments ++ codeSegments

theorem source_segments : segments.flatMap Segment.source = template.flatMap String.toList := by
  decide +kernel

theorem tidy_segments : Segment.tidy segments = true := by
  decide

/-- The nodes for the findings of a kind. -/
def findingNode (list title item : String) (entry : List Node) : Node :=
  .given [list]
    [.text ("\n## ".toList ++ title.toList ++ ":\n".toList), .each item [list] entry]

def nodes : List Node :=
  [.text "You are an expert ".toList,
   .value ["standard"],
   .text taskText,
   .each "requirement" ["requirements"]
     [.text "- ".toList, .value ["requirement"], .text "\n".toList],
   .text rulesText,
   findingNode "static_errors" "STATIC ANALYSIS ERRORS" "error"
     [.text "- Line ".toList,
      .value ["error", "line"],
      .text ": ".toList,
      .value ["error", "message"],
      .text "\n".toList],
   findingNode "test_failures" "TEST FAILURES" "failure"
     [.text "- ".toList,
      .value ["failure", "test_name"],
      .text " (Line ".toList,
      .value ["failure", "line"],
      .text "): ".toList,
      .value ["failure", "message"],
      .text "\n".toList],
   .text codeText,
   .value ["fence_tag"],
   .text "\n".toList,
   .value ["content"],
   .text endText]

theorem nodes?_segments : nodes? segments [] [] = some nodes := by rfl

/-- The template is read as its nodes. -/
theorem ofText?_template : Template.ofText? (template.flatMap String.toList) = some nodes := by
  rw [Template.ofText?, ← source_segments, segments?_source tidy_segments, Option.bind_eq_bind,
    Option.bind_some, nodes?_segments]

/-! ## Filling the template in -/

def staticErrorValue (f : Finding) : Value :=
  .record [("line", .number f.line.toNat), ("message", .text f.message)]

def testFailureValue (f : Finding) : Value :=
  .record [("test_name", .text f.testName), ("line", .number f.line.toNat),
    ("message", .text f.message)]

/-- What the names of the template stand for. -/
def scope (language : Language) (content : String) (snapshot : Snapshot) : Scope :=
  [("standard", .text language.standard),
   ("requirements", .list (language.requirements.map .text)),
   ("fence_tag", .text language.fenceTag),
   ("static_errors", .list (snapshot.staticErrors.map staticErrorValue)),
   ("test_failures", .list (snapshot.testFailures.map testFailureValue)),
   ("content", .text content)]

/-- A section of findings stands in a prompt where there are any. -/
theorem render?_findingNode {scope : Scope} {list item : String} {entry : List Node}
    {findings : List Finding} {value : Finding → Value} {line : Finding → String}
    (title : String) (listed : scope.at? [list] = some (.list (findings.map value)))
    (each : ∀ f, renderAll? ((item, value f) :: scope) entry = some (line f).toList) :
    (findingNode list title item entry).render? scope =
      some (findingList title line findings).toList := by
  have filled := renderAll?_text ("\n## ".toList ++ title.toList ++ ":\n".toList)
    (renderAll?_singleton (render?_each listed each))
  rw [findingNode, render?_given listed filled]
  cases findings with
  | nil => rfl
  | cons f findings =>
    simp [findingList, Value.isGiven, String.toList_append, String.toList_join, List.flatMap_map]

theorem renderAll?_requirement (scope : Scope) (text : String) :
    renderAll? (("requirement", .text text) :: scope)
      [.text "- ".toList, .value ["requirement"], .text "\n".toList] =
        some (requirement text).toList := by
  simp [renderAll?, Node.render?, Scope.at?, List.lookup, Value.text?, requirement]

theorem renderAll?_staticError (scope : Scope) (f : Finding) :
    renderAll? (("error", staticErrorValue f) :: scope)
      [.text "- Line ".toList, .value ["error", "line"], .text ": ".toList,
        .value ["error", "message"], .text "\n".toList] = some (staticError f).toList := by
  simp [renderAll?, Node.render?, Scope.at?, List.lookup, Value.field?, Value.text?,
    staticErrorValue, staticError, lineOf]

theorem renderAll?_testFailure (scope : Scope) (f : Finding) :
    renderAll? (("failure", testFailureValue f) :: scope)
      [.text "- ".toList, .value ["failure", "test_name"], .text " (Line ".toList,
        .value ["failure", "line"], .text "): ".toList, .value ["failure", "message"],
        .text "\n".toList] = some (testFailure f).toList := by
  simp [renderAll?, Node.render?, Scope.at?, List.lookup, Value.field?, Value.text?,
    testFailureValue, testFailure, lineOf]

/-- The prompt is the template, filled in with the profile, the findings and the content. -/
theorem renderAll?_nodes (language : Language) (content : String) (snapshot : Snapshot) :
    renderAll? (scope language content snapshot) nodes =
      some (build language content snapshot).toList := by
  let names := scope language content snapshot
  have listed (key : String) (value : Value) (at_key : names.lookup key = some value) :
      names.at? [key] = some value := by
    simp [Scope.at?, at_key]
  have requirements := render?_each (listed "requirements" (.list _) rfl)
    (renderAll?_requirement names)
  have errors := render?_findingNode "STATIC ANALYSIS ERRORS" (listed "static_errors" (.list _) rfl)
    (renderAll?_staticError names)
  have failures := render?_findingNode "TEST FAILURES" (listed "test_failures" (.list _) rfl)
    (renderAll?_testFailure names)
  have code := renderAll?_text codeText (renderAll?_value _ (listed "fence_tag" (.text _) rfl) rfl
    (renderAll?_text "\n".toList (renderAll?_value _ (listed "content" (.text _) rfl) rfl
      (renderAll?_singleton (render?_text endText names)))))
  have front := renderAll?_text "You are an expert ".toList
    (renderAll?_value _ (listed "standard" (.text _) rfl) rfl (renderAll?_text taskText
      (renderAll?_cons requirements (renderAll?_text rulesText
        (renderAll?_cons errors (renderAll?_cons failures code))))))
  refine front.trans ?_
  unfold build preamble requirementList codeBlock taskText rulesText codeText endText
  simp only [String.toList_append, String.toList_join, List.flatMap_map, List.append_assoc]

/-! ## The lines of a prompt -/

/-- Lines, each with a line break behind it. -/
def unlines (lines : List String) : String := String.join (lines.map (· ++ "\n"))

@[simp] theorem unlines_nil : unlines [] = "" := rfl

theorem unlines_cons (line : String) (lines : List String) :
    unlines (line :: lines) = line ++ "\n" ++ unlines lines := by
  simp [unlines, String.join_cons]

theorem append_eq_unlines {text more : String} {lines lines' : List String}
    (h : text = unlines lines) (h' : more = unlines lines') :
    text ++ more = unlines (lines ++ lines') := by
  subst h h'
  induction lines with
  | nil => simp
  | cons line lines ih =>
    rw [List.cons_append, unlines_cons, unlines_cons, ← ih]
    simp only [String.append_assoc]

theorem join_eq_unlines {α : Type} (entry : α → String) (items : List α) :
    String.join (items.map fun item => entry item ++ "\n") = unlines (items.map entry) := by
  rw [unlines, List.map_map]
  rfl

/-- The lines of a section of findings, none where there is no finding. -/
def findingLines (title : String) (entry : Finding → String) (findings : List Finding) :
    List String :=
  if findings.isEmpty then [] else "" :: ("## " ++ title ++ ":") :: findings.map entry

/-- The lines of a prompt; a text from outside may itself hold line breaks. -/
def lines (language : Language) (content : String) (snapshot : Snapshot) : List String :=
  ["You are an expert " ++ language.standard ++
      " developer. Your task is to fix the code below so that " ++
      "it passes static analysis at the strictest level and the whole test suite.",
    "",
    "REQUIREMENTS:"] ++
  language.requirements.map (fun text => "- " ++ text) ++
  ["- Fix ALL reported errors",
    "- Preserve the existing behaviour",
    "- Return ONLY the fixed code, no explanation"] ++
  findingLines "STATIC ANALYSIS ERRORS" (fun f => "- Line " ++ lineOf f.line ++ ": " ++ f.message)
    snapshot.staticErrors ++
  findingLines "TEST FAILURES"
    (fun f => "- " ++ f.testName ++ " (Line " ++ lineOf f.line ++ "): " ++ f.message)
    snapshot.testFailures ++
  ["",
    "## CURRENT CODE:",
    "\x60\x60\x60" ++ language.fenceTag,
    content,
    "\x60\x60\x60",
    "",
    "## FIXED CODE:"]

theorem findingList_eq (title : String) (entry : Finding → String) (findings : List Finding) :
    findingList title (fun f => entry f ++ "\n") findings =
      unlines (findingLines title entry findings) := by
  have hashes : "\n## " = "" ++ "\n" ++ "## " := by decide
  have colon : ":\n" = ":" ++ "\n" := by decide
  unfold findingLines findingList
  split
  · rfl
  · rw [unlines_cons, unlines_cons, ← join_eq_unlines, hashes, colon]
    simp only [String.append_assoc]

theorem opening_eq (standard : String) :
    preamble standard ++ "\nREQUIREMENTS:\n" =
      unlines ["You are an expert " ++ standard ++
        " developer. Your task is to fix the code below so that " ++
        "it passes static analysis at the strictest level and the whole test suite.", "",
        "REQUIREMENTS:"] := by
  have task : "it passes static analysis at the strictest level and the whole test suite.\n" =
      "it passes static analysis at the strictest level and the whole test suite." ++ "\n" := by
    decide
  have heading : "\nREQUIREMENTS:\n" = "" ++ "\n" ++ "REQUIREMENTS:" ++ "\n" := by decide
  have parted := congrArg₂ (fun last next => "You are an expert " ++ standard ++
    " developer. Your task is to fix the code below so that " ++ last ++ next) task heading
  refine parted.trans ?_
  simp only [unlines_cons, unlines_nil, String.append_assoc, String.append_empty]

theorem code_eq (fenceTag content : String) :
    codeBlock fenceTag content ++ "\n## FIXED CODE:\n" =
      unlines ["", "## CURRENT CODE:", "\x60\x60\x60" ++ fenceTag, content, "\x60\x60\x60", "",
        "## FIXED CODE:"] := by
  have heading : "\n## CURRENT CODE:\n\x60\x60\x60" =
      "" ++ "\n" ++ "## CURRENT CODE:" ++ "\n" ++ "\x60\x60\x60" := by decide
  have ending : "\n\x60\x60\x60\n" ++ "\n## FIXED CODE:\n" =
      "\n" ++ "\x60\x60\x60" ++ "\n" ++ "" ++ "\n" ++ "## FIXED CODE:" ++ "\n" := by decide
  have parted := congrArg₂ (fun first last => first ++ fenceTag ++ "\n" ++ content ++ last)
    heading ending
  refine (String.append_assoc ..).trans (parted.trans ?_)
  simp only [unlines_cons, unlines_nil, String.append_assoc, String.append_empty,
    String.empty_append]

/-- A prompt is its lines. -/
theorem build_eq_lines (language : Language) (content : String) (snapshot : Snapshot) :
    build language content snapshot = unlines (lines language content snapshot) := by
  have requirements : String.join (language.requirements.map requirement) =
      unlines (language.requirements.map fun text => "- " ++ text) := join_eq_unlines ..
  have rules : "- Fix ALL reported errors\n- Preserve the existing behaviour\n" ++
      "- Return ONLY the fixed code, no explanation\n" =
      unlines ["- Fix ALL reported errors", "- Preserve the existing behaviour",
        "- Return ONLY the fixed code, no explanation"] := by decide
  have errors : findingList "STATIC ANALYSIS ERRORS" staticError snapshot.staticErrors =
      unlines (findingLines _ _ _) := findingList_eq ..
  have failures : findingList "TEST FAILURES" testFailure snapshot.testFailures =
      unlines (findingLines _ _ _) := findingList_eq ..
  have front := append_eq_unlines (append_eq_unlines (opening_eq language.standard) requirements)
    rules
  have whole := append_eq_unlines (append_eq_unlines (append_eq_unlines front errors) failures)
    (code_eq language.fenceTag content)
  refine Eq.trans ?_ whole
  unfold build requirementList
  simp only [String.append_assoc]

/-- Two contents that give the same prompt are the same. -/
theorem content_of_build {language : Language} {content content' : String} {snapshot : Snapshot}
    (h : build language content' snapshot = build language content snapshot) :
    content' = content := by
  have same := congrArg String.toList h
  rw [toList_build, toList_build, List.append_left_inj, List.append_right_inj] at same
  simp only [Reply.block, List.append_cancel_left_eq, List.cons.injEq, true_and,
    List.append_cancel_right_eq] at same
  exact String.toList_inj.mp same

/-- The template makes every prompt, which is a row of lines that hold the texts from outside as
they are. -/
theorem build_layout (language : Language) (content : String) (snapshot : Snapshot) :
    Template.fill? (template.flatMap String.toList) (scope language content snapshot) =
        some (build language content snapshot).toList ∧
      build language content snapshot = unlines (lines language content snapshot) ∧
      Function.Injective fun content => build language content snapshot := by
  refine ⟨?_, build_eq_lines language content snapshot, fun _ _ => content_of_build⟩
  have read : Template.fill? (template.flatMap String.toList) (scope language content snapshot) =
      renderAll? (scope language content snapshot) nodes := by
    rw [Template.fill?, ofText?_template, Option.bind_eq_bind, Option.bind_some]
  exact read.trans (renderAll?_nodes language content snapshot)

end Mender.Prompt
