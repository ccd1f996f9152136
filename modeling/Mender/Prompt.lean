import Mender.Finding
import Mender.Language
import Mender.Text.Decimal

/-!
# Prompts

The request for a fix names the standard and the requirements, lists the
findings in a section for each kind that has any, and ends with the code. All of
these stand in it as they are.
-/

namespace Mender.Prompt

open Mender

def lineOf (n : UInt32) : String := Decimal.natText n.toNat

def requirement (text : String) : String := "- " ++ text ++ "\n"

def staticError (f : Finding) : String :=
  "- Line " ++ lineOf f.line ++ ": " ++ f.message ++ "\n"

def testFailure (f : Finding) : String :=
  "- " ++ f.testName ++ " (Line " ++ lineOf f.line ++ "): " ++ f.message ++ "\n"

/-- A titled list of findings, left out where there is none. -/
def findingList (title : String) (entry : Finding → String) (findings : List Finding) : String :=
  if findings.isEmpty then ""
  else "\n## " ++ title ++ ":\n" ++ String.join (findings.map entry)

def preamble (standard : String) : String :=
  "You are an expert " ++ standard ++ " developer. Your task is to fix the code below so that " ++
    "it passes static analysis at the strictest level and the whole test suite.\n"

def requirementList (requirements : List String) : String :=
  "\nREQUIREMENTS:\n" ++ String.join (requirements.map requirement) ++
    "- Fix ALL reported errors\n- Preserve the existing behaviour\n" ++
    "- Return ONLY the fixed code, no explanation\n"

def codeBlock (fenceTag content : String) : String :=
  "\n## CURRENT CODE:\n\x60\x60\x60" ++ fenceTag ++ "\n" ++ content ++ "\n\x60\x60\x60\n"

/-- The request to fix the content, given what was found in it. -/
def build (language : Language) (content : String) (snapshot : Snapshot) : String :=
  preamble language.standard ++ requirementList language.requirements ++
    findingList "STATIC ANALYSIS ERRORS" staticError snapshot.staticErrors ++
    findingList "TEST FAILURES" testFailure snapshot.testFailures ++
    codeBlock language.fenceTag content ++ "\n## FIXED CODE:\n"

end Mender.Prompt
