import Mender.Finding
import Mender.Json.Reader
import Mender.Text.Utf8

/-!
# Reports of the static analyzer

A report is a JSON object whose `files` map each file name to an object with an
array of `messages`. Every element of such an array is one finding, files in key
order; what an element does not say properly gets a default. Anything else is a
report without findings.
-/

namespace Mender.AnalyzerReport

open Mender

def unknownError : String := "Unknown error"

/-- The finding that one message stands for. -/
def finding (file : String) (message : Json) : Finding :=
  let line := ((message.field? "line").bind Json.nat?).filter (· < UInt32.size)
  .staticError file (UInt32.ofNat (line.getD 0))
    (((message.field? "message").bind Json.text?).getD unknownError)
    (((message.field? "ignorable").bind Json.bool?).getD false)

/-- The findings of one file. -/
def fileFindings (file : String) (entry : Json) : List Finding :=
  (((entry.field? "messages").bind Json.items?).getD []).map (finding file)

/-- The findings of a report that has been read. -/
def findings (report : Json) : List Finding :=
  (((report.field? "files").bind Json.sortedFields?).getD []).flatMap fun (file, entry) =>
    fileFindings file entry

/-- The findings in the text of a report. -/
def ofText (text : List Char) : List Finding :=
  match Json.stored? (Text.trim text) with
  | some report => findings report
  | none => []

/-- The findings in what the analyzer wrote. -/
def parse (output : Bytes) : List Finding := ofText (Utf8.decodeLossy output).toList

end Mender.AnalyzerReport
