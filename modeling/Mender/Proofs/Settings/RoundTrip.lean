import Mender.Proofs.Disk.Rename
import Mender.Proofs.Filing
import Mender.Proofs.Settings.Documents
import Mender.Settings.File

/-!
# Settings saved and loaded

Saving settings writes their text, and loading reads them back from it. On a disk without links
what is loaded after saving is what was saved.
-/

namespace Mender

namespace Settings

open scoped Mender.Path

variable {s : Settings} {disk disk' : Disk} {path : Path}

/-- What is loaded is the text that is at the path, if it is of use. -/
theorem load_eq {text : String} (holds : disk.readText path = .ok text) :
    load disk path =
      match ofText? text with
      | none =>
        .error ((Failure.ofCause (.malformed .settings text)).within ("parse " ++ path.shown))
      | some read => read.validate.map fun _ => read := by
  have there : disk.pathExists path = true := by
    unfold Disk.readText Disk.read at holds
    cases found : disk.find path with
    | error e =>
      rw [found] at holds
      cases holds
    | ok place =>
      rw [Disk.pathExists, found]
      rfl
  rw [load, there, holds]
  simp only [Bool.not_true, Bool.false_eq_true, if_false]
  cases ofText? text with
  | none => rfl
  | some read =>
    simp only
    cases read.validate <;> rfl

/-- Settings that are valid are loaded from wherever their text is. -/
theorem load_of_readText (valid : s.validate = .ok ()) (holds : disk.readText path = .ok s.text) :
    load disk path = .ok s := by
  rw [load_eq holds, ofText?_text]
  simp only [valid]
  rfl

/-- What saving does: it makes the directory, writes the text beside the file and puts it in
its place. -/
structure Saved (s : Settings) (path : Path) (disk made written disk' : Disk) : Prop where
  grown : disk.Grows made
  wrote : made.write (temporary path) (Utf8.encode s.text) = .ok written
  renamed : written.rename (temporary path) path = .ok disk'

theorem saved_of_save (h : save path s disk = (.ok (), disk')) :
    ∃ made written, Saved s path disk made written disk' := by
  obtain ⟨_, checked, validated, filed⟩ := ok_of_bind h
  have untouched : checked = disk := by
    cases valid : s.validate with
    | error e =>
      rw [valid] at validated
      cases validated
    | ok =>
      rw [valid] at validated
      cases validated
      rfl
  subst untouched
  cases above : Path.parent? path with
  | none =>
    rw [above] at filed
    cases filed
  | some parent =>
    rw [above] at filed
    obtain ⟨_, made, making, filed⟩ := ok_of_bind filed
    obtain ⟨_, written, writing, moving⟩ := ok_of_bind filed
    have wrote := Filing.ok_of_writeText writing
    have renamed := Filing.ok_of_change moving
    exact ⟨made, written, Filing.grows_of_makeDirectories making, wrote, renamed⟩

/-- Without links, the file written beside is the one put in place. -/
theorem Saved.readText {made written : Disk} (saved : Saved s path disk made written disk')
    (linkless : disk.Linkless) (homed : disk.Homed)
    (ordinary : ∀ special, disk.at? (disk.lexical (temporary path)) ≠ some (.special special)) :
    disk'.readText path = .ok s.text := by
  have place := saved.grown.lexical_eq (temporary path)
  have still_ordinary (special : Special) :
      made.at? (made.lexical (temporary path)) ≠ some (.special special) := by
    intro there
    have grown := saved.grown.entry (disk.lexical (temporary path))
    rw [place] at there
    rw [there] at grown
    generalize here : disk.at? (disk.lexical (temporary path)) = e at grown
    cases grown
    exact ordinary special here
  obtain ⟨m, executable, found⟩ := Disk.find_of_write_rename (linkless.grow saved.grown)
    (homed.grow saved.grown) still_ordinary saved.wrote saved.renamed
  exact Disk.readText_of_find found

/-- Valid settings read back from their text, wherever it is, and it is their text that saving
writes; on a disk without links, loading after saving gives the settings that were saved. -/
theorem load_of_save (valid : s.validate = .ok ()) :
    ofText? s.text = some s ∧
      (∀ disk path, disk.readText path = .ok s.text → load disk path = .ok s) ∧
      (∀ disk path disk', save path s disk = (.ok (), disk') →
        ∃ made written, Saved s path disk made written disk') ∧
      ∀ disk path disk', disk.Linkless → disk.Homed →
        (∀ special, disk.at? (disk.lexical (temporary path)) ≠ some (.special special)) →
          save path s disk = (.ok (), disk') → load disk' path = .ok s := by
  refine ⟨s.ofText?_text, fun disk path => load_of_readText valid, fun disk path disk' =>
    saved_of_save, ?_⟩
  intro disk path disk' linkless homed ordinary h
  obtain ⟨made, written, saved⟩ := saved_of_save h
  exact load_of_readText valid (saved.readText linkless homed ordinary)

/-- A disk with one file. -/
def diskOf (text : String) : Disk := ⟨[(["c"], .file (Utf8.encode text) false)], [], []⟩

theorem readText_diskOf (text : String) : (diskOf text).readText "/c" = .ok text := by
  have found (data : Bytes) : Disk.find ⟨[(["c"], .file data false)], [], []⟩ "/c" =
      .ok (["c"], .file data false) := by cbv
  exact Disk.readText_of_find (found (Utf8.encode text))

/-- Settings with strings that take every form there is. -/
def unusual : Settings where
  maxIterations := 4294967295
  processTimeoutSecs := 18446744073709551615
  outputLimitBytes := 1
  auditDir? := some "a\"b\\c"
  tools :=
    { Tools.default with
      rewriter := ⟨"'\"", []⟩
      analyzer := ⟨"\"\"\"'''\n\\\r", ["", "\t"]⟩
      tests := ⟨"\x00\x7f", ["\n"]⟩ }
  analyzer := .default
  oracle := { OracleOptions.default with baseUrl? := some "" }
  language := { Language.default with fenceTag := "'''\n\"\"\"\"" }

theorem load_of_save_unusual :
    unusual.validate = .ok () ∧ load (diskOf unusual.text) "/c" = .ok unusual := by
  have valid : unusual.validate = .ok () := by rfl
  obtain ⟨-, loaded, -⟩ := load_of_save valid
  exact ⟨valid, loaded _ _ (readText_diskOf _)⟩

end Settings

end Mender
