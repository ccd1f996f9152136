/-!
# Search in texts

A text is a list of characters. `rest? pattern text` is what follows the
pattern at the front of the text; `cut? pattern text` parts the text around the
first occurrence; `replaceAll` rewrites every occurrence from left to right.
-/

namespace Mender.Text

/-- What follows `pattern` where the text starts with it. -/
def rest? : List Char → List Char → Option (List Char)
  | [], text => some text
  | _ :: _, [] => none
  | p :: ps, c :: cs => if p = c then rest? ps cs else none

theorem rest?_eq_some_iff {pattern text rest : List Char} :
    rest? pattern text = some rest ↔ text = pattern ++ rest := by
  induction pattern generalizing text with
  | nil => simp [rest?]
  | cons p ps ih =>
    cases text with
    | nil => simp [rest?]
    | cons c cs =>
      by_cases h : p = c
      · subst h
        simp [rest?, ih]
      · simp [rest?, h, Ne.symm h]

@[simp] theorem rest?_append (pattern rest : List Char) :
    rest? pattern (pattern ++ rest) = some rest :=
  rest?_eq_some_iff.2 rfl

def startsWith (pattern text : List Char) : Bool := (rest? pattern text).isSome

/-- The text before and after the first occurrence of `pattern`. -/
def cut? (pattern : List Char) : List Char → Option (List Char × List Char)
  | [] => if pattern.isEmpty then some ([], []) else none
  | c :: cs =>
    match rest? pattern (c :: cs) with
    | some rest => some ([], rest)
    | none => (cut? pattern cs).map fun (before, rest) => (c :: before, rest)

theorem eq_of_cut? {pattern text before rest : List Char}
    (h : cut? pattern text = some (before, rest)) : text = before ++ pattern ++ rest := by
  induction text generalizing before with
  | nil =>
    by_cases hp : pattern.isEmpty
    · simp_all [cut?, List.isEmpty_iff]
    · simp [cut?, hp] at h
  | cons c cs ih =>
    rw [cut?] at h
    split at h
    · next found =>
      cases h
      simpa using rest?_eq_some_iff.1 found
    · obtain ⟨⟨b, r⟩, hc, he⟩ := Option.map_eq_some_iff.1 h
      cases he
      simp [ih hc]

theorem length_of_cut? {pattern text before rest : List Char}
    (h : cut? pattern text = some (before, rest)) :
    rest.length + pattern.length ≤ text.length := by
  rw [eq_of_cut? h]
  simp only [List.length_append]
  omega

def contains (pattern text : List Char) : Bool := (cut? pattern text).isSome

/-- Every occurrence of a pattern, found from left to right, replaced by `value`;
the search goes on behind the inserted text. An empty pattern stands in front of
every character and at the end. -/
def replaceAll (pattern value text : List Char) : List Char :=
  if _empty : pattern = [] then value ++ text.flatMap fun c => c :: value
  else
    match _found : cut? pattern text with
    | none => text
    | some (before, rest) => before ++ value ++ replaceAll pattern value rest
termination_by text.length
decreasing_by
  have := length_of_cut? _found
  have : 0 < pattern.length := List.length_pos_iff.2 _empty
  omega

/-- The parts of a row between the occurrences of a separator. -/
def splitOn {α : Type} [DecidableEq α] (separator : α) : List α → List (List α)
  | [] => [[]]
  | c :: cs =>
    if c = separator then [] :: splitOn separator cs
    else
      match splitOn separator cs with
      | [] => [[c]]
      | part :: parts => (c :: part) :: parts

end Mender.Text
