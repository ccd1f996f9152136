import Mathlib
import Mender.Toml.Printer

/-!
# Quoted strings read back

A string is written in one of four forms, and each is undone by the reader: escapes stand
for what they were made from, and quotes of a row that is too short to end the string belong
to it, also right in front of the three quotes that do.
-/

namespace Mender.Toml

open Text

section Rows

variable {quote : Char} {rest : List Char}

/-- Up to two quotes of a row belong to the string, if a quote does that two more do not follow. -/
theorem row_moved {α : Type} {body : List Char → List Char → α}
    (single : ∀ found rest, (∀ more, rest ≠ quote :: quote :: more) →
      body found (quote :: rest) = body (quote :: found) rest)
    {row : Nat} (short : row ≤ 2) (found : List Char) (other : rest.head? ≠ some quote) :
    body found (List.replicate row quote ++ rest) =
      body (List.replicate row quote ++ found) rest := by
  have ends (more : List Char) : rest ≠ quote :: more := by
    rintro rfl
    exact other rfl
  match row, short with
  | 0, _ => rfl
  | 1, _ => exact single found rest fun more => ends _
  | 2, _ =>
    have first := single found (quote :: rest) fun more same => ends _ (List.cons.inj same).2
    exact first.trans (single (quote :: found) rest fun more => ends _)

/-- Quotes in front of the three that end a string are as good as quotes behind them. -/
theorem replicate_append_ending {row : Nat} (short : row ≤ 2) :
    List.replicate row quote ++ quote :: quote :: quote :: rest =
      quote :: quote :: quote :: (List.replicate row quote ++ rest) := by
  match row, short with
  | 0, _ | 1, _ | 2, _ => rfl

/-- Up to two quotes behind the three that end a string belong to it. -/
theorem closing_replicate {row : Nat} (short : row ≤ 2) (found : List Char)
    (other : rest.head? ≠ some quote) :
    closing quote found (List.replicate row quote ++ rest) =
      (found.reverse ++ List.replicate row quote, rest) := by
  have ends (more : List Char) : rest ≠ quote :: more := by
    rintro rfl
    exact other rfl
  match row, short, rest with
  | 0, _, [] => simp [closing]
  | 0, _, [c] => grind [closing]
  | 0, _, c :: d :: more => grind [closing]
  | 1, _, [] => simp [closing]
  | 1, _, c :: more => grind [closing]
  | 2, _, more => simp [closing]

end Rows

section Basic

variable {multiline : Bool} {found rest : List Char}

theorem basicBody_plain {c : Char} (plain : isPlain c = true) (no_quote : c ≠ '"')
    (no_escape : c ≠ '\\') :
    basicBody multiline .none found (c :: rest) = basicBody multiline .none (c :: found) rest := by
  have no_return : c ≠ '\r' := by
    rintro rfl
    cases plain
  have no_break : c ≠ '\n' := by
    rintro rfl
    cases plain
  rw [basicBody.eq_def]
  split <;> simp_all

theorem basicBody_escape {e c : Char} (stands : simpleEscape? e = some c) :
    basicBody multiline .none found ('\\' :: e :: rest) =
      basicBody multiline .none (c :: found) rest := by
  have other (d : Char) (none : simpleEscape? d = none) : e ≠ d := by
    rintro rfl
    rw [none] at stands
    cases stands
  have no_x := other 'x' rfl
  have no_u := other 'u' rfl
  have no_U := other 'U' rfl
  have no_return := other '\r' rfl
  have no_break := other '\n' rfl
  have no_space := other ' ' rfl
  have no_tab := other '\t' rfl
  have no_blank : isBlankChar e = false := by simp [isBlankChar, no_space, no_tab]
  rw [basicBody]
  · simp [no_break, no_blank, stands]
  all_goals simp_all

theorem basicBody_unicode {a b c d e : Char} (value : scalar? [a, b, c, d] = some e) :
    basicBody multiline .none found ('\\' :: 'u' :: a :: b :: c :: d :: rest) =
      basicBody multiline .none (e :: found) rest := by
  rw [basicBody]
  simp [value]

theorem scalar?_hexDigit {n : Nat} (small : n < 0x80) :
    scalar? ['0', '0', hexDigit (n / 16), hexDigit (n % 16)] = some (Char.ofNat n) := by
  revert n
  decide +kernel

theorem head?_escapedChar {c : Char} (no_quote : c ≠ '"') (rest : List Char) :
    (escapedChar c ++ rest).head? ≠ some '"' := by
  unfold escapedChar
  split_ifs <;> simp_all

/-- A character stands again where its escape stood. -/
theorem basicBody_escapedChar {c : Char} (no_quote : c ≠ '"') :
    basicBody multiline .none found (escapedChar c ++ rest) =
      basicBody multiline .none (c :: found) rest := by
  unfold escapedChar
  split_ifs with h1 h2 h3 h4 h5 h6
  · subst h1
    exact basicBody_escape rfl
  · subst h2
    exact basicBody_escape rfl
  · subst h3
    exact basicBody_escape rfl
  · subst h4
    exact basicBody_escape rfl
  · subst h5
    exact basicBody_escape rfl
  · have small : c.toNat < 0x20 ∨ c.toNat = 0x7f := by simpa using h6
    have value := scalar?_hexDigit (n := c.toNat) (by omega)
    rw [Char.ofNat_toNat] at value
    exact basicBody_unicode value
  · have large : 0x20 ≤ c.toNat ∧ c.toNat ≠ 0x7f := by simpa using h6
    have plain : isPlain c = true := by simp [isPlain, large.1, large.2]
    exact basicBody_plain plain no_quote h5

theorem basicBody_end : basicBody false .none found ('"' :: rest) = some (found.reverse, rest) := by
  by_cases two : ∃ more, rest = '"' :: '"' :: more
  · obtain ⟨more, rfl⟩ := two
    rfl
  · rw [basicBody]
    · rfl
    · simpa using two

/-- The inside of a line between double quotes is read up to the quote that ends it. -/
theorem basicBody_line (text found rest : List Char) :
    basicBody false .none found (escapedLine text ++ '"' :: rest) =
      some (found.reverse ++ text, rest) := by
  induction text generalizing found with
  | nil =>
    rw [List.append_nil]
    exact basicBody_end
  | cons c text ih =>
    have later : basicBody false .none (c :: found) (escapedLine text ++ '"' :: rest) =
        some (found.reverse ++ c :: text, rest) := by
      rw [ih]
      simp
    rw [escapedLine, List.flatMap_cons, List.append_assoc, ← escapedLine, ← later]
    split_ifs with h1 h2
    · subst h1
      exact basicBody_escape rfl
    · subst h2
      exact basicBody_escape rfl
    · exact basicBody_escapedChar h1

theorem basicBody_quotes {row : Nat} (short : row ≤ 2) (found : List Char)
    (other : rest.head? ≠ some '"') :
    basicBody true .none found (List.replicate row '"' ++ rest) =
      basicBody true .none (List.replicate row '"' ++ found) rest := by
  refine row_moved (fun found rest free => ?_) short found other
  rw [basicBody]
  · rfl
  · simpa using free

/-- The inside of lines between three quotes is read up to the quotes that end it; `row` quotes
in front of it are still to be read. -/
theorem basicBody_lines (text : List Char) (row : Nat) (short : row ≤ 2) (found : List Char)
    (other : rest.head? ≠ some '"') :
    basicBody true .none found
        (List.replicate row '"' ++ (escapedLines row text ++ '"' :: '"' :: '"' :: rest)) =
      some (found.reverse ++ List.replicate row '"' ++ text, rest) := by
  induction text generalizing row found with
  | nil =>
    rw [escapedLines, List.nil_append, replicate_append_ending short, List.append_nil,
      ← closing_replicate short found other]
    rfl
  | cons c text ih =>
    by_cases quote : c = '"'
    · subst quote
      by_cases third : row = 2
      · subst third
        have later := ih 0 (Nat.zero_le 2) ('"' :: (List.replicate 2 '"' ++ found))
        rw [escapedLines, if_pos rfl, if_pos rfl, List.cons_append, basicBody_quotes le_rfl found
          (by simp)]
        exact (basicBody_escape rfl).trans (later.trans (by simp))
      · have later := ih (row + 1) (by omega) found
        rw [escapedLines, if_pos rfl, if_neg third]
        simpa [List.replicate_succ'] using later
    · have later := ih 0 (Nat.zero_le 2) (c :: (List.replicate row '"' ++ found))
      have reached : some ((c :: (List.replicate row '"' ++ found)).reverse ++
          List.replicate 0 '"' ++ text, rest) =
            some (found.reverse ++ List.replicate row '"' ++ c :: text, rest) := by
        simp
      rw [escapedLines, if_neg quote, List.append_assoc, ← reached, ← later]
      split_ifs with line_break
      · subst line_break
        rw [basicBody_quotes short found (by simp)]
        rfl
      · rw [basicBody_quotes short found (head?_escapedChar quote _)]
        exact basicBody_escapedChar quote

end Basic

section Literal

variable {found rest : List Char}

theorem literalBody_plain {multiline : Bool} {c : Char}
    (plain : isPlain c = true ∨ (multiline = true ∧ c = '\n')) (no_quote : c ≠ '\'') :
    literalBody multiline found (c :: rest) = literalBody multiline (c :: found) rest := by
  have no_return : c ≠ '\r' := by
    rintro rfl
    rcases plain with plain | ⟨-, other⟩
    · cases plain
    · cases other
  have taken : (isPlain c || (multiline && c = '\n')) = true := by simpa using plain
  rw [literalBody]
  · rw [if_pos taken]
  all_goals simp_all

/-- The inside of a line between single quotes is read up to the quote that ends it. -/
theorem literalBody_line {text : List Char} (plain : ∀ c ∈ text, isPlain c = true)
    (no_quote : '\'' ∉ text) (found rest : List Char) :
    literalBody false found (text ++ '\'' :: rest) = some (found.reverse ++ text, rest) := by
  induction text generalizing found with
  | nil =>
    rw [List.nil_append, List.append_nil]
    by_cases two : ∃ more, rest = '\'' :: '\'' :: more
    · obtain ⟨more, rfl⟩ := two
      rfl
    · rw [literalBody]
      · rfl
      · simpa using two
  | cons c text ih =>
    have later := ih (fun d mem => plain d (List.mem_cons_of_mem c mem))
      (fun mem => no_quote (List.mem_cons_of_mem c mem)) (c :: found)
    have other : c ≠ '\'' := fun same => no_quote (same ▸ List.mem_cons_self)
    rw [List.cons_append, literalBody_plain (.inl (plain c List.mem_cons_self)) other, later]
    simp

/-- No row of the quote is longer than two; `row` of them stand in front. -/
def FitsBetween (quote : Char) (row : Nat) : List Char → Prop
  | [] => row ≤ 2
  | c :: cs => if c = quote then FitsBetween quote (row + 1) cs else row ≤ 2 ∧ FitsBetween quote 0 cs

theorem fitsBetween_of_longestRow {quote : Char} {text : List Char}
    (short : longestRow quote text ≤ 2) : FitsBetween quote 0 text := by
  have fits (text : List Char) (longest row : Nat) (le : row ≤ longest)
      (short : (text.foldl (fun found d =>
        if d = quote then (max found.1 (found.2 + 1), found.2 + 1) else (found.1, 0))
          (longest, row)).1 ≤ 2) : longest ≤ 2 ∧ FitsBetween quote row text := by
    induction text generalizing longest row with
    | nil => exact ⟨short, le_trans le short⟩
    | cons c text ih =>
      rw [List.foldl_cons] at short
      rw [FitsBetween]
      split_ifs at short ⊢ with same
      · obtain ⟨bound, fits⟩ := ih _ _ (le_max_right _ _) short
        exact ⟨le_trans (le_max_left _ _) bound, fits⟩
      · obtain ⟨bound, fits⟩ := ih _ _ (Nat.zero_le _) short
        exact ⟨bound, le_trans le bound, fits⟩
  exact (fits text 0 0 le_rfl short).2

theorem literalBody_quotes {row : Nat} (short : row ≤ 2) (found : List Char)
    (other : rest.head? ≠ some '\'') :
    literalBody true found (List.replicate row '\'' ++ rest) =
      literalBody true (List.replicate row '\'' ++ found) rest := by
  refine row_moved (fun found rest free => ?_) short found other
  rw [literalBody]
  · rfl
  · simpa using free

/-- The inside of lines between three single quotes is read up to the quotes that end it; `row`
quotes in front of it are still to be read. -/
theorem literalBody_lines {text : List Char}
    (plain : ∀ c ∈ text, isPlain c = true ∨ c = '\n') {row : Nat}
    (fits : FitsBetween '\'' row text) (found : List Char) (other : rest.head? ≠ some '\'') :
    literalBody true found
        (List.replicate row '\'' ++ (text ++ '\'' :: '\'' :: '\'' :: rest)) =
      some (found.reverse ++ List.replicate row '\'' ++ text, rest) := by
  induction text generalizing row found with
  | nil =>
    have short : row ≤ 2 := fits
    rw [List.nil_append, replicate_append_ending short, List.append_nil,
      ← closing_replicate short found other]
    rfl
  | cons c text ih =>
    have plain' : ∀ d ∈ text, isPlain d = true ∨ d = '\n' :=
      fun d mem => plain d (List.mem_cons_of_mem c mem)
    rw [FitsBetween] at fits
    split_ifs at fits with quote
    · subst quote
      have later := ih plain' fits found
      simpa [List.replicate_succ'] using later
    · have later := ih plain' fits.2 (c :: (List.replicate row '\'' ++ found))
      have here : isPlain c = true ∨ (true = true ∧ c = '\n') := by
        simpa using plain c List.mem_cons_self
      rw [List.cons_append, literalBody_quotes fits.1 found (by simpa using quote),
        literalBody_plain here quote]
      exact later.trans (by simp)

end Literal

section Forms

variable {quote : Char} {inside text rest : List Char}

theorem quotedString_line (starts : ∀ more, inside ++ rest ≠ quote :: quote :: more)
    (read : stringBody quote false (inside ++ rest) = some (text, rest)) :
    quotedString quote (inside ++ rest) = some (.string (String.ofList text) false, rest) := by
  have single : rest? [quote, quote] (inside ++ rest) = none := by
    cases found : rest? [quote, quote] (inside ++ rest) with
    | none => rfl
    | some more => exact absurd (rest?_eq_some_iff.mp found) (starts more)
  rw [quotedString, single]
  dsimp only
  rw [read]
  rfl

theorem dropLineBreak_of_head (no_break : text.head? ≠ some '\n')
    (no_return : text.head? ≠ some '\r') : dropLineBreak text = text := by
  unfold dropLineBreak
  split <;> simp_all

/-- A text between three quotes on each side is read without the line break in front. -/
theorem quotedString_tripled (hasBreak : Bool)
    (starts : hasBreak = false → inside.head? ≠ some '\n' ∧ inside.head? ≠ some '\r')
    (isQuote : quote = '"' ∨ quote = '\'')
    (read : stringBody quote true (inside ++ quote :: quote :: quote :: rest) =
      some (text, rest)) :
    ∃ more, tripled quote hasBreak inside = quote :: more ∧
      quotedString quote (more ++ rest) = some (.string (String.ofList text) true, rest) := by
  refine ⟨_, rfl, ?_⟩
  have parts : rest? [quote, quote] ([quote, quote] ++ ((if hasBreak then ['\n'] else []) ++
      inside ++ [quote, quote, quote]) ++ rest) =
        some ((if hasBreak then ['\n'] else []) ++ (inside ++ quote :: quote :: quote :: rest)) := by
    rw [rest?_eq_some_iff]
    simp
  have dropped : dropLineBreak ((if hasBreak then ['\n'] else []) ++
      (inside ++ quote :: quote :: quote :: rest)) = inside ++ quote :: quote :: quote :: rest := by
    cases hasBreak with
    | true => rfl
    | false =>
      obtain ⟨no_break, no_return⟩ := starts rfl
      apply dropLineBreak_of_head
      · rcases isQuote with rfl | rfl <;> cases inside <;> simp_all
      · rcases isQuote with rfl | rfl <;> cases inside <;> simp_all
  change quotedString quote ([quote, quote] ++ ((if hasBreak then ['\n'] else []) ++
      inside ++ [quote, quote, quote]) ++ rest) = _
  rw [quotedString, parts]
  dsimp only
  rw [dropped, read]
  rfl

end Forms

/-- A character that no escape has to stand for. -/
theorem isPlain_of_not_control {c : Char} (free : isControl c = false) :
    isPlain c = true ∨ c = '\n' := by
  simp only [isControl, Bool.or_eq_false_iff, Bool.and_eq_false_iff, decide_eq_false_iff_not,
    ne_eq, not_not] at free
  simp only [isPlain, Bool.or_eq_true, Bool.and_eq_true, decide_eq_true_eq]
  grind

theorem head?_escapedLine (text : List Char) {rest : List Char} (other : rest.head? ≠ some '"') :
    ∀ more, escapedLine text ++ '"' :: rest ≠ '"' :: '"' :: more := by
  intro more same
  cases text with
  | nil =>
    cases same
    exact other rfl
  | cons c text =>
    rw [escapedLine, List.flatMap_cons, List.append_assoc] at same
    split_ifs at same with h1 h2
    · cases same
    · cases same
    · exact head?_escapedChar h1 _ (by rw [same]; rfl)

theorem head?_escapedLines {text : List Char} (control : ∀ c ∈ text, isControl c = false)
    (no_break : '\n' ∉ text) :
    (escapedLines 0 text).head? ≠ some '\n' ∧ (escapedLines 0 text).head? ≠ some '\r' := by
  cases text with
  | nil => simp [escapedLines]
  | cons c text =>
    have no_return : c ≠ '\r' := by
      rintro rfl
      cases control '\r' List.mem_cons_self
    have other : c ≠ '\n' := fun same => no_break (same ▸ List.mem_cons_self)
    rw [escapedLines]
    unfold escapedChar
    split_ifs <;> simp_all

theorem quotedString_basicLine (text : List Char) {rest : List Char}
    (other : rest.head? ≠ some '"') :
    quotedString '"' ((escapedLine text ++ ['"']) ++ rest) =
      some (.string (String.ofList text) false, rest) := by
  have read : stringBody '"' false ((escapedLine text ++ ['"']) ++ rest) = some (text, rest) := by
    rw [List.append_assoc]
    exact basicBody_line text [] rest
  refine quotedString_line (fun more => ?_) read
  rw [List.append_assoc]
  exact head?_escapedLine text other more

theorem quotedString_literalLine {text rest : List Char} (plain : ∀ c ∈ text, isPlain c = true)
    (no_quote : '\'' ∉ text) (other : rest.head? ≠ some '\'') :
    quotedString '\'' ((text ++ ['\'']) ++ rest) =
      some (.string (String.ofList text) false, rest) := by
  have read : stringBody '\'' false ((text ++ ['\'']) ++ rest) = some (text, rest) := by
    rw [List.append_assoc]
    exact literalBody_line plain no_quote [] rest
  refine quotedString_line (fun more same => ?_) read
  cases text with
  | nil =>
    cases same
    exact other rfl
  | cons c text =>
    have first : c = '\'' := (List.cons.inj same).1
    exact no_quote (first ▸ List.mem_cons_self)

/-- A string is read back in whatever form it is written. -/
theorem quotedString_quoted (text : List Char) {rest : List Char}
    (no_double : rest.head? ≠ some '"') (no_single : rest.head? ≠ some '\'') :
    ∃ quote inside multiline, quoted text = quote :: inside ∧ (quote = '"' ∨ quote = '\'') ∧
      quotedString quote (inside ++ rest) =
        some (.string (String.ofList text) multiline, rest) := by
  have lines : stringBody '"' true (escapedLines 0 text ++ '"' :: '"' :: '"' :: rest) =
      some (text, rest) := basicBody_lines text 0 (Nat.zero_le 2) [] no_double
  have line := quotedString_basicLine text no_double
  have free : (!text.any isControl) = true → ∀ c ∈ text, isControl c = false := by simp
  have unbroken : text.contains '\n' = false → '\n' ∉ text := by simp
  unfold quoted
  extract_lets hasControl hasBreak hasEscape
  split_ifs with h1 h2 h3 h4 h5
  · exact ⟨'"', _, false, rfl, .inl rfl, line⟩
  · simp only [Bool.and_eq_true] at h2
    obtain ⟨⟨control, one_line⟩, no_quote⟩ := h2
    have no_quote : '\'' ∉ text := by simpa using no_quote
    have one_line : '\n' ∉ text := unbroken ((Bool.not_eq_true' hasBreak).mp one_line)
    have plain : ∀ c ∈ text, isPlain c = true := fun c mem =>
      (isPlain_of_not_control (free control c mem)).resolve_right fun same => one_line (same ▸ mem)
    exact ⟨'\'', _, false, rfl, .inr rfl, quotedString_literalLine plain no_quote no_single⟩
  · simp only [Bool.and_eq_true] at h3
    have starts (one_line : hasBreak = false) := head?_escapedLines (free h3.1.1) (unbroken one_line)
    obtain ⟨more, shape, read⟩ := quotedString_tripled hasBreak starts (.inl rfl) lines
    exact ⟨'"', more, true, shape, .inl rfl, read⟩
  · simp only [Bool.and_eq_true, decide_eq_true_eq] at h4
    have control := free h4.1
    have starts (one_line : hasBreak = false) :
        text.head? ≠ some '\n' ∧ text.head? ≠ some '\r' := by
      constructor
      · intro first
        exact unbroken one_line (List.mem_of_mem_head? first)
      · intro first
        cases control '\r' (List.mem_of_mem_head? first)
    have read : stringBody '\'' true (text ++ '\'' :: '\'' :: '\'' :: rest) = some (text, rest) :=
      literalBody_lines (fun c mem => isPlain_of_not_control (control c mem))
        (fitsBetween_of_longestRow h4.2) [] no_single
    obtain ⟨more, shape, read⟩ := quotedString_tripled hasBreak starts (.inr rfl) read
    exact ⟨'\'', more, true, shape, .inr rfl, read⟩
  · obtain ⟨more, shape, read⟩ := quotedString_tripled true nofun (.inl rfl) lines
    exact ⟨'"', more, true, shape, .inl rfl, read⟩
  · exact ⟨'"', _, false, rfl, .inl rfl, line⟩

end Mender.Toml
