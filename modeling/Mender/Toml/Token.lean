import Mender.Json.Reader
import Mender.Text.Search

/-!
# Tokens of TOML

A document is cut into quoted strings, unquoted words, marks, blanks and line
ends. Comments leave no token. A carriage return may only stand before a line
feed, and no other control character but the tab may stand anywhere.
-/

namespace Mender.Toml

open Text

inductive Token where
  | lineEnd
  /-- Spaces and tabs. -/
  | blank (cs : List Char)
  | dot
  | equals
  | comma
  | openBracket
  | closeBracket
  | openBrace
  | closeBrace
  /-- Unquoted characters up to the next token. -/
  | word (cs : List Char)
  /-- A quoted string, and whether it is of a form with several lines. -/
  | string (s : String) (multiline : Bool)
  deriving DecidableEq, Repr

/-- A character that may stand in a comment or a string of one line. -/
def isPlain (c : Char) : Bool := c = '\t' || (0x20 ≤ c.toNat && c.toNat ≠ 0x7f)

def isBlankChar (c : Char) : Bool := c = ' ' || c = '\t'

/-- What a one-letter escape stands for. -/
def simpleEscape? : Char → Option Char
  | 'b' => some '\x08'
  | 't' => some '\t'
  | 'n' => some '\n'
  | 'f' => some '\x0c'
  | 'r' => some '\r'
  | 'e' => some '\x1b'
  | '"' => some '"'
  | '\\' => some '\\'
  | _ => none

/-- The character whose number is written in hexadecimal digits. -/
def scalar? (digits : List Char) : Option Char := do
  let values ← digits.mapM Json.hexValue?
  let n := values.foldl (fun n v => 16 * n + v) 0
  if n < 0xd800 || (0xdfff < n && n ≤ 0x10ffff) then some (Char.ofNat n) else none

/-- Whether a backslash at the end of a line is under way: before the line break
only blanks may come, after it blanks and line breaks are skipped. -/
inductive Fold where
  | none
  | beforeBreak
  | afterBreak
  deriving DecidableEq, Repr

/-- Three quotes end a string, and up to two quotes before them belong to it. -/
def closing (quote : Char) (found rest : List Char) : List Char × List Char :=
  match rest with
  | a :: b :: rest' =>
    if a = quote && b = quote then ((quote :: quote :: found).reverse, rest')
    else if a = quote then ((quote :: found).reverse, b :: rest')
    else (found.reverse, rest)
  | [a] => if a = quote then ((quote :: found).reverse, []) else (found.reverse, rest)
  | [] => (found.reverse, [])

/-- Reads the inside of a string between double quotes, the latest character first. -/
def basicBody (multiline : Bool) (fold : Fold) (found : List Char) :
    List Char → Option (List Char × List Char)
  | [] => none
  | '"' :: '"' :: '"' :: rest =>
    if fold = .beforeBreak then none
    else if multiline then some (closing '"' found rest)
    else some (found.reverse, '"' :: '"' :: rest)
  | '"' :: rest =>
    if fold = .beforeBreak then none
    else if multiline then basicBody multiline .none ('"' :: found) rest
    else some (found.reverse, rest)
  | '\\' :: 'x' :: a :: b :: rest =>
    if fold = .beforeBreak then none
    else
      match scalar? [a, b] with
      | some c => basicBody multiline .none (c :: found) rest
      | none => none
  | '\\' :: 'u' :: a :: b :: c :: d :: rest =>
    if fold = .beforeBreak then none
    else
      match scalar? [a, b, c, d] with
      | some c => basicBody multiline .none (c :: found) rest
      | none => none
  | '\\' :: 'U' :: a :: b :: c :: d :: e :: f :: g :: h :: rest =>
    if fold = .beforeBreak then none
    else
      match scalar? [a, b, c, d, e, f, g, h] with
      | some c => basicBody multiline .none (c :: found) rest
      | none => none
  | '\\' :: '\r' :: '\n' :: rest =>
    if !multiline || fold = .beforeBreak then none
    else basicBody multiline .afterBreak found rest
  | '\\' :: e :: rest =>
    if fold = .beforeBreak then none
    else if multiline && e = '\n' then basicBody multiline .afterBreak found rest
    else if multiline && isBlankChar e then basicBody multiline .beforeBreak found rest
    else
      match simpleEscape? e with
      | some c => basicBody multiline .none (c :: found) rest
      | none => none
  | '\r' :: '\n' :: rest =>
    if !multiline then none
    else if fold = .none then basicBody multiline .none ('\n' :: '\r' :: found) rest
    else basicBody multiline .afterBreak found rest
  | c :: rest =>
    if c = '\n' then
      if !multiline then none
      else if fold = .none then basicBody multiline .none ('\n' :: found) rest
      else basicBody multiline .afterBreak found rest
    else if isBlankChar c && fold ≠ .none then basicBody multiline fold found rest
    else if fold = .beforeBreak || !isPlain c || c = '\\' then none
    else basicBody multiline .none (c :: found) rest

/-- Reads the inside of a string between single quotes, the latest character first. -/
def literalBody (multiline : Bool) (found : List Char) :
    List Char → Option (List Char × List Char)
  | [] => none
  | '\'' :: '\'' :: '\'' :: rest =>
    if multiline then some (closing '\'' found rest)
    else some (found.reverse, '\'' :: '\'' :: rest)
  | '\'' :: rest =>
    if multiline then literalBody multiline ('\'' :: found) rest
    else some (found.reverse, rest)
  | '\r' :: '\n' :: rest =>
    if multiline then literalBody multiline ('\n' :: '\r' :: found) rest else none
  | c :: rest =>
    if isPlain c || (multiline && c = '\n') then literalBody multiline (c :: found) rest
    else none

/-- Drops a line break in front, which is no part of a string of several lines. -/
def dropLineBreak : List Char → List Char
  | '\n' :: rest => rest
  | '\r' :: '\n' :: rest => rest
  | text => text

/-- Reads the inside of a string and its end. -/
def stringBody (quote : Char) (multiline : Bool) (text : List Char) :
    Option (List Char × List Char) :=
  if quote = '"' then basicBody multiline .none [] text else literalBody multiline [] text

/-- Reads a string from behind its first quote. -/
def quotedString (quote : Char) (text : List Char) : Option (Token × List Char) :=
  match rest? [quote, quote] text with
  | some rest =>
    (stringBody quote true (dropLineBreak rest)).map fun (cs, rest) =>
      (.string (String.ofList cs) true, rest)
  | none =>
    (stringBody quote false text).map fun (cs, rest) =>
      (.string (String.ofList cs) false, rest)

def mark? : Char → Option Token
  | '\n' => some .lineEnd
  | '.' => some .dot
  | '=' => some .equals
  | ',' => some .comma
  | '[' => some .openBracket
  | ']' => some .closeBracket
  | '{' => some .openBrace
  | '}' => some .closeBrace
  | _ => none

/-- A character of an unquoted word. -/
def isWordPart (c : Char) : Bool :=
  isPlain c && !isBlankChar c && (mark? c).isNone && c ≠ '"' && c ≠ '\'' && c ≠ '#'

/-- The token at the front of a text that starts with the given character;
`none` within for a comment. -/
def token (c : Char) (rest : List Char) : Option (Option Token × List Char) :=
  match mark? c with
  | some mark => some (some mark, rest)
  | none =>
    if c = '\r' then (rest? ['\n'] rest).map (some .lineEnd, ·)
    else if c = '#' then some (none, rest.dropWhile isPlain)
    else if c = '"' || c = '\'' then
      (quotedString c rest).map fun (t, rest) => (some t, rest)
    else if isBlankChar c then
      some (some (.blank (c :: rest.takeWhile isBlankChar)), rest.dropWhile isBlankChar)
    else if isWordPart c then
      some (some (.word (c :: rest.takeWhile isWordPart)), rest.dropWhile isWordPart)
    else none

theorem length_closing {quote : Char} {found rest cs after : List Char}
    (h : closing quote found rest = (cs, after)) : after.length ≤ rest.length := by
  unfold closing at h
  split at h
  · split at h
    · cases h
      simp +arith
    · split at h <;> cases h <;> simp +arith
  · split at h <;> cases h <;> simp
  · cases h
    simp

theorem length_basicBody {multiline : Bool} {fold : Fold} {found text cs rest : List Char}
    (h : basicBody multiline fold found text = some (cs, rest)) : rest.length ≤ text.length := by
  fun_induction basicBody multiline fold found text
  all_goals first
    | (rename_i ih; have k := ih h; simp only [List.length_cons]; omega)
    | (have k := length_closing (Option.some.inj h); simp only [List.length_cons]; omega)
    | (cases h <;> simp)

theorem length_literalBody {multiline : Bool} {found text cs rest : List Char}
    (h : literalBody multiline found text = some (cs, rest)) : rest.length ≤ text.length := by
  fun_induction literalBody multiline found text
  all_goals first
    | (rename_i ih; have k := ih h; simp only [List.length_cons]; omega)
    | (have k := length_closing (Option.some.inj h); simp only [List.length_cons]; omega)
    | (cases h <;> simp)

theorem length_dropLineBreak (text : List Char) :
    (dropLineBreak text).length ≤ text.length := by
  unfold dropLineBreak
  split <;> simp +arith

theorem length_stringBody {quote : Char} {multiline : Bool} {text cs rest : List Char}
    (h : stringBody quote multiline text = some (cs, rest)) : rest.length ≤ text.length := by
  unfold stringBody at h
  split at h
  · exact length_basicBody h
  · exact length_literalBody h

theorem length_quotedString {quote : Char} {text rest : List Char} {t : Token}
    (h : quotedString quote text = some (t, rest)) : rest.length ≤ text.length := by
  unfold quotedString at h
  split at h
  · next found =>
    simp only [Option.map_eq_some_iff, Prod.exists, Prod.mk.injEq] at h
    obtain ⟨_, _, hb, -, rfl⟩ := h
    rw [rest?_eq_some_iff.1 found, List.length_append]
    exact Nat.le_trans (length_stringBody hb) (Nat.le_trans (length_dropLineBreak _) (Nat.le_add_left _ _))
  · simp only [Option.map_eq_some_iff, Prod.exists, Prod.mk.injEq] at h
    obtain ⟨_, _, hb, -, rfl⟩ := h
    exact length_stringBody hb

theorem length_token {c : Char} {rest after : List Char} {t : Option Token}
    (h : token c rest = some (t, after)) : after.length ≤ rest.length := by
  have shorter : ∀ p : Char → Bool, (rest.dropWhile p).length ≤ rest.length :=
    fun p => (List.dropWhile_sublist p).length_le
  unfold token at h
  split at h
  · simp_all
  · split at h
    · simp only [Option.map_eq_some_iff, Prod.mk.injEq] at h
      obtain ⟨r, hr, -, rfl⟩ := h
      rw [rest?_eq_some_iff.1 hr]
      simp
    · split at h
      · cases h
        exact shorter _
      · split at h
        · simp only [Option.map_eq_some_iff, Prod.exists, Prod.mk.injEq] at h
          obtain ⟨_, _, hq, -, rfl⟩ := h
          exact length_quotedString hq
        · split at h
          · cases h
            exact shorter _
          · split at h
            · cases h
              exact shorter _
            · simp at h

/-- Cuts a text into tokens. -/
def tokens? : List Char → Option (List Token)
  | [] => some []
  | c :: rest =>
    match _found : token c rest with
    | none => none
    | some (t, after) => (tokens? after).map (t.toList ++ ·)
termination_by text => text.length
decreasing_by
  have := length_token _found
  simp
  omega

end Mender.Toml
