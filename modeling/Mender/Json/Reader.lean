import Mender.Json.Basic
import Mender.Text.Search

/-!
# Reading JSON

The text is cut into tokens, and the tokens drive an automaton whose stack holds
the arrays and objects that are still open. Only space, tab, line feed and
carriage return stand between tokens; nothing may follow the value.
-/

namespace Mender.Json

inductive Token where
  | openBrace
  | closeBrace
  | openBracket
  | closeBracket
  | colon
  | comma
  | null
  | bool (b : Bool)
  | number (n : Numeral)
  | string (s : Option String)
  deriving DecidableEq, Repr

def isSpace (c : Char) : Bool := c = ' ' || c = '\t' || c = '\n' || c = '\r'

def hexValue? (c : Char) : Option Nat :=
  if '0' ≤ c && c ≤ '9' then some (c.toNat - '0'.toNat)
  else if 'a' ≤ c && c ≤ 'f' then some (c.toNat - 'a'.toNat + 10)
  else if 'A' ≤ c && c ≤ 'F' then some (c.toNat - 'A'.toNat + 10)
  else none

/-- The value of four hexadecimal digits. -/
def hex4? (a b c d : Char) : Option Nat := do
  let a ← hexValue? a
  let b ← hexValue? b
  let c ← hexValue? c
  let d ← hexValue? d
  return ((a * 16 + b) * 16 + c) * 16 + d

/-- What a one-letter escape stands for. -/
def simpleEscape? : Char → Option Char
  | '"' => some '"'
  | '\\' => some '\\'
  | '/' => some '/'
  | 'b' => some '\x08'
  | 'f' => some '\x0c'
  | 'n' => some '\n'
  | 'r' => some '\r'
  | 't' => some '\t'
  | _ => none

def isHighSurrogate (n : Nat) : Bool := 0xd800 ≤ n && n ≤ 0xdbff

def isLowSurrogate (n : Nat) : Bool := 0xdc00 ≤ n && n ≤ 0xdfff

def ofSurrogates (high low : Nat) : Char :=
  Char.ofNat (0x10000 + (high - 0xd800) * 0x400 + (low - 0xdc00))

/-- A character of a string, or a 16-bit unit given by its number. -/
inductive Piece where
  | char (c : Char)
  | unit (n : Nat)
  deriving DecidableEq, Repr

/-- Reads the inside of a string up to its closing quote, the latest piece first. -/
def stringPieces (found : List Piece) : List Char → Option (List Piece × List Char)
  | [] => none
  | '"' :: rest => some (found, rest)
  | '\\' :: 'u' :: a :: b :: c :: d :: rest =>
    match hex4? a b c d with
    | some n => stringPieces (.unit n :: found) rest
    | none => none
  | '\\' :: e :: rest =>
    match simpleEscape? e with
    | some c => stringPieces (.char c :: found) rest
    | none => none
  | c :: rest =>
    if c.toNat < 0x20 || c = '\\' then none else stringPieces (.char c :: found) rest

/-- Takes in the next piece: the high surrogate that waits for its partner and
the characters so far, the latest first, `none` after half of a pair. -/
def joinPiece : Option Nat × Option (List Char) → Piece → Option Nat × Option (List Char)
  | (some high, found), .unit n =>
    if isLowSurrogate n then (none, found.map (ofSurrogates high n :: ·))
    else (if isHighSurrogate n then some n else none, none)
  | (some _, _), .char _ => (none, none)
  | (none, found), .char c => (none, found.map (c :: ·))
  | (none, found), .unit n =>
    if isHighSurrogate n then (some n, found)
    else if isLowSurrogate n then (none, none)
    else (none, found.map (Char.ofNat n :: ·))

/-- The text of a row of pieces, unless it holds half of a surrogate pair. -/
def joinPieces (pieces : List Piece) : Option String :=
  match pieces.foldl joinPiece (none, some []) with
  | (none, found) => found.map fun cs => String.ofList cs.reverse
  | (some _, _) => none

/-- Reads what follows the opening quote of a string. -/
def stringBody (text : List Char) : Option (Option String × List Char) :=
  (stringPieces [] text).map fun (pieces, rest) => (joinPieces pieces.reverse, rest)

/-- Parts the digits in front from the rest. -/
def takeDigits (text : List Char) : List Char × List Char :=
  (text.takeWhile Text.isDigit, text.dropWhile Text.isDigit)

/-- The whole part: a zero, or digits that do not start with one. -/
def wholePart (text : List Char) : Option (Nat × List Char) :=
  match takeDigits text with
  | ([], _) => none
  | (['0'], rest) => some (0, rest)
  | ('0' :: _, _) => none
  | (digits, rest) => some (Decimal.value digits, rest)

def fractionPart (text : List Char) : Option (List Char × List Char) :=
  match text with
  | '.' :: text =>
    match takeDigits text with
    | ([], _) => none
    | (digits, rest) => some (digits, rest)
  | _ => some ([], text)

def exponentDigits (negative : Bool) (text : List Char) : Option (Option Int × List Char) :=
  match takeDigits text with
  | ([], _) => none
  | (digits, rest) =>
    let power : Int := Decimal.value digits
    some (some (if negative then -power else power), rest)

def exponentPart (text : List Char) : Option (Option Int × List Char) :=
  match text with
  | c :: text' =>
    if c = 'e' || c = 'E' then
      match text' with
      | '+' :: digits => exponentDigits false digits
      | '-' :: digits => exponentDigits true digits
      | digits => exponentDigits false digits
    else some (none, text)
  | [] => some (none, [])

/-- Reads a number without its sign. -/
def magnitude (negative : Bool) (text : List Char) : Option (Numeral × List Char) := do
  let (whole, text) ← wholePart text
  let (fraction, text) ← fractionPart text
  let (exponent, text) ← exponentPart text
  return (⟨negative, whole, fraction, exponent⟩, text)

/-- Reads a number that starts with the given character. -/
def numeral (c : Char) (rest : List Char) : Option (Numeral × List Char) :=
  if c = '-' then magnitude true rest else magnitude false (c :: rest)

def punctuation? : Char → Option Token
  | '{' => some .openBrace
  | '}' => some .closeBrace
  | '[' => some .openBracket
  | ']' => some .closeBracket
  | ':' => some .colon
  | ',' => some .comma
  | _ => none

/-- The words of the language, by the first letter. -/
def word? : Char → Option (List Char × Token)
  | 't' => some (['r', 'u', 'e'], .bool true)
  | 'f' => some (['a', 'l', 's', 'e'], .bool false)
  | 'n' => some (['u', 'l', 'l'], .null)
  | _ => none

/-- The token that starts with a character which is no space. -/
def token (c : Char) (rest : List Char) : Option (Token × List Char) :=
  match punctuation? c with
  | some mark => some (mark, rest)
  | none =>
    match word? c with
    | some (letters, word) => (Text.rest? letters rest).map (word, ·)
    | none =>
      if c = '"' then (stringBody rest).map fun (s, rest) => (.string s, rest)
      else (numeral c rest).map fun (n, rest) => (.number n, rest)

theorem length_stringPieces {found pieces : List Piece} {text rest : List Char}
    (h : stringPieces found text = some (pieces, rest)) : rest.length < text.length := by
  fun_induction stringPieces found text with
  | case1 => simp at h
  | case2 => simp_all
  | case3 _ _ _ _ _ _ _ _ ih => have := ih h; simp; omega
  | case4 => simp at h
  | case5 _ _ _ _ _ _ ih => have := ih h; simp; omega
  | case6 => simp at h
  | case7 => simp at h
  | case8 _ _ _ _ _ _ _ ih => have := ih h; simp; omega

theorem length_takeDigits (text : List Char) : (takeDigits text).2.length ≤ text.length :=
  (List.dropWhile_sublist _).length_le

theorem length_wholePart {text rest : List Char} {n : Nat}
    (h : wholePart text = some (n, rest)) : rest.length < text.length := by
  have parts : (takeDigits text).1 ++ (takeDigits text).2 = text :=
    List.takeWhile_append_dropWhile
  have total := congrArg List.length parts
  rw [List.length_append] at total
  unfold wholePart at h
  split at h
  · simp at h
  · next found =>
    rw [found] at total
    obtain ⟨-, rfl⟩ := by simpa using h
    simp at total
    omega
  · simp at h
  · next nonempty _ _ found =>
    rw [found] at total
    obtain ⟨-, rfl⟩ := by simpa using h
    have := List.length_pos_iff.2 nonempty
    simp at total
    omega

theorem length_fractionPart {text rest digits : List Char}
    (h : fractionPart text = some (digits, rest)) : rest.length ≤ text.length := by
  unfold fractionPart at h
  split at h
  · next tail =>
    have := length_takeDigits tail
    split at h <;> simp_all
    omega
  · simp_all

theorem length_exponentDigits {negative : Bool} {text rest : List Char} {e : Option Int}
    (h : exponentDigits negative text = some (e, rest)) : rest.length ≤ text.length := by
  have := length_takeDigits text
  unfold exponentDigits at h
  split at h <;> simp_all

theorem length_exponentPart {text rest : List Char} {e : Option Int}
    (h : exponentPart text = some (e, rest)) : rest.length ≤ text.length := by
  unfold exponentPart at h
  split at h
  · split at h
    · split at h <;> have := length_exponentDigits h <;> simp_all <;> omega
    · simp_all
  · simp_all

theorem length_magnitude {negative : Bool} {text rest : List Char} {n : Numeral}
    (h : magnitude negative text = some (n, rest)) : rest.length < text.length := by
  unfold magnitude at h
  simp only [Option.bind_eq_bind, Option.bind_eq_some_iff, Prod.exists, Option.pure_def,
    Option.some.injEq, Prod.mk.injEq] at h
  obtain ⟨_, _, hw, _, _, hf, _, _, he, _, rfl⟩ := h
  have := length_wholePart hw
  have := length_fractionPart hf
  have := length_exponentPart he
  omega

theorem length_token {c : Char} {rest after : List Char} {t : Token}
    (h : token c rest = some (t, after)) : after.length ≤ rest.length := by
  unfold token at h
  split at h
  · simp_all
  · split at h
    · simp only [Option.map_eq_some_iff, Prod.mk.injEq] at h
      obtain ⟨r, hr, _, rfl⟩ := h
      rw [Text.rest?_eq_some_iff.1 hr]
      simp
    · split at h
      · simp only [Option.map_eq_some_iff, Prod.exists, Prod.mk.injEq, stringBody] at h
        obtain ⟨_, _, ⟨_, _, hs, _, rfl⟩, _, rfl⟩ := h
        exact Nat.le_of_lt (length_stringPieces hs)
      · simp only [Option.map_eq_some_iff, Prod.exists, Prod.mk.injEq, numeral] at h
        obtain ⟨_, _, hn, _, rfl⟩ := h
        split at hn
        · exact Nat.le_of_lt (length_magnitude hn)
        · exact Nat.le_of_lt_succ (length_magnitude hn)

/-- Cuts a text into tokens. -/
def tokens? : List Char → Option (List Token)
  | [] => some []
  | c :: rest =>
    if isSpace c then tokens? rest
    else
      match _found : token c rest with
      | none => none
      | some (t, after) => (tokens? after).map (t :: ·)
termination_by text => text.length
decreasing_by
  · simp
  · have := length_token _found
    simp
    omega

/-- A container that waits for the rest of its items or for the value of a key,
the latest item first. -/
inductive Frame where
  | items (done : List Json)
  | fields (done : List (Option String × Json)) (key : Option String)

/-- What may come next, under the containers that are open. -/
inductive State where
  /-- A value. -/
  | value (stack : List Frame)
  /-- The first item of an array, or its end. -/
  | firstItem (stack : List Frame)
  /-- The first key of an object, or its end. -/
  | firstKey (stack : List Frame)
  /-- A further key. -/
  | key (done : List (Option String × Json)) (stack : List Frame)
  /-- The colon after a key. -/
  | colon (done : List (Option String × Json)) (key : Option String) (stack : List Frame)
  /-- What follows a finished value. -/
  | after (value : Json) (stack : List Frame)

namespace State

/-- A token where a value must stand. -/
def begin (stack : List Frame) : Token → Option State
  | .openBrace => some (.firstKey stack)
  | .openBracket => some (.firstItem stack)
  | .null => some (.after .null stack)
  | .bool b => some (.after (.bool b) stack)
  | .number n => some (.after (.number n) stack)
  | .string s => some (.after (.string s) stack)
  | _ => none

def step : State → Token → Option State
  | .value stack, t => begin stack t
  | .firstItem stack, .closeBracket => some (.after (.array []) stack)
  | .firstItem stack, t => begin (.items [] :: stack) t
  | .firstKey stack, .closeBrace => some (.after (.object []) stack)
  | .firstKey stack, .string name => some (.colon [] name stack)
  | .key done stack, .string name => some (.colon done name stack)
  | .colon done name stack, .colon => some (.value (.fields done name :: stack))
  | .after v (.items done :: stack), .comma => some (.value (.items (v :: done) :: stack))
  | .after v (.items done :: stack), .closeBracket =>
    some (.after (.array (v :: done).reverse) stack)
  | .after v (.fields done name :: stack), .comma => some (.key ((name, v) :: done) stack)
  | .after v (.fields done name :: stack), .closeBrace =>
    some (.after (.object ((name, v) :: done).reverse) stack)
  | _, _ => none

/-- The value read, if all containers are closed. -/
def result? : State → Option Json
  | .after v [] => some v
  | _ => none

end State

/-- The value that a row of tokens spells. -/
def ofTokens? (tokens : List Token) : Option Json :=
  (tokens.foldlM State.step (.value [])).bind State.result?

/-- Reads a text as one value. -/
def ofText? (text : List Char) : Option Json := (tokens? text).bind ofTokens?

/-- Reads a text as one value that can be held in memory. -/
def stored? (text : List Char) : Option Json := (ofText? text).filter isStorable

end Mender.Json
