import Mender.Proofs.Text.Decimal
import Mender.Proofs.Text.Search
import Mender.Proofs.Toml.Quoting

/-!
# Lines of a document read back

Reading a text is running the automaton over its tokens. A printed value leads from where a
value must stand to what follows it, and a printed line leads from the start of one line to
the start of the next, with its statement found.
-/

namespace Mender.Toml

open Text

/-- Runs the automaton over a text. -/
def run (s : State) (text : List Char) : Option State :=
  (tokens? text).bind fun tokens => tokens.foldlM State.step s

section Tokens

variable {s s' : State} {rest : List Char}

theorem run_nil (s : State) : run s [] = some s := by
  rw [run, tokens?]
  rfl

theorem run_cons {c : Char} {after : List Char} {t : Token}
    (cut : token c rest = some (some t, after)) :
    run s (c :: rest) = (s.step t).bind fun next => run next after := by
  have parts : tokens? (c :: rest) = (tokens? after).map (t :: ·) := by
    rw [tokens?]
    split
    · next none =>
      rw [cut] at none
      cases none
    · next found =>
      rw [cut] at found
      cases found
      rfl
  have first (tokens : List Token) : (t :: tokens).foldlM State.step s =
      (s.step t).bind fun next => tokens.foldlM State.step next := by
    rw [List.foldlM_cons]
    rfl
  rw [run, parts]
  unfold run
  cases tokens? after with
  | none => cases s.step t <;> rfl
  | some tokens =>
    rw [Option.map_some, Option.bind_some, first]
    rfl

theorem run_token {c : Char} {after : List Char} {t : Token}
    (cut : token c rest = some (some t, after)) (next : s.step t = some s') :
    run s (c :: rest) = run s' after := by
  rw [run_cons cut, next]
  rfl

theorem token_mark {c : Char} {t : Token} (marks : mark? c = some t) (rest : List Char) :
    token c rest = some (some t, rest) := by
  rw [token, marks]

theorem run_mark {c : Char} {t : Token} (marks : mark? c = some t) (next : s.step t = some s') :
    run s (c :: rest) = run s' rest :=
  run_token (token_mark marks rest) next

theorem isWordPart_of_bare {c : Char} (bare : isBareKeyChar c = true) : isWordPart c = true := by
  have ascii : c.toNat < 0x80 := by
    simp only [isBareKeyChar, isAsciiLetter, isDigit, Bool.or_eq_true, Bool.and_eq_true,
      decide_eq_true_eq, Char.le_def, UInt32.le_iff_toNat_le] at bare
    rcases bare with (((⟨-, le⟩ | ⟨-, le⟩) | ⟨-, le⟩) | rfl) | rfl
    · exact lt_of_le_of_lt le (by decide)
    · exact lt_of_le_of_lt le (by decide)
    · exact lt_of_le_of_lt le (by decide)
    · decide
    · decide
  have each (n : Nat) (small : n < 0x80) (bare : isBareKeyChar (Char.ofNat n) = true) :
      isWordPart (Char.ofNat n) = true := by
    revert n
    decide +kernel
  have here := each c.toNat ascii
  rw [Char.ofNat_toNat] at here
  exact here bare

theorem token_word {c : Char} (part : isWordPart c = true) (rest : List Char) :
    token c rest = some (some (.word (c :: rest.takeWhile isWordPart)), rest.dropWhile isWordPart) := by
  have no_return : c ≠ '\r' := by
    rintro rfl
    cases part
  simp only [isWordPart, Bool.and_eq_true, Option.isNone_iff_eq_none, decide_eq_true_eq,
    Bool.not_eq_true'] at part
  obtain ⟨⟨⟨⟨⟨plain, no_blank⟩, no_mark⟩, no_double⟩, no_single⟩, no_comment⟩ := part
  rw [token, no_mark]
  simp [no_return, no_comment, no_double, no_single, no_blank, isWordPart, plain, no_mark]

/-- A word of bare characters is one token in front of anything that is no part of it. -/
theorem run_word {word : List Char} (nonempty : word ≠ [])
    (bare : word.all isBareKeyChar = true) (ends : ∀ c, rest.head? = some c → isWordPart c = false)
    (next : s.step (.word word) = some s') : run s (word ++ rest) = run s' rest := by
  have parts : ∀ c ∈ word, isWordPart c = true :=
    fun c mem => isWordPart_of_bare (List.all_eq_true.mp bare c mem)
  cases word with
  | nil => exact absurd rfl nonempty
  | cons c word =>
    obtain ⟨taken, left⟩ := span_append (fun d mem => parts d (List.mem_cons_of_mem c mem)) ends
    refine run_token ?_ next
    rw [List.append_eq, token_word (parts c List.mem_cons_self), taken, left]

/-- Spaces are one token in front of anything else. -/
theorem run_spaces {n : Nat} (ends : ∀ c, rest.head? = some c → isBlankChar c = false)
    (next : s.step (.blank (List.replicate (n + 1) ' ')) = some s') :
    run s (List.replicate (n + 1) ' ' ++ rest) = run s' rest := by
  have blank : ∀ c ∈ List.replicate n ' ', isBlankChar c = true := by
    intro c mem
    rw [List.eq_of_mem_replicate mem]
    rfl
  obtain ⟨taken, left⟩ := span_append blank ends
  refine run_token (c := ' ') ?_ next
  change some (some (Token.blank (' ' :: (List.replicate n ' ' ++ rest).takeWhile isBlankChar)),
    (List.replicate n ' ' ++ rest).dropWhile isBlankChar) = _
  rw [taken, left]
  rfl

/-- A quoted string is one token in front of anything but a quote. -/
theorem run_quoted (text : List Char) (no_double : rest.head? ≠ some '"')
    (no_single : rest.head? ≠ some '\'')
    (next : ∀ multiline, s.step (.string (String.ofList text) multiline) = some s') :
    run s (quoted text ++ rest) = run s' rest := by
  obtain ⟨quote, inside, multiline, shape, isQuote, read⟩ :=
    quotedString_quoted text no_double no_single
  rw [shape]
  refine run_token ?_ (next multiline)
  rcases isQuote with rfl | rfl
  · change (quotedString '"' (inside ++ rest)).map _ = _
    rw [read]
    rfl
  · change (quotedString '\'' (inside ++ rest)).map _ = _
    rw [read]
    rfl

end Tokens

section Values

/-- A string, an integer or a truth value. -/
def isScalar : Toml → Bool
  | .string _ | .integer _ | .boolean _ => true
  | _ => false

/-- A scalar or an array of scalars. -/
def isLeaf : Toml → Bool
  | .array items => items.all isScalar
  | value => isScalar value

/-- What may follow a value. -/
def FollowsValue (rest : List Char) : Prop :=
  ∃ c more, rest = c :: more ∧ (c = '\n' ∨ c = ',' ∨ c = ']')

theorem whole?_digits (n : Nat) : Scalar.whole? (Decimal.digits n) = some n := by
  have no_group : '_' ∉ Decimal.digits n := Decimal.not_mem_digits (by decide) n
  have grouped : Scalar.grouped? isDigit (Decimal.digits n) = some (Decimal.digits n) := by
    have each : (!(Decimal.digits n).isEmpty && (Decimal.digits n).all isDigit) = true := by
      simp [Decimal.digits_ne_nil, Decimal.all_isDigit_digits]
    simp only [Scalar.grouped?, splitOn_of_not_mem no_group, List.all_cons, List.all_nil, each]
    simp
  rw [Scalar.whole?, grouped]
  simp only [Option.bind_eq_bind, Option.bind_some]
  split
  · next shape =>
    cases Decimal.eq_nil_of_digits shape
  · rw [Decimal.value_digits]

theorem signed_digits (n : Nat) : Scalar.signed (Decimal.digits n) = (false, Decimal.digits n) := by
  have digits := List.all_eq_true.mp (Decimal.all_isDigit_digits n)
  unfold Scalar.signed
  split
  · next shape =>
    cases digits '-' (by simp [shape])
  · next shape =>
    cases digits '+' (by simp [shape])
  · rfl

theorem digits_ne_word {n : Nat} {c : Char} {more : List Char} (letter : isDigit c = false) :
    Decimal.digits n ≠ c :: more := by
  intro same
  have digit := List.all_eq_true.mp (Decimal.all_isDigit_digits n) c (by simp [same])
  rw [letter] at digit
  cases digit

theorem integer?_digits (n : Nat) : Scalar.integer? (Decimal.digits n) = some (.ofNat n) := by
  unfold Scalar.integer?
  split
  · next shape => cases Decimal.eq_nil_of_digits shape
  · next shape => cases Decimal.eq_nil_of_digits shape
  · next shape => cases Decimal.eq_nil_of_digits shape
  · simp only [signed_digits, whole?_digits]
    rfl

theorem toList_intText_negSucc (n : Nat) :
    (Decimal.intText (.negSucc n)).toList = '-' :: Decimal.digits (n + 1) := by
  simp [Decimal.intText, Decimal.natText]

/-- An integer is read back from its digits and its sign. -/
theorem value?_intText (n : Int) : Scalar.value? (Decimal.intText n).toList = some (.integer n) := by
  cases n with
  | ofNat n =>
    have bounded : Scalar.isUnbounded (Decimal.digits n) = false := by
      rw [Scalar.isUnbounded, signed_digits]
      exact Bool.or_eq_false_iff.mpr
        ⟨decide_eq_false (digits_ne_word rfl), decide_eq_false (digits_ne_word rfl)⟩
    rw [Decimal.intText, Decimal.natText, String.toList_ofList, Scalar.value?,
      if_neg (digits_ne_word rfl), if_neg (digits_ne_word rfl), bounded, integer?_digits]
    rfl
  | negSucc n =>
    have bounded : Scalar.isUnbounded ('-' :: Decimal.digits (n + 1)) = false :=
      Bool.or_eq_false_iff.mpr
        ⟨decide_eq_false (digits_ne_word rfl), decide_eq_false (digits_ne_word rfl)⟩
    have read : Scalar.integer? ('-' :: Decimal.digits (n + 1)) = some (.negSucc n) := by
      rw [Scalar.integer?]
      · simp only [Scalar.signed, whole?_digits]
        rfl
      all_goals simp
    rw [toList_intText_negSucc, Scalar.value?, if_neg (by simp), if_neg (by simp), bounded, read]
    rfl

theorem bare_intText (n : Int) :
    (Decimal.intText n).toList ≠ [] ∧ (Decimal.intText n).toList.all isBareKeyChar = true := by
  have bare (n : Nat) : (Decimal.digits n).all isBareKeyChar = true := by
    refine List.all_eq_true.mpr fun c mem => ?_
    have digit := List.all_eq_true.mp (Decimal.all_isDigit_digits n) c mem
    simp [isBareKeyChar, digit]
  cases n with
  | ofNat n =>
    rw [Decimal.intText, Decimal.natText, String.toList_ofList]
    exact ⟨Decimal.digits_ne_nil n, bare n⟩
  | negSucc n =>
    rw [toList_intText_negSucc]
    exact ⟨List.cons_ne_nil _ _, bare (n + 1)⟩

variable {place : Place} {found : List Statement} {rest : List Char}

/-- A word in front of what may follow a value is that value. -/
theorem run_scalar_word {text : List Char} {value : Toml} (means : Scalar.value? text = some value)
    (follows : FollowsValue rest) :
    run ⟨.scalar text place, found⟩ rest = run ⟨.after value place, found⟩ rest := by
  have scalar (t : Token) : State.afterScalar text place found t =
      State.after value place found t := by
    rw [State.afterScalar, means]
    rfl
  obtain ⟨c, more, rfl, mark⟩ := follows
  rcases mark with rfl | rfl | rfl
  · have cut := token_mark (show mark? '\n' = some .lineEnd from rfl) more
    rw [run_cons cut, run_cons cut]
    exact congrArg (Option.bind · _) (scalar _)
  · have cut := token_mark (show mark? ',' = some .comma from rfl) more
    rw [run_cons cut, run_cons cut]
    exact congrArg (Option.bind · _) (scalar _)
  · have cut := token_mark (show mark? ']' = some .closeBracket from rfl) more
    rw [run_cons cut, run_cons cut]
    exact congrArg (Option.bind · _) (scalar _)

theorem FollowsValue.other (follows : FollowsValue rest) :
    (∀ c, rest.head? = some c → isWordPart c = false) ∧ rest.head? ≠ some '"' ∧
      rest.head? ≠ some '\'' := by
  obtain ⟨c, more, rfl, mark⟩ := follows
  rcases mark with rfl | rfl | rfl
  all_goals
    refine ⟨?_, by simp, by simp⟩
    intro c h
    cases h
    rfl

/-- A scalar leads to what follows it. -/
theorem run_scalar {value : Toml} (scalar : isScalar value = true) (spans : Bool)
    (follows : FollowsValue rest) :
    run ⟨.value place spans, found⟩ (inlineText value ++ rest) =
      run ⟨.after value place, found⟩ rest := by
  obtain ⟨ends, no_double, no_single⟩ := follows.other
  have word {text : List Char} (nonempty : text ≠ []) (bare : text.all isBareKeyChar = true)
      (means : Scalar.value? text = some value) :
      run ⟨.value place spans, found⟩ (text ++ rest) = run ⟨.after value place, found⟩ rest := by
    rw [← run_scalar_word means follows]
    refine run_word nonempty bare ends ?_
    cases spans <;> rfl
  match value with
  | .string s =>
    refine run_quoted s.toList no_double no_single fun multiline => ?_
    rw [String.ofList_toList]
    cases spans <;> rfl
  | .integer n =>
    obtain ⟨nonempty, bare⟩ := bare_intText n
    exact word nonempty bare (value?_intText n)
  | .boolean true => exact word (by decide) (by decide) rfl
  | .boolean false => exact word (by decide) (by decide) rfl

theorem head?_inlineText {value : Toml} (scalar : isScalar value = true) (rest : List Char) :
    ∀ c, (inlineText value ++ rest).head? = some c → isBlankChar c = false := by
  match value with
  | .string s =>
    obtain ⟨quote, inside, -, shape, isQuote, -⟩ :=
      @quotedString_quoted s.toList [] nofun nofun
    intro c h
    rw [inlineText, shape] at h
    cases h
    rcases isQuote with rfl | rfl <;> rfl
  | .integer n =>
    obtain ⟨nonempty, bare⟩ := bare_intText n
    intro c h
    rw [inlineText] at h
    cases text : (Decimal.intText n).toList with
    | nil => exact absurd text nonempty
    | cons d more =>
      rw [text] at h bare
      cases h
      have part := isWordPart_of_bare (List.all_eq_true.mp bare c List.mem_cons_self)
      simp only [isWordPart, Bool.and_eq_true, Bool.not_eq_true'] at part
      exact part.1.1.1.1.2
  | .boolean true =>
    intro c h
    cases h
    rfl
  | .boolean false =>
    intro c h
    cases h
    rfl

/-- The lines of an array lead from one item to the end. -/
theorem run_items {items : List Toml} (scalars : items.all isScalar = true) (key : List String)
    (done : List Toml) (stack : List Frame) :
    run ⟨.value ⟨key, .items done :: stack⟩ true, found⟩
        (items.flatMap (fun item => [' ', ' ', ' ', ' '] ++ inlineText item ++ [',', '\n']) ++
          ']' :: rest) =
      run ⟨.after (.array (done.reverse ++ items)) ⟨key, stack⟩, found⟩ rest := by
  induction items generalizing done with
  | nil =>
    rw [List.append_nil]
    exact run_mark (t := .closeBracket) rfl rfl
  | cons item items ih =>
    rw [List.all_cons, Bool.and_eq_true] at scalars
    have shape : (item :: items).flatMap
        (fun item => [' ', ' ', ' ', ' '] ++ inlineText item ++ [',', '\n']) ++ ']' :: rest =
          List.replicate (3 + 1) ' ' ++ (inlineText item ++ ',' :: '\n' ::
            (items.flatMap (fun item => [' ', ' ', ' ', ' '] ++ inlineText item ++ [',', '\n']) ++
              ']' :: rest)) := by
      simp
    rw [shape, run_spaces (head?_inlineText scalars.1 _) rfl,
      run_scalar scalars.1 true ⟨',', _, rfl, .inr (.inl rfl)⟩,
      run_mark (t := .comma) rfl rfl, run_mark (t := .lineEnd) rfl rfl, ih scalars.2]
    simp

/-- A value behind its key leads to what follows it. -/
theorem run_value {value : Toml} (leaf : isLeaf value = true) (key : List String)
    (follows : FollowsValue rest) :
    run ⟨.value ⟨key, []⟩ false, found⟩ (valueText value ++ rest) =
      run ⟨.after value ⟨key, []⟩, found⟩ rest := by
  match value with
  | .array [] =>
    exact (run_mark (t := .openBracket) rfl rfl).trans (run_mark (t := .closeBracket) rfl rfl)
  | .array [item] =>
    have scalar : isScalar item = true := by simpa [isLeaf] using leaf
    have shape : valueText (.array [item]) ++ rest = '[' :: (inlineText item ++ ']' :: rest) := by
      simp [valueText, inlineText, moreItems]
    rw [shape, run_mark (t := .openBracket) rfl rfl,
      run_scalar scalar true ⟨']', _, rfl, .inr (.inr rfl)⟩, run_mark (t := .closeBracket) rfl rfl]
    rfl
  | .array (first :: second :: items) =>
    have shape : valueText (.array (first :: second :: items)) ++ rest = '[' :: '\n' ::
        ((first :: second :: items).flatMap
          (fun item => [' ', ' ', ' ', ' '] ++ inlineText item ++ [',', '\n']) ++ ']' :: rest) := by
      simp [valueText]
    rw [shape, run_mark (t := .openBracket) rfl rfl, run_mark (t := .lineEnd) rfl rfl,
      run_items leaf]
    rfl
  | .string _ | .integer _ | .boolean _ => exact run_scalar rfl false follows

theorem head?_valueText {value : Toml} (leaf : isLeaf value = true) (rest : List Char) :
    ∀ c, (valueText value ++ rest).head? = some c → isBlankChar c = false := by
  match value with
  | .array [] | .array [_] | .array (_ :: _ :: _) =>
    intro c h
    cases h
    rfl
  | .string _ | .integer _ | .boolean _ => exact head?_inlineText rfl rest

end Values

section Keys

variable {found : List Statement} {rest : List Char}

/-- A key that is written without quotes. -/
def isBare (key : String) : Bool := !key.isEmpty && key.toList.all isBareKeyChar

theorem keyText_of_bare {key : String} (bare : isBare key = true) : keyText key = key.toList :=
  if_pos bare

/-- A bare key leads to what follows a part of a key, wherever such a part may stand. -/
theorem run_key {s : State} {use : KeyUse} {parts : List String}
    (enters : ∀ word, s.step (.word word) = State.keyPart use parts found (.word word))
    (room : parts.length < maxDepth) {key : String} (bare : isBare key = true)
    (ends : ∀ c, rest.head? = some c → isWordPart c = false) :
    run s (keyText key ++ rest) = run ⟨.keyMore use (key :: parts), found⟩ rest := by
  have shape := keyText_of_bare bare
  rw [isBare, Bool.and_eq_true] at bare
  have nonempty : key.toList ≠ [] := by simpa using bare.1
  rw [shape]
  refine run_word nonempty bare.2 ends ?_
  rw [enters]
  change (if key.toList.all isBareKeyChar then
    State.addPart use parts found (String.ofList key.toList) else none) = _
  rw [if_pos bare.2, String.ofList_toList]
  exact if_pos room

/-- A key with its value makes a line. -/
theorem run_keyLine {key : String} (bare : isBare key = true) {value : Toml}
    (leaf : isLeaf value = true) :
    run ⟨.lineStart, found⟩ (keyText key ++ [' ', '=', ' '] ++ valueText value ++ ['\n'] ++ rest) =
      run ⟨.lineStart, .assign [] key value :: found⟩ rest := by
  have shape : keyText key ++ [' ', '=', ' '] ++ valueText value ++ ['\n'] ++ rest =
      keyText key ++ (List.replicate (0 + 1) ' ' ++ '=' :: (List.replicate (0 + 1) ' ' ++
        (valueText value ++ '\n' :: rest))) := by
    simp
  have opened (word : List Char) : State.step ⟨.lineStart, found⟩ (.word word) =
      State.keyPart .statement [] found (.word word) := rfl
  rw [shape, run_key opened (by decide) bare (by simp; rfl), run_spaces (by simp; rfl) rfl,
    run_mark (t := .equals) rfl rfl, run_spaces (head?_valueText leaf _) rfl,
    run_value leaf [key] ⟨'\n', _, rfl, .inl rfl⟩, run_mark (t := .lineEnd) rfl rfl]
  rfl

/-- The parts of a header lead to its end. -/
theorem run_header {s : State} {parts path : List String} {key : String}
    (enters : ∀ word, s.step (.word word) = State.keyPart (.header false) parts found (.word word))
    (room : parts.length + path.length < maxDepth) (bare : ∀ k ∈ path ++ [key], isBare k = true) :
    run s (['.'].intercalate ((path ++ [key]).map keyText) ++ ']' :: rest) =
      run ⟨.lineEnd, .table (parts.reverse ++ path) key :: found⟩ rest := by
  induction path generalizing s parts with
  | nil =>
    rw [List.nil_append, List.map_singleton, List.intercalate_singleton,
      run_key enters room (bare key (by simp)) (by simp; rfl), run_mark (t := .closeBracket) rfl rfl,
      List.append_nil]
    rfl
  | cons step path ih =>
    have more : (path ++ [key]).map keyText ≠ [] := by simp
    have later (word : List Char) :
        State.step ⟨.keyPart (.header false) (step :: parts), found⟩ (.word word) =
          State.keyPart (.header false) (step :: parts) found (.word word) := rfl
    rw [List.length_cons] at room
    rw [List.cons_append, List.map_cons, List.intercalate_cons_of_ne_nil more, List.append_assoc,
      List.append_assoc, run_key enters (by omega) (bare step (by simp)) (by simp; rfl),
      List.singleton_append, run_mark (t := .dot) rfl rfl,
      ih later (by simp; omega) fun k mem => bare k (List.mem_cons_of_mem step mem)]
    simp

/-- A header makes a line. -/
theorem run_headerLine {path : List String} {key : String} (room : path.length < maxDepth)
    (bare : ∀ k ∈ path ++ [key], isBare k = true) :
    run ⟨.lineStart, found⟩ (headerLine (path ++ [key]) ++ rest) =
      run ⟨.lineStart, .table path key :: found⟩ rest := by
  have shape : headerLine (path ++ [key]) ++ rest = '[' ::
      (['.'].intercalate ((path ++ [key]).map keyText) ++ ']' :: '\n' :: rest) := by
    simp [headerLine]
  have opened (word : List Char) : State.step ⟨.header, found⟩ (.word word) =
      State.keyPart (.header false) [] found (.word word) := rfl
  rw [shape, run_mark (t := .openBracket) rfl rfl, run_header opened (by simpa using room) bare,
    run_mark (t := .lineEnd) rfl rfl]
  rfl

end Keys

end Mender.Toml
