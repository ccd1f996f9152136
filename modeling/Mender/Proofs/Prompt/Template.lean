import Mender.Text.Search
import Mender.Text.CharClass
import Mender.Text.Decimal

/-!
# Templates

A template is a text with marks in it: a value mark holds the path of a value, a statement mark
repeats what follows it for every item of a list or keeps it only where a value is given, and a
comment stands for nothing. A statement or a comment takes the blanks in front of it along when
it begins its line, and the line break right behind it; the line break at the end of a template
stays. What a value mark puts in is never read as a template.

`ofText?` reads a template and `renderAll?` fills it in. Every name has to be known, and only
texts and numbers are put in.
-/

namespace Mender.Template

open Text

/-- What a name can stand for in a template. -/
inductive Value where
  | text (s : String)
  | number (n : Nat)
  | list (items : List Value)
  | record (fields : List (String × Value))

namespace Value

/-- The text that a value mark puts in, character by character as it is. -/
def text? : Value → Option (List Char)
  | .text s => some s.toList
  | .number n => some (Decimal.natText n).toList
  | .list _ | .record _ => none

def items? : Value → Option (List Value)
  | .list items => some items
  | .text _ | .number _ | .record _ => none

def field? (key : String) : Value → Option Value
  | .record fields => fields.lookup key
  | .text _ | .number _ | .list _ => none

/-- Whether a condition takes the value for given. -/
def isGiven : Value → Bool
  | .text s => !s.isEmpty
  | .number n => n != 0
  | .list items => !items.isEmpty
  | .record fields => !fields.isEmpty

end Value

/-- What the names stand for; the innermost comes first. -/
abbrev Scope := List (String × Value)

/-- The value at the end of a path. -/
def Scope.at? (scope : Scope) : List String → Option Value
  | [] => none
  | name :: keys => do keys.foldlM (fun value key => value.field? key) (← scope.lookup name)

/-- A template that has been read. -/
inductive Node where
  | text (s : List Char)
  | value (path : List String)
  | each (name : String) (path : List String) (body : List Node)
  | given (path : List String) (body : List Node)

mutual

def Node.render? (scope : Scope) : Node → Option (List Char)
  | .text s => some s
  | .value path => scope.at? path >>= Value.text?
  | .each name path body => do
    let items ← scope.at? path >>= Value.items?
    let rounds ← items.mapM fun item => renderAll? ((name, item) :: scope) body
    return rounds.flatten
  | .given path body => do
    if (← scope.at? path).isGiven then renderAll? scope body else return []

/-- The text of a template in which the names stand for the values of a scope. -/
def renderAll? (scope : Scope) : List Node → Option (List Char)
  | [] => some []
  | node :: nodes => do return (← node.render? scope) ++ (← renderAll? scope nodes)

end

theorem render?_text (s : List Char) (scope : Scope) : (Node.text s).render? scope = some s := by
  rw [Node.render?]

theorem renderAll?_cons {scope : Scope} {node : Node} {nodes : List Node} {text more : List Char}
    (h : node.render? scope = some text) (h' : renderAll? scope nodes = some more) :
    renderAll? scope (node :: nodes) = some (text ++ more) := by
  rw [renderAll?, h, h']
  rfl

theorem renderAll?_singleton {scope : Scope} {node : Node} {text : List Char}
    (h : node.render? scope = some text) : renderAll? scope [node] = some text := by
  rw [renderAll?, renderAll?, h, Option.bind_eq_bind, Option.bind_some, Option.bind_some,
    Option.pure_def, List.append_nil]

theorem renderAll?_text {scope : Scope} {nodes : List Node} {more : List Char} (s : List Char)
    (h : renderAll? scope nodes = some more) :
    renderAll? scope (.text s :: nodes) = some (s ++ more) :=
  renderAll?_cons (render?_text s scope) h

theorem renderAll?_value {scope : Scope} {nodes : List Node} {path : List String} {value : Value}
    {more : List Char} (text : List Char) (h : scope.at? path = some value)
    (h' : value.text? = some text) (h'' : renderAll? scope nodes = some more) :
    renderAll? scope (.value path :: nodes) = some (text ++ more) :=
  renderAll?_cons (by rw [Node.render?, h]; exact h') h''

/-- A repetition puts one round behind the other. -/
theorem render?_each {α : Type} {scope : Scope} {path : List String} {items : List α}
    {value : α → Value} (h : scope.at? path = some (.list (items.map value))) {name : String}
    {body : List Node} {round : α → List Char}
    (h' : ∀ item, renderAll? ((name, value item) :: scope) body = some (round item)) :
    (Node.each name path body).render? scope = some (items.flatMap round) := by
  have rounds : (items.map value).mapM (fun item => renderAll? ((name, item) :: scope) body) =
      some (items.map round) := by
    clear h
    induction items with
    | nil => rfl
    | cons item items ih => simp [List.mapM_cons, h', ih]
  rw [Node.render?, h]
  simp [Value.items?, rounds, List.flatMap]

theorem render?_given {scope : Scope} {path : List String} {value : Value}
    (h : scope.at? path = some value) {body : List Node} {text : List Char}
    (h' : renderAll? scope body = some text) :
    (Node.given path body).render? scope = some (if value.isGiven then text else []) := by
  rw [Node.render?, h]
  simp only [Option.bind_eq_bind, Option.bind_some, h']
  split <;> rfl

/-! ## Reading a template -/

inductive Mark where
  | value
  | statement
  | comment
  deriving DecidableEq

namespace Mark

/-- The mark that an opening brace and this character begin. -/
def ofChar? : Char → Option Mark
  | '\x7b' => some .value
  | '%' => some .statement
  | '#' => some .comment
  | _ => none

/-- The character that stands in front of the brace at the end of a mark. -/
def last : Mark → Char
  | .value => '\x7d'
  | .statement => '%'
  | .comment => '#'

end Mark

/-- A text between marks, or what a mark holds. -/
inductive Segment where
  | text (s : List Char)
  | value (inside : List Char)
  | statement (inside : List Char)
  deriving DecidableEq

/-- Where the reading of a template is. -/
inductive Place where
  /-- In a text; the flag tells whether that text began at the start of a line. -/
  | text (fresh : Bool)
  /-- Right behind a statement or a comment, where a line break is dropped. -/
  | behind
  | inside (mark : Mark)

/-- What has been read so far, with the latest segment and the latest character in front. -/
structure Reading where
  segments : List Segment
  held : List Char
  place : Place

/-- A text without the blanks that a statement behind it takes along, the latest first. -/
def stripped (fresh : Bool) (held : List Char) : List Char :=
  match held.dropWhile fun c => isBlank c && c != '\n' with
  | [] => if fresh then [] else held
  | c :: front => if c = '\n' then c :: front else held

/-- The segments with a text among them, the latest first. -/
def kept (held : List Char) (segments : List Segment) : List Segment :=
  if held.isEmpty then segments else .text held.reverse :: segments

namespace Reading

/-- One more character of a text, which may begin a mark. -/
def ofText (r : Reading) (fresh : Bool) (c : Char) : Reading :=
  match r.held, Mark.ofChar? c with
  | '\x7b' :: held, some .value => ⟨kept held r.segments, [], .inside .value⟩
  | '\x7b' :: held, some mark => ⟨kept (stripped fresh held) r.segments, [], .inside mark⟩
  | held, _ => ⟨r.segments, c :: held, .text fresh⟩

/-- The mark is at its end. -/
def closed (r : Reading) (inside : List Char) : Mark → Reading
  | .value => ⟨.value inside.reverse :: r.segments, [], .text false⟩
  | .statement => ⟨.statement inside.reverse :: r.segments, [], .behind⟩
  | .comment => ⟨r.segments, [], .behind⟩

def step (r : Reading) (c : Char) : Reading :=
  match r.place with
  | .text fresh => r.ofText fresh c
  | .behind => if c = '\n' then { r with place := .text true } else r.ofText false c
  | .inside mark =>
    match r.held with
    | last :: held =>
      if last = mark.last ∧ c = '\x7d' then r.closed held mark else { r with held := c :: r.held }
    | [] => { r with held := [c] }

/-- The segments in their order; a mark that is not at its end is refused. -/
def finished? (r : Reading) : Option (List Segment) :=
  match r.place with
  | .inside _ => none
  | .text _ | .behind => some (kept r.held r.segments).reverse

end Reading

def segments? (text : List Char) : Option (List Segment) :=
  (text.foldl Reading.step ⟨[], [], .text true⟩).finished?

namespace Segment

/-- A segment as it stands in a template; a statement ends its line. -/
def source : Segment → List Char
  | .text s => s
  | .value inside => '\x7b' :: '\x7b' :: (inside ++ ['\x7d', '\x7d'])
  | .statement inside => '\x7b' :: '%' :: (inside ++ ['%', '\x7d', '\n'])

/-- Whether a text keeps its end in front of these segments. -/
def endsAt (s : List Char) : List Segment → Bool
  | .text _ :: _ => false
  | .statement _ :: _ => stripped true s.reverse == s.reverse
  | _ => true

/-- Whether the segments are told apart in a template: no text and no mark holds the brace that
would end it, and no text loses its end. -/
def tidy : List Segment → Bool
  | [] => true
  | .text s :: segments => !s.isEmpty && !s.contains '\x7b' && endsAt s segments && tidy segments
  | .value inside :: segments | .statement inside :: segments =>
    !inside.contains '\x7d' && tidy segments

end Segment

namespace Reading

theorem step_text {held : List Char} (h : '\x7b' ∉ held) (segments : List Segment) (fresh : Bool)
    (c : Char) :
    step ⟨segments, held, .text fresh⟩ c = ⟨segments, c :: held, .text fresh⟩ := by
  change ofText ⟨segments, held, .text fresh⟩ fresh c = _
  unfold ofText
  split
  · next same _ =>
    subst same
    exact absurd List.mem_cons_self h
  · next same _ =>
    subst same
    exact absurd List.mem_cons_self h
  · rfl

theorem step_inside {c : Char} (h : c ≠ '\x7d') (segments : List Segment) (held : List Char)
    (mark : Mark) :
    step ⟨segments, held, .inside mark⟩ c = ⟨segments, c :: held, .inside mark⟩ := by
  cases held with
  | nil => rfl
  | cons last held => exact if_neg fun closed => h closed.2

theorem foldl_text {s held : List Char} (h : '\x7b' ∉ s) (h' : '\x7b' ∉ held)
    (segments : List Segment) (fresh : Bool) :
    s.foldl step ⟨segments, held, .text fresh⟩ = ⟨segments, s.reverse ++ held, .text fresh⟩ := by
  induction s generalizing held with
  | nil => rfl
  | cons c s ih =>
    obtain ⟨other, rest⟩ : '\x7b' ≠ c ∧ '\x7b' ∉ s := by simpa using h
    rw [List.foldl_cons, step_text h', ih rest (by simpa using ⟨other, h'⟩), List.reverse_cons,
      List.append_assoc]
    rfl

theorem foldl_inside {inside : List Char} (h : '\x7d' ∉ inside) (segments : List Segment)
    (held : List Char) (mark : Mark) :
    inside.foldl step ⟨segments, held, .inside mark⟩ =
      ⟨segments, inside.reverse ++ held, .inside mark⟩ := by
  induction inside generalizing held with
  | nil => rfl
  | cons c inside ih =>
    obtain ⟨other, rest⟩ : '\x7d' ≠ c ∧ '\x7d' ∉ inside := by simpa using h
    rw [List.foldl_cons, step_inside (Ne.symm other), ih rest, List.reverse_cons, List.append_assoc]
    rfl

theorem foldl_value {inside held : List Char} (h : '\x7d' ∉ inside) (h' : '\x7b' ∉ held)
    (segments : List Segment) (fresh : Bool) :
    (Segment.value inside).source.foldl step ⟨segments, held, .text fresh⟩ =
      ⟨.value inside :: kept held segments, [], .text false⟩ := by
  have opened : step ⟨segments, '\x7b' :: held, .text fresh⟩ '\x7b' =
      ⟨kept held segments, [], .inside .value⟩ := rfl
  have ended : ['\x7d', '\x7d'].foldl step ⟨kept held segments, inside.reverse, .inside .value⟩ =
      ⟨.value inside :: kept held segments, [], .text false⟩ := by
    cases last : inside.reverse with
    | nil => simp [step, closed, Mark.last, List.reverse_eq_nil_iff.1 last]
    | cons c front =>
      have other : c ≠ '\x7d' := by
        rintro rfl
        exact h (List.mem_reverse.1 (last ▸ List.mem_cons_self))
      have whole : inside = front.reverse ++ [c] := by simpa using congrArg List.reverse last
      simp [step, closed, Mark.last, other, whole]
  rw [Segment.source, List.foldl_cons, step_text h', List.foldl_cons, opened, List.foldl_append,
    foldl_inside h, List.append_nil, ended]

theorem foldl_statement {inside held : List Char} (h : '\x7d' ∉ inside) (h' : '\x7b' ∉ held)
    (segments : List Segment) (fresh : Bool) :
    (Segment.statement inside).source.foldl step ⟨segments, held, .text fresh⟩ =
      ⟨.statement inside :: kept (stripped fresh held) segments, [], .text true⟩ := by
  have opened : step ⟨segments, '\x7b' :: held, .text fresh⟩ '%' =
      ⟨kept (stripped fresh held) segments, [], .inside .statement⟩ := rfl
  have pushed (segments : List Segment) : step ⟨segments, inside.reverse, .inside .statement⟩ '%' =
      ⟨segments, '%' :: inside.reverse, .inside .statement⟩ := step_inside (by decide) ..
  have ended (segments : List Segment) :
      ['\x7d', '\n'].foldl step ⟨segments, '%' :: inside.reverse, .inside .statement⟩ =
        ⟨.statement inside :: segments, [], .text true⟩ := by
    simp [step, closed, Mark.last]
  rw [Segment.source, List.foldl_cons, step_text h', List.foldl_cons, opened, List.foldl_append,
    foldl_inside h, List.append_nil, List.foldl_cons, pushed, ended]

end Reading

theorem stripped_eq_self {held : List Char} (h : stripped true held = held) (fresh : Bool) :
    stripped fresh held = held := by
  cases fresh with
  | true => exact h
  | false =>
    unfold stripped at h ⊢
    split at h
    · rfl
    · exact h

/-- Reading on behind a text: what is told apart stands behind what has been read. -/
theorem finished?_foldl {s : List Char} {rest : List Segment} (plain : '\x7b' ∉ s)
    (ends : s = [] ∨ Segment.endsAt s rest = true) (h : Segment.tidy rest = true)
    (segments : List Segment) (fresh : Bool) :
    ((rest.flatMap Segment.source).foldl Reading.step
        ⟨segments, s.reverse, .text fresh⟩).finished? =
      some ((kept s.reverse segments).reverse ++ rest) := by
  induction rest generalizing s segments fresh with
  | nil => simp [Reading.finished?]
  | cons segment rest ih =>
    have plain_held : '\x7b' ∉ s.reverse := by simpa using plain
    rw [List.flatMap_cons, List.foldl_append]
    cases segment with
    | text t =>
      obtain rfl : s = [] := ends.resolve_right (by simp [Segment.endsAt])
      simp only [Segment.tidy, Bool.and_eq_true, Bool.not_eq_eq_eq_not, Bool.not_true] at h
      obtain ⟨⟨⟨filled, clear⟩, end_kept⟩, h⟩ := h
      have clear : '\x7b' ∉ t := by simpa using clear
      have filled : t ≠ [] := by simpa using filled
      rw [Segment.source, Reading.foldl_text clear plain_held, List.reverse_nil, List.append_nil,
        ih clear (.inr end_kept) h segments fresh]
      simp [kept, filled]
    | value inside =>
      simp only [Segment.tidy, Bool.and_eq_true] at h
      have clear : '\x7d' ∉ inside := by simpa using h.1
      rw [Reading.foldl_value clear plain_held]
      refine (ih (s := []) List.not_mem_nil (.inl rfl) h.2 _ false).trans ?_
      simp [kept]
    | statement inside =>
      simp only [Segment.tidy, Bool.and_eq_true] at h
      have clear : '\x7d' ∉ inside := by simpa using h.1
      have whole : stripped fresh s.reverse = s.reverse := by
        apply stripped_eq_self
        rcases ends with rfl | ends
        · rfl
        · simpa [Segment.endsAt] using ends
      rw [Reading.foldl_statement clear plain_held, whole]
      refine (ih (s := []) List.not_mem_nil (.inl rfl) h.2 _ true).trans ?_
      simp [kept]

/-- A row of segments that is tidy is read off its text. -/
theorem segments?_source {segments : List Segment} (h : Segment.tidy segments = true) :
    segments? (segments.flatMap Segment.source) = some segments :=
  finished?_foldl List.not_mem_nil (.inl rfl) h [] true

/-- What a statement opens. -/
inductive Opening where
  | each (name : String) (path : List String)
  | given (path : List String)

/-- The statement that ends what an opening begins. -/
def Opening.ending : Opening → String
  | .each .. => "endfor"
  | .given _ => "endif"

def Opening.node (body : List Node) : Opening → Node
  | .each name path => .each name path body
  | .given path => .given path body

def path (text : List Char) : List String := (splitOn '.' (trim text)).map String.ofList

def opening? (inside : List Char) : Option Opening :=
  match splitOn ' ' (trim inside) with
  | [word, name, link, list] =>
    if word = "for".toList ∧ link = "in".toList then some (.each (String.ofList name) (path list))
    else none
  | [word, value] => if word = "if".toList then some (.given (path value)) else none
  | _ => none

/-- What is open, with the nodes in front of it, the latest first. -/
structure Frame where
  opening : Opening
  front : List Node

/-- The nodes of a row of segments, given what is open and the nodes since then. -/
def nodes? : List Segment → List Frame → List Node → Option (List Node)
  | [], [], nodes => some nodes.reverse
  | [], _ :: _, _ => none
  | .text s :: segments, frames, nodes => nodes? segments frames (.text s :: nodes)
  | .value inside :: segments, frames, nodes =>
    nodes? segments frames (.value (path inside) :: nodes)
  | .statement inside :: segments, frames, nodes =>
    match opening? inside, frames with
    | some opening, frames => nodes? segments (⟨opening, nodes⟩ :: frames) []
    | none, [] => none
    | none, frame :: frames =>
      if trim inside = frame.opening.ending.toList then
        nodes? segments frames (frame.opening.node nodes.reverse :: frame.front)
      else none

/-- Reads a template. -/
def ofText? (text : List Char) : Option (List Node) := do nodes? (← segments? text) [] []

/-- A template, read and filled in. -/
def fill? (text : List Char) (scope : Scope) : Option (List Char) := do
  renderAll? scope (← ofText? text)

end Mender.Template
