import Mender.Toml.Node
import Mender.Toml.Scalar
import Mender.Toml.Token

/-!
# Statements of a document

A document is a row of statements: headers and keys with values. They are read
by an automaton over the tokens, whose states hold the statements found, the
latest first, and the brackets that are open.
-/

namespace Mender.Toml

open Text

inductive Statement where
  /-- The header of a table. -/
  | table (path : List String) (key : String)
  /-- The header of one of the tables of a name. -/
  | row (path : List String) (key : String)
  | assign (path : List String) (key : String) (value : Toml)

/-- An array or an inline table that waits for a value. -/
inductive Frame where
  /-- The items so far, the latest first. -/
  | items (done : List Toml)
  /-- The fields so far and the key of the next, the last part of the key first. -/
  | fields (done : Fields) (key : List String)

/-- Where a value belongs. -/
structure Place where
  /-- The key of the statement, the last part first. -/
  key : List String
  /-- The open brackets, the innermost first. -/
  stack : List Frame

/-- What a key stands in. -/
inductive KeyUse where
  | header (isRow : Bool)
  | statement
  | field (done : Fields) (place : Place)

inductive Mode where
  /-- The start of a line. -/
  | lineStart
  /-- What follows the bracket of a header. -/
  | header
  /-- A part of a key; the parts so far have the latest first. -/
  | keyPart (use : KeyUse) (parts : List String)
  /-- What follows a part of a key. -/
  | keyMore (use : KeyUse) (parts : List String)
  /-- The equals sign behind a key of an inline table and a line end. -/
  | fieldEquals (done : Fields) (parts : List String) (place : Place)
  /-- The second of two closing brackets. -/
  | headerEnd (parts : List String)
  /-- A value; `spans` says whether line ends may stand before it. -/
  | value (place : Place) (spans : Bool)
  /-- A key of an inline table, or its end. -/
  | fieldStart (done : Fields) (place : Place)
  /-- An unquoted value under way. -/
  | scalar (text : List Char) (place : Place)
  /-- A blank behind an unquoted value, which may stand between a date and a time. -/
  | scalarBlank (text blank : List Char) (place : Place)
  /-- What follows a value. -/
  | after (value : Toml) (place : Place)
  /-- The end of the line. -/
  | lineEnd

structure State where
  mode : Mode
  /-- The statements, the latest first. -/
  found : List Statement

/-- How deep brackets may stand in each other, and how many parts a key may have. -/
def maxDepth : Nat := 80

def isBareKeyChar (c : Char) : Bool :=
  isAsciiLetter c || isDigit c || c = '_' || c = '-'

namespace State

/-- Waits for the end of the line behind a header. -/
def header (isRow : Bool) (found : List Statement) : List String → Option State
  | [] => none
  | key :: path =>
    let statement := if isRow then Statement.row path.reverse key else .table path.reverse key
    some ⟨.lineEnd, statement :: found⟩

/-- Adds a part to a key. -/
def addPart (use : KeyUse) (parts : List String) (found : List Statement) (part : String) :
    Option State :=
  if parts.length < maxDepth then some ⟨.keyMore use (part :: parts), found⟩ else none

/-- A token where a part of a key must stand. -/
def keyPart (use : KeyUse) (parts : List String) (found : List Statement) :
    Token → Option State
  | .blank _ => some ⟨.keyPart use parts, found⟩
  | .word cs => if cs.all isBareKeyChar then addPart use parts found (String.ofList cs) else none
  | .string s false => addPart use parts found s
  | _ => none

/-- Waits for the value of a field, which may stand on another line. -/
def fieldValue (done : Fields) (parts : List String) (place : Place) (found : List Statement) :
    State :=
  ⟨.value ⟨place.key, .fields done parts :: place.stack⟩ true, found⟩

/-- A token behind a part of a key. -/
def keyMore (use : KeyUse) (parts : List String) (found : List Statement) :
    Token → Option State
  | .blank _ => some ⟨.keyMore use parts, found⟩
  | .dot => some ⟨.keyPart use parts, found⟩
  | .closeBracket =>
    match use with
    | .header true => some ⟨.headerEnd parts, found⟩
    | .header false => header false found parts
    | _ => none
  | .equals =>
    match use with
    | .header _ => none
    | .statement => some ⟨.value ⟨parts, []⟩ false, found⟩
    | .field done place => some (fieldValue done parts place found)
  | .lineEnd =>
    match use with
    | .field done place => some ⟨.fieldEquals done parts place, found⟩
    | _ => none
  | _ => none

/-- A token where a value must stand. -/
def begin (place : Place) (found : List Statement) : Token → Option State
  | .word cs => some ⟨.scalar cs place, found⟩
  | .string s _ => some ⟨.after (.string s) place, found⟩
  | .openBracket =>
    if place.stack.length < maxDepth then
      some ⟨.value ⟨place.key, .items [] :: place.stack⟩ true, found⟩
    else none
  | .openBrace =>
    if place.stack.length < maxDepth then some ⟨.fieldStart [] place, found⟩ else none
  | _ => none

/-- Sets the field whose value is read. -/
def closeField (done : Fields) (parts : List String) (value : Toml) : Option Fields :=
  match parts with
  | [] => none
  | key :: path => done.assign path.reverse key value

/-- A token behind a value. -/
def after (value : Toml) (place : Place) (found : List Statement) (t : Token) : Option State :=
  match place.stack, t with
  | _, .blank _ => some ⟨.after value place, found⟩
  | [], .lineEnd =>
    match place.key with
    | [] => none
    | key :: path => some ⟨.lineStart, .assign path.reverse key value :: found⟩
  | _, .lineEnd => some ⟨.after value place, found⟩
  | .items done :: stack, .comma =>
    some ⟨.value ⟨place.key, .items (value :: done) :: stack⟩ true, found⟩
  | .items done :: stack, .closeBracket =>
    some ⟨.after (.array (value :: done).reverse) ⟨place.key, stack⟩, found⟩
  | .fields done parts :: stack, .comma =>
    (closeField done parts value).map fun done => ⟨.fieldStart done ⟨place.key, stack⟩, found⟩
  | .fields done parts :: stack, .closeBrace =>
    (closeField done parts value).map fun done => ⟨.after done.toToml ⟨place.key, stack⟩, found⟩
  | _, _ => none

/-- A token behind an unquoted value. -/
def afterScalar (text : List Char) (place : Place) (found : List Statement) (t : Token) :
    Option State :=
  (Scalar.value? text).bind fun value => after value place found t

def step (s : State) (t : Token) : Option State :=
  match s.mode, t with
  | .lineStart, .blank _ => some s
  | .lineStart, .lineEnd => some s
  | .lineStart, .openBracket => some { s with mode := .header }
  | .lineStart, t => keyPart .statement [] s.found t
  | .header, .openBracket => some { s with mode := .keyPart (.header true) [] }
  | .header, t => keyPart (.header false) [] s.found t
  | .keyPart use parts, t => keyPart use parts s.found t
  | .keyMore use parts, t => keyMore use parts s.found t
  | .fieldEquals .., .blank _ => some s
  | .fieldEquals .., .lineEnd => some s
  | .fieldEquals done parts place, .equals => some (fieldValue done parts place s.found)
  | .fieldEquals .., _ => none
  | .headerEnd parts, .closeBracket => header true s.found parts
  | .headerEnd _, _ => none
  | .value .., .blank _ => some s
  | .value _ true, .lineEnd => some s
  | .value ⟨key, .items done :: stack⟩ true, .closeBracket =>
    some { s with mode := .after (.array done.reverse) ⟨key, stack⟩ }
  | .value place _, t => begin place s.found t
  | .fieldStart .., .blank _ => some s
  | .fieldStart .., .lineEnd => some s
  | .fieldStart done place, .closeBrace => some { s with mode := .after done.toToml place }
  | .fieldStart done place, t => keyPart (.field done place) [] s.found t
  | .scalar text place, .word cs => some { s with mode := .scalar (text ++ cs) place }
  | .scalar text place, .dot => some { s with mode := .scalar (text ++ ['.']) place }
  | .scalar text place, .blank cs => some { s with mode := .scalarBlank text cs place }
  | .scalar text place, t => afterScalar text place s.found t
  | .scalarBlank text blank place, .word cs =>
    some { s with mode := .scalar (text ++ blank ++ cs) place }
  | .scalarBlank text _ place, t => afterScalar text place s.found t
  | .after value place, t => after value place s.found t
  | .lineEnd, .blank _ => some s
  | .lineEnd, .lineEnd => some { s with mode := .lineStart }
  | .lineEnd, _ => none

end State

/-- The statements that a row of tokens spells; the last line ends by itself. -/
def statements? (tokens : List Token) : Option (List Statement) :=
  match (tokens ++ [Token.lineEnd]).foldlM State.step ⟨.lineStart, []⟩ with
  | some ⟨.lineStart, found⟩ => some found.reverse
  | _ => none

end Mender.Toml
