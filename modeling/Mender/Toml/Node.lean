import Mender.Toml.Basic

/-!
# Tables under construction

The statements of a document open tables and set keys. A node remembers how a
table came to be, because a header may name a table once, and keys with dots may
only reach into tables that keys with dots have made.
-/

namespace Mender.Toml

/-- How a table came to be. -/
inductive Origin where
  /-- On the way to a table that a header names. -/
  | passed
  /-- On the way to a key with dots. -/
  | dotted
  /-- Named by a header. -/
  | named
  deriving DecidableEq, Repr

inductive Node where
  | leaf (value : Toml)
  | table (origin : Origin) (fields : List (String × Node))
  /-- Tables of one name, the latest first. -/
  | tables (rows : List (List (String × Node)))

abbrev Fields := List (String × Node)

namespace Fields

/-- Sets a key, behind the others where it is new. -/
def put (fields : Fields) (key : String) (node : Node) : Fields :=
  match fields with
  | [] => [(key, node)]
  | (k, n) :: rest => if k = key then (k, node) :: rest else (k, n) :: put rest key node

/-- Rewrites the table that headers reach by a path; missing tables come to be on
the way, and of tables of one name the latest is meant. -/
def within (path : List String) (rewrite : Fields → Option Fields) (fields : Fields) :
    Option Fields :=
  match path with
  | [] => rewrite fields
  | key :: path =>
    match List.lookup key fields with
    | none => (within path rewrite []).map fun inner => fields.put key (.table .passed inner)
    | some (.table origin inner) =>
      (within path rewrite inner).map fun inner => fields.put key (.table origin inner)
    | some (.tables (row :: rows)) =>
      (within path rewrite row).map fun row => fields.put key (.tables (row :: rows))
    | some _ => none

/-- Names a table, once. -/
def openTable (key : String) (fields : Fields) : Option Fields :=
  match List.lookup key fields with
  | none => some (fields.put key (.table .named []))
  | some (.table .passed inner) => some (fields.put key (.table .named inner))
  | some _ => none

/-- Adds a table to the tables of a name. -/
def openRow (key : String) (fields : Fields) : Option Fields :=
  match List.lookup key fields with
  | none => some (fields.put key (.tables [[]]))
  | some (.tables rows) => some (fields.put key (.tables ([] :: rows)))
  | some _ => none

/-- Sets a key that is not there yet. -/
def define (key : String) (value : Toml) (fields : Fields) : Option Fields :=
  match List.lookup key fields with
  | none => some (fields.put key (.leaf value))
  | some _ => none

/-- Sets the last key behind the keys that lead to it, in a table of the given origin. -/
def defineUnder (origin : Origin) (path : List String) (key : String) (value : Toml)
    (fields : Fields) : Option Fields :=
  match path with
  | [] => if origin = .dotted then define key value fields else none
  | step :: path =>
    match List.lookup step fields with
    | none =>
      (defineUnder .dotted path key value []).map fun inner =>
        fields.put step (.table .dotted inner)
    | some (.table .named _) => none
    | some (.table origin inner) =>
      (defineUnder origin path key value inner).map fun inner =>
        fields.put step (.table origin inner)
    | some (.tables (row :: rows)) =>
      (defineUnder .named path key value row).map fun row =>
        fields.put step (.tables (row :: rows))
    | some _ => none

/-- Sets a key that may have dots. -/
def assign (path : List String) (key : String) (value : Toml) (fields : Fields) : Option Fields :=
  if path.isEmpty then define key value fields else defineUnder .named path key value fields

end Fields

mutual

def Node.toToml : Node → Toml
  | .leaf value => value
  | .table _ fields => .table (fieldsToToml fields)
  | .tables rows => .array (rowsToToml rows).reverse

def fieldsToToml : List (String × Node) → List (String × Toml)
  | [] => []
  | (key, node) :: fields => (key, node.toToml) :: fieldsToToml fields

def rowsToToml : List (List (String × Node)) → List Toml
  | [] => []
  | row :: rows => .table (fieldsToToml row) :: rowsToToml rows

end

/-- The finished table. -/
def Fields.toToml (fields : Fields) : Toml := .table (fieldsToToml fields)

end Mender.Toml
