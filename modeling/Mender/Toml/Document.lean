import Mender.Toml.Statement

/-!
# Documents

A document starts at its root table; each header moves on to the table that it
names, and keys are set in the table reached last.
-/

namespace Mender.Toml

/-- A document under construction. -/
structure Draft where
  root : Fields
  /-- The table that the latest header names. -/
  current : List String

namespace Draft

def extend (draft : Draft) : Statement → Option Draft
  | .table path key =>
    (draft.root.within path (Fields.openTable key)).map fun root => ⟨root, path ++ [key]⟩
  | .row path key =>
    (draft.root.within path (Fields.openRow key)).map fun root => ⟨root, path ++ [key]⟩
  | .assign path key value =>
    (draft.root.within draft.current (Fields.assign path key value)).map fun root =>
      { draft with root }

end Draft

/-- The table that the statements make. -/
def ofStatements? (statements : List Statement) : Option Toml :=
  (statements.foldlM Draft.extend ⟨[], []⟩).map fun draft => draft.root.toToml

/-- Reads a document; a byte order mark in front is no part of it. -/
def ofText? (text : List Char) : Option Toml :=
  (tokens? (match text with | '\ufeff' :: rest => rest | _ => text)).bind fun tokens =>
    (statements? tokens).bind ofStatements?

end Mender.Toml
