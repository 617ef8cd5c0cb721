import StorageTyping.Table
import StorageTyping.Toml.Statement

/-!
# Documents

The table that a document describes: its statements are read and then carried out in order,
each assignment in the table opened last. A text that is no document, because a line is not of
the right form or because tables do not fit together, has no table.
-/

namespace StorageTyping.Toml

/-- A document that is being put together. -/
structure Draft where
  entries : Entries
  /-- The path of the table opened last. -/
  current : List String

/-- The document before its first statement. -/
def Draft.empty : Draft := ⟨[], []⟩

/-- Carry out a statement. -/
def Draft.carryOut (draft : Draft) : Statement → Option Draft
  | .openTable path => (openTable path draft.entries).map fun entries => ⟨entries, path⟩
  | .openElement path => (openElement path draft.entries).map fun entries => ⟨entries, path⟩
  | .assign path value =>
    (changeAt (assign value path) draft.current draft.entries).map fun entries =>
      { draft with entries }

/-- The table that a document describes. -/
def read? (document : String) : Option (Table Value) := do
  let statements ← statements? document
  let draft ← statements.foldlM Draft.carryOut .empty
  return .ofList (valuesOf draft.entries)

end StorageTyping.Toml
