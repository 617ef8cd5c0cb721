import StorageTyping.Binary.Format

/-!
# Values of a TOML document

What a document assigns to its keys. Integers are unbounded here, and what only has the outline
of a number is kept as such, because a reader decides what it makes of it. Dates and times are
checked but carry no value.
-/

namespace StorageTyping.Toml

/-- A value of a document. -/
inductive Value where
  | string (text : String)
  /-- A whole number; there is none for a text that is marked as one but has no or other digits. -/
  | integer (value : Option Int)
  /-- A number in double precision; there is none for one that is written too large. -/
  | float (value : Option Datum)
  | boolean (value : Bool)
  /-- A date, a time, or both. -/
  | moment
  | array (items : List Value)
  | table (entries : List (String × Value))

end StorageTyping.Toml
