import StorageTyping.Decimal.Notation
import StorageTyping.Settings.Basic
import StorageTyping.Text.Quoted
import StorageTyping.Toml.Document

/-!
# Settings from a document

A document may give the keys `target`, `index_dtype` and `default_library`, and no others; what
it leaves out keeps its default. The keys are looked at in ascending order, and the first one
that does not fit is complained about.

A target is a table of a name and a flag, in which other keys are ignored, or an array that
starts with the two in this order. What is not looked at at all may even be what only has the
outline of a number. But where there is something to complain about, a text with a number that
cannot be held is no document in the first place.
-/

namespace StorageTyping

/-- Why a document gives no settings. -/
inductive Settings.DocumentError where
  /-- The text is no document. -/
  | notDocument
  /-- A key or a value does not fit. -/
  | misfit (message : String)
deriving DecidableEq, Repr

namespace Toml.Value

open Settings (DocumentError)

mutual

/-- Whether every number in a value is one, and every whole number lies between bounds. -/
def numbersWithin (lower upper : Int) : Value → Bool
  | .integer value => value.any fun value => lower ≤ value && value < upper
  | .float value => value.isSome
  | .array items => itemsWithin lower upper items
  | .table entries => entriesWithin lower upper entries
  | _ => true

/-- Whether the numbers in the items of an array lie between bounds. -/
def itemsWithin (lower upper : Int) : List Value → Bool
  | [] => true
  | item :: rest => numbersWithin lower upper item && itemsWithin lower upper rest

/-- Whether the numbers in the values of a table lie between bounds. -/
def entriesWithin (lower upper : Int) : List (String × Value) → Bool
  | [] => true
  | (_, item) :: rest => numbersWithin lower upper item && entriesWithin lower upper rest

end

/-- A power of two. -/
def powerOfTwo (exponent : Nat) : Int := (Nat.pow 2 exponent : Nat)

/-- Pass over a value, whose whole numbers may have up to 128 bits. -/
def ignore (value : Value) : Except DocumentError Unit :=
  if value.numbersWithin (-powerOfTwo 127) (powerOfTwo 128) then .ok () else .error .notDocument

/-- The way in which a complaint shows a floating-point value: positional, with a `.0` on whole
numbers. -/
def floatText (value : Datum) : String :=
  let text := value.toText .double .plain
  match value with
  | .finite .. => if text.toList.contains '.' then text else text ++ ".0"
  | _ => text

/-- The way in which a complaint shows a value; there is none for what is no number. -/
def found? : Value → Option String
  | .string text => some ("string " ++ Text.quote text)
  | .integer value => value.map fun value => "integer " ++ "`" ++ toString value ++ "`"
  | .float value => value.map fun value => "floating point " ++ "`" ++ floatText value ++ "`"
  | .boolean value => some (if value then "boolean `true`" else "boolean `false`")
  | .array _ => some "sequence"
  | .moment | .table _ => some "map"

/-- The complaint that a value is not what is wanted. -/
def misfit (wanted : String) (value : Value) : DocumentError :=
  match value.found? with
  | some found => .misfit ("invalid type: " ++ found ++ ", expected " ++ wanted)
  | none => .notDocument

/-- A string, where one is wanted. -/
def asString : Value → Except DocumentError String
  | .string text => .ok text
  | value => .error (value.misfit "a string")

/-- A truth value, where one is wanted. -/
def asBoolean : Value → Except DocumentError Bool
  | .boolean value => .ok value
  | value => .error (value.misfit "a boolean")

end Toml.Value

namespace Target

open Settings (DocumentError)

/-- Take account of one key of a target's table. -/
def readEntry (target : Target) (entry : String × Toml.Value) : Except DocumentError Target :=
  match entry.1 with
  | "name" => entry.2.asString.map fun name => { target with name }
  | "vector_types" => entry.2.asBoolean.map fun vectorTypes => { target with vectorTypes }
  | _ => entry.2.ignore.map fun _ => target

/-- The target of an array that gives the name and the flag by position. -/
def readItems (target : Target) : List Toml.Value → Except DocumentError Target
  | [] => .ok target
  | [name] => name.asString.map fun name => { target with name }
  | name :: flag :: _ => do
    let name ← name.asString
    let vectorTypes ← flag.asBoolean
    return ⟨name, vectorTypes⟩

/-- The target that a value describes. A date is a table without any key of a target. -/
def read (value : Toml.Value) : Except DocumentError Target :=
  match value with
  | .table entries => (Table.ofList entries).entries.foldlM readEntry Target.c
  | .array items => readItems Target.c items
  | .moment => .ok Target.c
  | value => .error (value.misfit "struct Target")

end Target

namespace Settings

/-- Take account of one key of the document. -/
def readEntry (settings : Settings) (entry : String × Toml.Value) : Except DocumentError Settings :=
  match entry.1 with
  | "target" => (Target.read entry.2).map fun target => { settings with target }
  | "index_dtype" => do
    match ScalarType.read (← entry.2.asString) with
    | .ok indexType => return { settings with indexType }
    | .error complaint => .error (.misfit complaint.message)
  | "default_library" => entry.2.asBoolean.map fun mathLibrary => { settings with mathLibrary }
  | key =>
    .error (.misfit ("unknown field `" ++ key ++
      "`, expected one of `target`, `index_dtype`, `default_library`"))

/-- The settings that a document gives. -/
def ofDocument (document : String) : Except DocumentError Settings :=
  match Toml.read? document with
  | none => .error .notDocument
  | some table =>
    match table.entries.foldlM readEntry Settings.default with
    | .ok settings => .ok settings
    | .error complaint =>
      if Toml.Value.entriesWithin (-Toml.Value.powerOfTwo 63) (Toml.Value.powerOfTwo 63) table.entries
      then .error complaint
      else .error .notDocument

end Settings

end StorageTyping
