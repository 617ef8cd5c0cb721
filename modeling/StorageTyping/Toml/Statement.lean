import StorageTyping.Toml.Assembly
import StorageTyping.Toml.Quoted

/-!
# Statements of a document

A document is a sequence of lines that assign a value to a key or open a table by its header,
with comments and blank lines between. Arrays and inline tables may extend over lines and end
with a comma; only the parts of a dotted key stay on one line. Values nest to a limited depth,
and keys have a limited number of parts.

The readers take the text that is left and give what they read together with the text after it,
or nothing if the text is not of their form.
-/

namespace StorageTyping.Toml

/-- A line of a document. -/
inductive Statement where
  | openTable (path : List String)
  | openElement (path : List String)
  | assign (path : List String) (value : Value)

/-- A reader of the text that is left. -/
abbrev Reader := StateT (List Char) Option

namespace Reader

/-- Take a character off, if it comes next. -/
def accept (c : Char) : Reader Bool := fun text =>
  match text with
  | d :: rest => if d = c then some (true, rest) else some (false, text)
  | [] => some (false, text)

/-- Take a character off, which must come next. -/
def expect (c : Char) : Reader Unit := do
  unless ← accept c do failure

/-- Take off the longest stretch of characters that meet a condition. -/
def takeWhile (condition : Char → Bool) : Reader (List Char) := fun text =>
  some (text.takeWhile condition, text.dropWhile condition)

/-- Skip spaces and tabs. -/
def blanks : Reader Unit := do
  let _ ← takeWhile fun c => c = ' ' || c = '\t'

/-- Skip blanks, line ends and comments from a place that is inside a comment or not. -/
def skipGap : Bool → List Char → Option (List Char)
  | _, '\n' :: rest => skipGap false rest
  | _, '\r' :: '\n' :: rest => skipGap false rest
  | true, [] => some []
  | true, c :: rest => if isTextChar c then skipGap true rest else none
  | false, '#' :: rest => skipGap true rest
  | false, ' ' :: rest => skipGap false rest
  | false, '\t' :: rest => skipGap false rest
  | false, text => some text

/-- Skip blanks, line ends and comments. -/
def gap : Reader Unit := fun text => (skipGap false text).map fun rest => ((), rest)

/-- Skip the end of a line, with a comment or without, or the end of the text. -/
def lineEnd : Reader Unit := do
  blanks
  if ← accept '#' then
    let _ ← takeWhile isTextChar
  fun text =>
    match text with
    | '\n' :: rest => some ((), rest)
    | '\r' :: '\n' :: rest => some ((), rest)
    | [] => some ((), [])
    | _ => none

/-- Whether a character may stand in a key without quotes. -/
def isBareChar (c : Char) : Bool :=
  (c.isAlphanum : Bool) || c = '_' || c = '-'

/-- A single key. -/
def key : Reader String := fun text =>
  match text with
  | '"' :: _ | '\'' :: _ => lineString? text
  | _ =>
    match text.takeWhile isBareChar with
    | [] => none
    | bare => some (String.ofList bare, text.dropWhile isBareChar)

/-- A key of a number of dotted parts, at most as many as given. -/
def dottedKey : Nat → Reader (List String)
  | 0 => failure
  | parts + 1 => do
    blanks
    let first ← key
    blanks
    if ← accept '.' then return first :: (← dottedKey parts)
    return [first]

/-- The number of parts that a key may have. -/
def partLimit : Nat := 80

/-- A path of keys. -/
def path : Reader (List String) := dottedKey partLimit

/-- The characters that end a value without quotes. -/
def delimiters : List Char :=
  ['=', ',', '[', ']', '\x7b', '\x7d', '#', ' ', '\t', '\r', '\n']

/-- Whether a character may stand in a value without quotes. -/
def isPlainChar (c : Char) : Bool := !delimiters.contains c

/-- Whether a value without quotes goes on after blanks, as a date may go on with a time. -/
def goesOn (text : List Char) : Bool :=
  match text.dropWhile fun c => c = ' ' || c = '\t' with
  | c :: _ => isPlainChar c && c ≠ '"' && c ≠ '\''
  | [] => false

/-- Cut off the text of a value without quotes. -/
def cutPlain : List Char → List Char × List Char
  | [] => ([], [])
  | c :: rest =>
    if isPlainChar c || ((c = ' ' || c = '\t') && goesOn rest) then
      let (text, rest) := cutPlain rest
      (c :: text, rest)
    else ([], c :: rest)

/-- A value without quotes. -/
def plain : Reader Value := fun text =>
  let (text, rest) := cutPlain text
  (plain? text).map fun value => (value, rest)

/-- A value that does not contain others. -/
def scalar : Reader Value := fun text =>
  match text with
  | '"' :: _ | '\'' :: _ => (string? text).map fun (string, rest) => (.string string, rest)
  | _ => plain text

/-- The rest of an array of at most as many items as given. -/
def arrayItems (item : Reader Value) : Nat → Reader (List Value)
  | 0 => failure
  | items + 1 => do
    gap
    if ← accept ']' then return []
    let first ← item
    gap
    if ← accept ',' then return first :: (← arrayItems item items)
    expect ']'
    return [first]

/-- A key, an equals sign and a value, with some space on both sides of the sign. -/
def assignment (space : Reader Unit) (item : Reader Value) : Reader (List String × Value) := do
  let path ← path
  space
  expect '='
  space
  return (path, ← item)

/-- The rest of an inline table of at most as many assignments as given. -/
def tableItems (item : Reader Value) : Nat → Reader (List (List String × Value))
  | 0 => failure
  | items + 1 => do
    gap
    if ← accept '\x7d' then return []
    let first ← assignment gap item
    gap
    if ← accept ',' then return first :: (← tableItems item items)
    expect '\x7d'
    return [first]

/-- A value whose arrays and inline tables nest at most so deep. -/
def value : Nat → Reader Value
  | 0 => scalar
  | depth + 1 => do
    if ← accept '[' then
      return .array (← arrayItems (value depth) ((← get).length + 1))
    if ← accept '\x7b' then
      let assignments ← tableItems (value depth) ((← get).length + 1)
      match assignAll assignments with
      | some entries => return .table (valuesOf entries)
      | none => failure
    scalar

/-- The depth to which values nest. -/
def depthLimit : Nat := 80

/-- A header or an assignment, without the end of its line. -/
def statement : Reader Statement := do
  if ← accept '[' then
    if ← accept '[' then
      let path ← path
      expect ']'
      expect ']'
      return .openElement path
    let path ← path
    expect ']'
    return .openTable path
  let (path, value) ← assignment blanks (value depthLimit)
  return .assign path value

/-- The statements up to the end of the text, at most as many as given. -/
def statements : Nat → Reader (List Statement)
  | 0 => failure
  | count + 1 => do
    gap
    if (← get).isEmpty then return []
    let first ← statement
    lineEnd
    return first :: (← statements count)

end Reader

/-- The statements of a document. A byte order mark in front is skipped. -/
def statements? (document : String) : Option (List Statement) :=
  let text := match document.toList with
    | '\ufeff' :: rest => rest
    | text => text
  (Reader.statements (text.length + 1) text).map (·.1)

end StorageTyping.Toml
