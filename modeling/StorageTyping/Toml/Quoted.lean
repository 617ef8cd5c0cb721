import StorageTyping.Toml.Scalar

/-!
# Quoted strings of a document

Strings come in four kinds: between double quotes, where a backslash starts an escape, or
between apostrophes, where everything stands for itself; and each of the two on one line, or
between triple marks over several lines. A string is first cut off at its closing mark, then
its escapes are read.

Strings over several lines lose a line end directly after the opening mark. Up to two marks may
stand directly in front of the closing ones and belong to the string. A backslash at the end of
a line joins it to the next text that is not blank.
-/

namespace StorageTyping.Toml

/-- Whether a character may stand in text on one line: not a control character, save the tab. -/
def isTextChar (c : Char) : Bool := c = '\t' || (' ' ≤ c && c ≠ '\x7f')

/-- Put a character in front of a string that is cut off. -/
def keep (c : Char) (cut : Option (List Char × List Char)) : Option (List Char × List Char) :=
  cut.map fun (body, rest) => (c :: body, rest)

/-- Cut off a string on one line at its closing mark. With escapes, a backslash protects the
character after it. -/
def cutLine (mark : Char) (escapes : Bool) : List Char → Option (List Char × List Char)
  | [] => none
  | c :: rest =>
    if c = mark then some ([], rest)
    else if !isTextChar c then none
    else if escapes && c = '\\' then
      match rest with
      | d :: rest => if isTextChar d then keep c (keep d (cutLine mark escapes rest)) else none
      | [] => none
    else keep c (cutLine mark escapes rest)

/-- The marks that still belong to a string over several lines when three or more of them end
it, and what follows the closing ones. -/
def closeLines (mark : Char) (text : List Char) : Option (List Char × List Char) :=
  let run := (text.takeWhile (· = mark)).length
  if run < 3 then none
  else
    let own := min (run - 3) 2
    some (List.replicate own mark, text.drop (own + 3))

/-- Cut off a string over several lines at its closing marks. -/
def cutLines (mark : Char) (escapes : Bool) : List Char → Option (List Char × List Char)
  | [] => none
  | c :: rest =>
    match closeLines mark (c :: rest) with
    | some cut => some cut
    | none =>
      if c = '\n' then keep c (cutLines mark escapes rest)
      else if c = '\r' then
        match rest with
        | '\n' :: rest => keep c (keep '\n' (cutLines mark escapes rest))
        | _ => none
      else if !isTextChar c then none
      else if escapes && c = '\\' then
        match rest with
        | '\\' :: rest => keep c (keep '\\' (cutLines mark escapes rest))
        | '"' :: rest => keep c (keep '"' (cutLines mark escapes rest))
        | rest => keep c (cutLines mark escapes rest)
      else keep c (cutLines mark escapes rest)

/-- The character of a code point in hexadecimal digits. -/
def codePoint? (digits : List Char) : Option Char :=
  let value := digitsValue 16 digits
  if digits.all (isDigitOf 16) ∧ value.isValidChar then some (Char.ofNat value) else none

/-- The character of an escape of one letter. -/
def shortEscape? : Char → Option Char
  | 'b' => some '\x08'
  | 't' => some '\t'
  | 'n' => some '\n'
  | 'f' => some '\x0c'
  | 'r' => some '\r'
  | 'e' => some '\x1b'
  | '"' => some '"'
  | '\\' => some '\\'
  | _ => none

/-- Where the reading of escapes stands in relation to a joined line. -/
inductive Joining where
  /-- In text. -/
  | none
  /-- After a backslash and blanks, where a line end has to come. -/
  | beforeLineEnd
  /-- On the lines that are joined, where blanks and line ends are dropped. -/
  | afterLineEnd
deriving DecidableEq, Repr

/-- Read the escapes of a string that is cut off. -/
def unescape (joining : Joining) : List Char → Option (List Char)
  | [] => if joining = .beforeLineEnd then none else some []
  | '\n' :: rest =>
    if joining = .none then (unescape .none rest).map ('\n' :: ·) else unescape .afterLineEnd rest
  | '\r' :: rest =>
    if joining = .none then (unescape .none rest).map ('\r' :: ·) else unescape joining rest
  | '\\' :: 'x' :: a :: b :: rest =>
    if joining = .beforeLineEnd then none
    else do return (← codePoint? [a, b]) :: (← unescape .none rest)
  | '\\' :: 'u' :: a :: b :: c :: d :: rest =>
    if joining = .beforeLineEnd then none
    else do return (← codePoint? [a, b, c, d]) :: (← unescape .none rest)
  | '\\' :: 'U' :: a :: b :: c :: d :: e :: f :: g :: h :: rest =>
    if joining = .beforeLineEnd then none
    else do return (← codePoint? [a, b, c, d, e, f, g, h]) :: (← unescape .none rest)
  | '\\' :: c :: rest =>
    if joining = .beforeLineEnd then none
    else if c = ' ' ∨ c = '\t' ∨ c = '\r' then unescape .beforeLineEnd rest
    else if c = '\n' then unescape .afterLineEnd rest
    else do return (← shortEscape? c) :: (← unescape .none rest)
  | c :: rest =>
    if joining ≠ .none ∧ (c = ' ' ∨ c = '\t') then unescape joining rest
    else if joining = .beforeLineEnd then none
    else (unescape .none rest).map (c :: ·)

/-- A text without the line end that may stand in front. -/
def dropLineEnd : List Char → List Char
  | '\n' :: rest => rest
  | '\r' :: '\n' :: rest => rest
  | text => text

/-- The string on one line that starts a text, and what follows. -/
def lineString? : List Char → Option (String × List Char)
  | '"' :: rest => do
    let (body, rest) ← cutLine '"' true rest
    return (String.ofList (← unescape .none body), rest)
  | '\'' :: rest => do
    let (body, rest) ← cutLine '\'' false rest
    return (String.ofList body, rest)
  | _ => none

/-- The string that starts a text, on one line or over several, and what follows. -/
def string? : List Char → Option (String × List Char)
  | '"' :: '"' :: '"' :: rest => do
    let (body, rest) ← cutLines '"' true (dropLineEnd rest)
    return (String.ofList (← unescape .none body), rest)
  | '\'' :: '\'' :: '\'' :: rest => do
    let (body, rest) ← cutLines '\'' false (dropLineEnd rest)
    return (String.ofList body, rest)
  | text => lineString? text

end StorageTyping.Toml
