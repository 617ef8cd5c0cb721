import StorageTyping.Decimal.Reading
import StorageTyping.Toml.Value

/-!
# Plain scalars of a document

Numbers, truth values, dates and times: the values that are written without quotes. Each is
recognised from its whole text. The fields of dates and times are checked against the calendar
and the clock.

Underscores stand between digits. A decimal integer has no leading zeros; hexadecimal, octal and
binary integers have no sign. Of an integer only the outline is checked, which is the characters
around its underscores and, in the other bases, all of them; a text of that outline that
stands for no integer is a value without a number.
-/

namespace StorageTyping.Toml

/-- The value of a digit in bases up to sixteen. -/
def digitValue (c : Char) : Nat :=
  if c.isDigit then c.toNat - '0'.toNat
  else if 'a' ≤ c ∧ c ≤ 'f' then c.toNat - 'a'.toNat + 10
  else if 'A' ≤ c ∧ c ≤ 'F' then c.toNat - 'A'.toNat + 10
  else 16

/-- Whether a character is a digit of a base. -/
def isDigitOf (base : Nat) (c : Char) : Bool := digitValue c < base

/-- The number that digits stand for. -/
def digitsValue (base : Nat) (digits : List Char) : Nat :=
  digits.foldl (fun value c => base * value + digitValue c) 0

/-- The natural number of digits in a base, if there are digits and all are of the base. -/
def natural? (base : Nat) (digits : List Char) : Option Nat :=
  if !digits.isEmpty && digits.all (isDigitOf base) then some (digitsValue base digits) else none

/-- A text without its underscores. -/
def dropUnderscores (text : List Char) : List Char := text.filter (· ≠ '_')

/-- Whether every underscore has a digit on both sides, in a text that comes after a digit or
after something else. -/
def underscoresFit (isDigit : Char → Bool) : Bool → List Char → Bool
  | _, [] => true
  | afterDigit, '_' :: rest =>
    afterDigit && rest.head?.any isDigit && underscoresFit isDigit false rest
  | _, c :: rest => underscoresFit isDigit (isDigit c) rest

/-- Whether every underscore of a text stands between digits. -/
def isSeparated (isDigit : Char → Bool) (text : List Char) : Bool :=
  underscoresFit isDigit false text

/-- Take the sign off a text; also whether it is a minus. -/
def takeSign : List Char → Bool × List Char
  | '-' :: rest => (true, rest)
  | '+' :: rest => (false, rest)
  | text => (false, text)

/-- A number with its sign. -/
def signed (negative : Bool) (magnitude : Nat) : Int :=
  if negative then -(magnitude : Int) else magnitude

/-- The integer of a text behind the mark of its base. -/
def markedInteger? (base : Nat) (text : List Char) : Option Value :=
  if text.all (fun c => c = '_' || isDigitOf base c) && isSeparated (isDigitOf base) text then
    some (.integer ((natural? base (dropUnderscores text)).map (↑·)))
  else none

/-- The decimal integer of a text. Next to its underscores, letters count as digits as well. -/
def decimalInteger? (text : List Char) : Option Value :=
  let (negative, magnitude) := takeSign text
  if magnitude.head? = some '0' ∧ 1 < magnitude.length then none
  else if isSeparated (isDigitOf 16) text then
    some (.integer ((natural? 10 (dropUnderscores magnitude)).map (signed negative)))
  else none

/-- Take digits off a text, at least one, and drop the underscores among them. -/
def takeDigits? (text : List Char) : Option (List Char × List Char) :=
  let isPart (c : Char) : Bool := c.isDigit || c = '_'
  match dropUnderscores (text.takeWhile isPart) with
  | [] => none
  | digits => some (digits, text.dropWhile isPart)

/-- Take an exponent of ten off a text, which is zero if there is none. -/
def takeExponent? : List Char → Option (Int × List Char)
  | [] => some (0, [])
  | c :: rest =>
    if c = 'e' || c = 'E' then do
      let (negative, magnitude) := takeSign rest
      let (digits, rest) ← takeDigits? magnitude
      return (signed negative (digitsValue 10 digits), rest)
    else some (0, c :: rest)

/-- The decimal of an unsigned text with a fractional part, an exponent, or both. -/
def decimal? (text : List Char) : Option Decimal := do
  let (whole, rest) ← takeDigits? text
  if text.head? = some '0' ∧ 1 < whole.length then none
  else
    let (fraction, rest) ← match rest with
      | '.' :: rest => takeDigits? rest
      | rest => some ([], rest)
    let (exponent, rest) ← takeExponent? rest
    if rest.isEmpty then some ⟨digitsValue 10 (whole ++ fraction), exponent - fraction.length⟩
    else none

/-- The floating-point value of a text with a point or an exponent. -/
def float? (text : List Char) : Option Value :=
  let (negative, magnitude) := takeSign text
  if isSeparated Char.isDigit text then
    (decimal? magnitude).map fun decimal =>
      match decimal.toDatum .double negative with
      | .infinite _ => .float none
      | datum => .float (some datum)
  else none

/-- The number of a text without the mark of a base. What follows its first digits says whether
it is an integer. -/
def number? (text : List Char) : Option Value :=
  let (negative, magnitude) := takeSign text
  let rest := magnitude.dropWhile Char.isDigit
  if magnitude = ['i', 'n', 'f'] then some (.float (some (.infinite negative)))
  else if magnitude = ['n', 'a', 'n'] then some (.float (some (.notANumber negative)))
  else if rest.any fun c => c = '.' || c = 'e' || c = 'E' then float? text
  else if !magnitude.isEmpty && (rest.isEmpty || rest.head? = some '_') then decimalInteger? text
  else none

/-- The number of two decimal digits, and what follows them. -/
def twoDigits? : List Char → Option (Nat × List Char)
  | a :: b :: rest => if a.isDigit && b.isDigit then some (digitsValue 10 [a, b], rest) else none
  | _ => none

/-- The days of a month. -/
def daysInMonth (year month : Nat) : Nat :=
  if month = 2 then
    if year % 4 = 0 ∧ (year % 100 ≠ 0 ∨ year % 400 = 0) then 29 else 28
  else if month = 4 ∨ month = 6 ∨ month = 9 ∨ month = 11 then 30
  else 31

/-- Take a date off a text. -/
def takeDate? (text : List Char) : Option (List Char) := do
  let (century, rest) ← twoDigits? text
  let (yearOfCentury, rest) ← twoDigits? rest
  let '-' :: rest := rest | none
  let (month, rest) ← twoDigits? rest
  let '-' :: rest := rest | none
  let (day, rest) ← twoDigits? rest
  let year := 100 * century + yearOfCentury
  if 1 ≤ month ∧ month ≤ 12 ∧ 1 ≤ day ∧ day ≤ daysInMonth year month then some rest else none

/-- Take a time of day off a text; its seconds, and their fraction, may be left out. -/
def takeTime? (text : List Char) : Option (List Char) := do
  let (hour, rest) ← twoDigits? text
  let ':' :: rest := rest | none
  let (minute, rest) ← twoDigits? rest
  if 23 < hour ∨ 59 < minute then none
  else match rest with
    | ':' :: rest =>
      let (second, rest) ← twoDigits? rest
      if 60 < second then none
      else match rest with
        | '.' :: c :: rest => if c.isDigit then some (rest.dropWhile Char.isDigit) else none
        | rest => some rest
    | rest => some rest

/-- Whether a text is a distance from universal time. -/
def isOffset : List Char → Bool
  | ['Z'] | ['z'] => true
  | sign :: rest =>
    (sign = '+' || sign = '-') &&
      match takeTime? rest with
      | some [] => rest.length = 5
      | _ => false
  | [] => false

/-- Whether a text is a date, a time of day, or a date with a time of day, which alone may have
a distance from universal time. -/
def isMoment (text : List Char) : Bool :=
  match takeDate? text with
  | some [] => true
  | some (separator :: rest) =>
    (separator = 'T' || separator = 't' || separator = ' ') &&
      match takeTime? rest with
      | some [] => true
      | some offset => isOffset offset
      | none => false
  | none => takeTime? text = some []

/-- The value of a text without quotes. -/
def plain? (text : List Char) : Option Value :=
  if isMoment text then some .moment
  else match text with
    | ['t', 'r', 'u', 'e'] => some (.boolean true)
    | ['f', 'a', 'l', 's', 'e'] => some (.boolean false)
    | '0' :: 'x' :: digits => markedInteger? 16 digits
    | '0' :: 'o' :: digits => markedInteger? 8 digits
    | '0' :: 'b' :: digits => markedInteger? 2 digits
    | text => number? text

end StorageTyping.Toml
