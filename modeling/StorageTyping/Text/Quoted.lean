import StorageTyping.Text.Unprintable
import StorageTyping.Text.Combining

/-!
# Quoted text

Text in double quotes, so that it can be read off a message or a rendered expression. A double
quote, a backslash, the tab, the two line ends and the null character have short escapes; any
other character that is not printed, or that would combine with the one in front of it, is
written by its code point; every other character stands for itself.
-/

namespace StorageTyping.Text

/-- The escape of a character by its code point, in lower-case hexadecimal digits. -/
def codePointEscape (c : Char) : List Char :=
  ['\\', 'u', '\x7b'] ++ Nat.toDigits 16 c.toNat ++ ['\x7d']

/-- How a character is written between the quotes. -/
def quotedChar (c : Char) : List Char :=
  match c with
  | '"' => ['\\', '"']
  | '\\' => ['\\', '\\']
  | '\t' => ['\\', 't']
  | '\n' => ['\\', 'n']
  | '\r' => ['\\', 'r']
  | '\x00' => ['\\', '0']
  | c => if isUnprintable c || isCombining c then codePointEscape c else [c]

/-- A text in double quotes. -/
def quote (text : String) : String :=
  String.ofList ('"' :: text.toList.flatMap quotedChar ++ ['"'])

end StorageTyping.Text
