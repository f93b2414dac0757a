import Ember.Text.Printable

/-!
# Quoted texts

A text between quotes, on one line and in printable characters only: the quote
itself and the backslash have a backslash in front of them, line ends, tabs and
the null character have a letter, and every other character without a visible
form is written as its code point.
-/

namespace Ember.Text

/-- The code point of a character in braces, in hexadecimal digits. -/
def codePointEscape (char : Char) : String :=
  "\\u\x7b" ++ String.ofList (Nat.toDigits 16 char.toNat) ++ "\x7d"

/-- A character as it stands between quotes of the given kind. -/
def escaped (quote char : Char) : String :=
  if char = '\x00' then "\\0"
  else if char = '\t' then "\\t"
  else if char = '\r' then "\\r"
  else if char = '\n' then "\\n"
  else if char = '\\' || char = quote then "\\" ++ char.toString
  else if isPrintable char then char.toString
  else codePointEscape char

/-- A text in double quotes. -/
def quoted (text : String) : String :=
  "\"" ++ String.join (text.toList.map (escaped '"')) ++ "\""

/-- A character in single quotes. -/
def quotedChar (char : Char) : String :=
  "'" ++ escaped '\'' char ++ "'"

end Ember.Text
