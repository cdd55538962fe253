import OperatorSource.Text.Unprintable

/-!
# Quoted text

A text is shown unambiguously between double quotes: quotes, backslashes and the usual control
characters are escaped by a backslash, and every other character that has no glyph of its own is
written by its code point.
-/

namespace OperatorSource.Text

/-- The hexadecimal digits of a number, in lower case and without leading zeros. -/
def lowerHex (number : Nat) : String := String.ofList (Nat.toDigits 16 number)

/-- One character as it is written between double quotes. -/
def quoteChar (character : Char) : String :=
  if character = '\x00' then "\\0"
  else if character = '\t' then "\\t"
  else if character = '\n' then "\\n"
  else if character = '\r' then "\\r"
  else if character = '"' then "\\\""
  else if character = '\\' then "\\\\"
  else if isUnprintable character then "\\u\x7b" ++ lowerHex character.toNat ++ "\x7d"
  else character.toString

/-- A text between double quotes, escaped so that it can be read back. -/
def quote (text : String) : String :=
  "\"" ++ String.join (text.toList.map quoteChar) ++ "\""

end OperatorSource.Text
