import Handclap.Text.WhiteSpace
import Handclap.Text.GraphemeExtend
import Handclap.Text.Printable

/-!
# Quoted text

A quoted string is written between double quotes so that it can be read back unambiguously: the
quote and the backslash are escaped with a backslash, the tab, carriage return, line feed and
NUL have their short escapes, and every character that would not show as itself is written as
`\u` followed by its code point in lowercase hexadecimal, without leading zeros, between braces.
Grapheme extenders are escaped too, wherever they stand, so that none of them attaches to the
character written before it.
-/

namespace Handclap.Text

/-- The text with White_Space characters removed from both ends. -/
def trimWhiteSpace (s : String) : List Char :=
  ((s.toList.dropWhile isWhiteSpace).reverse.dropWhile isWhiteSpace).reverse

/-- A code point in lowercase hexadecimal, without leading zeros. -/
def hexCode (n : Nat) : String := String.ofList (Nat.toDigits 16 n)

def codeEscape (c : Char) : String := "\\u\x7b" ++ hexCode c.toNat ++ "\x7d"

/-- How one character is written inside quotes. -/
def escapeChar (c : Char) : String :=
  if c = '\x00' then "\\0"
  else if c = '\t' then "\\t"
  else if c = '\r' then "\\r"
  else if c = '\n' then "\\n"
  else if c = '\\' then "\\\\"
  else if c = '"' then "\\\""
  else if isGraphemeExtend c then codeEscape c
  else if isPrintable c then c.toString
  else codeEscape c

/-- The text between double quotes, every character escaped as needed. -/
def quote (s : String) : String :=
  "\"" ++ String.join (s.toList.map escapeChar) ++ "\""

end Handclap.Text
