import GrammarSets.Text.Unprintable

/-!
# Quoted names

A name is quoted in double quotes. A quote, a backslash and the control characters
NUL, tab, carriage return and line feed have escapes of two characters; every
other character that is not shown as it is becomes its code point in lower case
hexadecimal, as in `\u{1b}`.
-/
namespace GrammarSets.Text

/-- A code point in lower case hexadecimal, without leading zeros. -/
def hex (n : Nat) : List Char := Nat.toDigits 16 n

/-- A character inside double quotes. -/
def quotedChar (c : Char) : List Char :=
  if c = '\x00' then ['\\', '0']
  else if c = '\t' then ['\\', 't']
  else if c = '\r' then ['\\', 'r']
  else if c = '\n' then ['\\', 'n']
  else if c = '"' then ['\\', '"']
  else if c = '\\' then ['\\', '\\']
  else if isShown c then [c]
  else ['\\', 'u', '\x7b'] ++ hex c.toNat ++ ['\x7d']

/-- A text in double quotes. -/
def quoted (text : String) : String :=
  String.ofList ('"' :: text.toList.flatMap quotedChar ++ ['"'])

end GrammarSets.Text
