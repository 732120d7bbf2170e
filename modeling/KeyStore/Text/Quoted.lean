import KeyStore.Text.Combining
import KeyStore.Text.Unprintable

/-!
# Quoted text

The form in which error messages show a text: between double quotes, with escapes for quotes,
backslashes, the usual controls, and every character that would not be seen on its own.
-/

namespace KeyStore.Text

/-- The escape that gives a character by its code point in lower-case hexadecimal. -/
def codeEscape (c : Char) : List Char :=
  "\\u\x7b".toList ++ Nat.toDigits 16 c.toNat ++ "\x7d".toList

/-- How a character stands between the quotes. -/
def quotedChar (c : Char) : List Char :=
  if c = '"' then ['\\', '"']
  else if c = '\\' then ['\\', '\\']
  else if c = '\n' then ['\\', 'n']
  else if c = '\r' then ['\\', 'r']
  else if c = '\t' then ['\\', 't']
  else if c = '\x00' then ['\\', '0']
  else if isCombining c || isUnprintable c then codeEscape c
  else [c]

/-- The text between double quotes. -/
def quoted (s : String) : String :=
  String.ofList ('"' :: s.toList.flatMap quotedChar ++ ['"'])

end KeyStore.Text
