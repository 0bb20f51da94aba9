/-
# Quoted text

A message names a refused text in double quotes. Quotes, backslashes and the
usual controls are written with a backslash and a letter; a character that
would not show, or would join the character before it, is written as its code
point in hexadecimal. Every other character, the apostrophe included, stands
for itself.
-/

import DecimalComputer.Text.Combining
import DecimalComputer.Text.Unprintable

namespace DecimalComputer.Text

/-- A code point between braces, in lower-case hexadecimal without leading zeros. -/
def codePoint (c : Char) : List Char :=
  ['\\', 'u', '\x7b'] ++ Nat.toDigits 16 c.toNat ++ ['\x7d']

/-- The written form of one character inside quotes. -/
def escape (c : Char) : List Char :=
  if c = '"' then ['\\', '"']
  else if c = '\\' then ['\\', '\\']
  else if c = '\n' then ['\\', 'n']
  else if c = '\r' then ['\\', 'r']
  else if c = '\t' then ['\\', 't']
  else if c = '\x00' then ['\\', '0']
  else if isUnprintable c || isCombining c then codePoint c
  else [c]

/-- A text in double quotes. -/
def quoted (text : String) : String :=
  String.ofList ('"' :: text.toList.flatMap escape ++ ['"'])

example : quoted "it's" = "\"it's\"" := by decide +kernel

example : quoted "a\"\\\n\x1b" = "\"a\\\"\\\\\\n\\u\x7b1b\x7d\"" := by decide +kernel

end DecimalComputer.Text
