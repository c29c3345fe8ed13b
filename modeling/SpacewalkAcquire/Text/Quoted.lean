import SpacewalkAcquire.Text.Printable

/-!
# Quoted text

`Text.quote` writes a text between double quotes. Quotes, backslashes and the usual control characters have a
backslash in front; a character that would not show, or would join the one before it, is written by its number.
-/

namespace SpacewalkAcquire.Text

/-- The number of a character in hexadecimal, between braces. -/
def numberEscape (c : Char) : List Char :=
  ['\\', 'u', '\x7b'] ++ Nat.toDigits 16 c.toNat ++ ['\x7d']

def quoteChar (c : Char) : List Char :=
  if c = '\x00' then ['\\', '0']
  else if c = '\t' then ['\\', 't']
  else if c = '\n' then ['\\', 'n']
  else if c = '\r' then ['\\', 'r']
  else if c = '"' || c = '\\' then ['\\', c]
  else if isPrintable c && !isCombining c then [c]
  else numberEscape c

def quote (s : String) : String := String.ofList (['"'] ++ s.toList.flatMap quoteChar ++ ['"'])

end SpacewalkAcquire.Text
