import ProxyTestbed.Text.Printable
import ProxyTestbed.Text.Utf8

/-!
# Quoted text

Messages show names and contents in quotes. Single quotes are used unless the text has single quotes
and no double ones; the quote that is used, the backslash and everything that is not printable are
escaped, a character by its code point in hexadecimal.
-/

namespace ProxyTestbed.Text

/-- The last `width` hexadecimal digits of a number, in lower case. -/
def hexDigits : Nat → Nat → List Char
  | 0, _ => []
  | width + 1, n => hexDigits width (n / 16) ++ [Nat.digitChar (n % 16)]

/-- The quote to use for a text that has or has not single and double quotes. -/
def quoteFor (hasSingle hasDouble : Bool) : Char :=
  if hasSingle && !hasDouble then '"' else '\''

/-- A character as it stands between the given quotes. -/
def escapeChar (quote c : Char) : List Char :=
  if c = quote || c = '\\' then ['\\', c]
  else if c = '\n' then ['\\', 'n']
  else if c = '\r' then ['\\', 'r']
  else if c = '\t' then ['\\', 't']
  else if isPrintable c then [c]
  else if c.toNat < 0x100 then '\\' :: 'x' :: hexDigits 2 c.toNat
  else if c.toNat < 0x10000 then '\\' :: 'u' :: hexDigits 4 c.toNat
  else '\\' :: 'U' :: hexDigits 8 c.toNat

/-- A text in quotes. -/
def quoted (s : String) : String :=
  let cs := s.toList
  let quote := quoteFor (cs.contains '\'') (cs.contains '"')
  String.ofList (quote :: cs.flatMap (escapeChar quote) ++ [quote])

/-- A byte as it stands between the given quotes: as the ASCII character it is, if that is visible or
a space. -/
def escapeByte (quote : Char) (b : UInt8) : List Char :=
  if 0x20 ≤ b && b < 0x7F || b = 9 || b = 10 || b = 13 then escapeChar quote (Char.ofNat b.toNat)
  else '\\' :: 'x' :: hexDigits 2 b.toNat

/-- Bytes in quotes, marked by a `b` before them. -/
def quotedBytes (bytes : Bytes) : String :=
  let quote := quoteFor (bytes.contains 39) (bytes.contains 34)
  String.ofList ('b' :: quote :: bytes.flatMap (escapeByte quote) ++ [quote])

end ProxyTestbed.Text
