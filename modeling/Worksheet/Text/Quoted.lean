import Worksheet.Text.Printable

/-! # Quoted text in messages

    A message that cites a text from outside puts it between double quotes
    and escapes what could not be read otherwise. -/

namespace Worksheet.Text

/-- `c` as its code point: a backslash, `u` and the number in braces, in
    lower-case hexadecimal without leading zeros. -/
def codePointEscape (c : Char) : List Char :=
  ['\\', 'u', '\x7b'] ++ Nat.toDigits 16 c.toNat ++ ['\x7d']

/-- One character inside a quoted text: the double quote, the backslash and
    four common controls have short escapes, an apostrophe stands as it is,
    and what cannot be shown is written as its code point. -/
def quotedChar (c : Char) : List Char :=
  if c = '"' then ['\\', '"']
  else if c = '\\' then ['\\', '\\']
  else if c = '\n' then ['\\', 'n']
  else if c = '\r' then ['\\', 'r']
  else if c = '\t' then ['\\', 't']
  else if c = '\x00' then ['\\', '0']
  else if isPrintable c then [c]
  else codePointEscape c

/-- `s` between double quotes, with escapes. -/
def quoted (s : String) : String :=
  String.ofList ('"' :: (s.toList.flatMap quotedChar ++ ['"']))

end Worksheet.Text
