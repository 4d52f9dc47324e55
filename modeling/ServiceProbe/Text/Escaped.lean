import ServiceProbe.Text.Printable

/-!
Texts quoted for a reader of a message: between double quotes, with a backslash
before quotes and backslashes, short escapes for the common controls, and the
code point in braces for everything else that cannot be shown as it is.
-/

namespace ServiceProbe.Text

def lowerHex (n : Nat) : List Char :=
  Nat.toDigits 16 n

def escapeChar (c : Char) : List Char :=
  if c.toNat = 0 then ['\\', '0']
  else if c = '\t' then ['\\', 't']
  else if c = '\r' then ['\\', 'r']
  else if c = '\n' then ['\\', 'n']
  else if c = '"' then ['\\', '"']
  else if c = '\\' then ['\\', '\\']
  else if isPrintable c && !extendsGrapheme c then [c]
  else "\\u\x7b".toList ++ lowerHex c.toNat ++ ['\x7d']

def quoted (s : List Char) : List Char :=
  '"' :: s.flatMap escapeChar ++ ['"']

end ServiceProbe.Text
