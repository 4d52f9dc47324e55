import ServiceProbe.Settings.Reader

/-!
Settings as the text of a settings file: one object with all fields in their
order. Times are written as the shortest decimals that stand for their seconds.
-/

namespace ServiceProbe.Settings

open Text

/-- A character of a string. Quotes, backslashes and controls are escaped. -/
def writeChar (c : Char) : List Char :=
  if c = '"' then ['\\', '"']
  else if c = '\\' then ['\\', '\\']
  else if c = '\x08' then ['\\', 'b']
  else if c = '\t' then ['\\', 't']
  else if c = '\n' then ['\\', 'n']
  else if c = '\x0C' then ['\\', 'f']
  else if c = '\r' then ['\\', 'r']
  else if c.toNat < 0x20 then
    "\\u00".toList ++ [Nat.digitChar (c.toNat / 16), Nat.digitChar (c.toNat % 16)]
  else [c]

def writeText (s : String) : List Char :=
  '"' :: s.toList.flatMap writeChar ++ ['"']

def writeFlag (b : Bool) : List Char := if b then "true".toList else "false".toList

def writeTime (d : Duration) : List Char := d.toSeconds.jsonText.toList

/-- The value of a field. -/
def writeField (settings : Settings) : Field → List Char
  | .redisHost => writeText settings.redisHost
  | .redisSocket => writeText settings.redisSocket
  | .redisPassword => writeText settings.redisPassword
  | .redisDb => (toString settings.redisDb).toList
  | .redisTimeout => writeTime settings.redisTimeout
  | .timeout => writeTime settings.timeout
  | .ipv4 => writeFlag settings.ipv4
  | .ipv6 => writeFlag settings.ipv6

def writeMember (settings : Settings) (field : Field) : List Char :=
  writeText field.name ++ ':' :: settings.writeField field

def toJson (settings : Settings) : List Char :=
  let members := (Field.all.map settings.writeMember).intersperse [',']
  '\x7b' :: members.flatten ++ ['\x7d']

end ServiceProbe.Settings
