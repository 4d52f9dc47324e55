/-!
Quoted strings of the mail protocol: a backslash before each backslash and each
double quote, and double quotes around it all.
-/

namespace ServiceProbe.Imap

def quoteChar (c : Char) : List Char :=
  if c = '\\' ∨ c = '"' then ['\\', c] else [c]

def quote (s : String) : String :=
  String.ofList ('"' :: s.toList.flatMap quoteChar ++ ['"'])

/-- Reads on inside a quoted string, the characters before in reverse: the
string and what follows its end. A backslash makes the next character literal. -/
def unquoteFrom : List Char → List Char → Option (List Char × List Char)
  | _, [] => none
  | seen, '"' :: rest => some (seen.reverse, rest)
  | seen, '\\' :: c :: rest => unquoteFrom (c :: seen) rest
  | _, ['\\'] => none
  | seen, c :: rest => unquoteFrom (c :: seen) rest

/-- Reads a quoted string at the front of a text. -/
def unquote? : List Char → Option (List Char × List Char)
  | '"' :: rest => unquoteFrom [] rest
  | _ => none

end ServiceProbe.Imap
