import ServiceProbe.Text.Numeral

/-!
Patterns that the values of a probe's arguments have to match. A pattern keeps
the text it was written as, because messages show it, and either says which
values match it or why it cannot be used. A value matches when any part of it
does.
-/

namespace ServiceProbe

structure Pattern where
  source : String
  matcher : Except String (String → Bool)

namespace Pattern

/-- Whether one text occurs inside another. -/
def contains (part s : List Char) : Bool :=
  match s with
  | [] => part = []
  | _ :: rest => part.isPrefixOf s || contains part rest

/-- Every value matches. -/
def anything : Pattern := ⟨".*", .ok fun _ => true⟩

/-- One decimal digit or more and nothing else. -/
def digits : Pattern :=
  ⟨"^[0-9]+$", .ok fun s => !s.isEmpty && s.toList.all fun c => (Text.digit? c).isSome⟩

/-- Values in which one of the given words occurs. -/
def anyOf (words : List String) : Pattern :=
  ⟨String.intercalate "|" words,
    .ok fun s => words.any fun word => contains word.toList s.toList⟩

/-- A pattern that cannot be used. -/
def malformed (source problem : String) : Pattern := ⟨source, .error problem⟩

end Pattern

end ServiceProbe
