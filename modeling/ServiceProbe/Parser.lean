import ServiceProbe.Line
import ServiceProbe.Registry
import ServiceProbe.Text.Utf8

/-!
From lines to tests. A line is trimmed; blank lines and comments hold no test.
The protocol of a line has to be registered, and each of its arguments declared
by the probe, given once and matching its pattern. The patterns of a protocol
are compiled when the protocol is first met, and a parser keeps them.
-/

namespace ServiceProbe

open Line Text

/-- A pattern that can be used. -/
structure Rule where
  source : String
  accepts : String → Bool

/-- The compiled patterns of a probe's arguments. -/
abbrev Schema := List (String × Rule)

/-- Compiles the patterns of a protocol; the first that cannot be used is a
fault. -/
def Schema.compile (protocol : String) : List (String × Pattern) → Except LineFault Schema
  | [] => .ok []
  | (name, pattern) :: others =>
    match pattern.matcher with
    | .error problem => .error (.badPattern protocol name problem)
    | .ok accepts => (compile protocol others).map ((name, ⟨pattern.source, accepts⟩) :: ·)

/-- Reads the clauses of a line into arguments. -/
def readArguments (schema : Schema) (protocol : String) (rest : List Char)
    (arguments : List (String × String)) : Except LineFault (List (String × String)) :=
  if trim rest = [] then .ok arguments
  else
    match _hclause : readClause? rest with
    | none => .error (.malformedArguments (String.ofList (trim rest)))
    | some (clause, rest') =>
      let name := String.ofList clause.name
      let value := String.ofList clause.value
      match schema.lookup name with
      | none => .error (.unknownArgument protocol name)
      | some rule =>
        if !rule.accepts value then .error (.invalidValue name value rule.source)
        else if arguments.any (·.1 == name) then .error (.repeatedArgument name)
        else readArguments schema protocol rest' (arguments ++ [(name, value)])
termination_by rest.length
decreasing_by exact length_readClause?_lt _hclause

/-- A parser and the schemas it has compiled. -/
structure Parser where
  schemas : List (String × Schema)

namespace Parser

def fresh : Parser := ⟨[]⟩

/-- The schema of a protocol: the one kept, or else a new one, which is kept. -/
def schema (parser : Parser) (registry : Registry) (protocol : String) :
    Except LineFault Schema × Parser :=
  match parser.schemas.lookup protocol with
  | some schema => (.ok schema, parser)
  | none =>
    match registry.lookup protocol with
    | none => (.error (.unknownProtocol protocol registry.names), parser)
    | some probe =>
      match Schema.compile protocol probe.arguments with
      | .error fault => (.error fault, parser)
      | .ok schema => (.ok schema, ⟨(protocol, schema) :: parser.schemas⟩)

/-- Reads one line: a test, nothing, or a fault. -/
def readLine (parser : Parser) (registry : Registry) (line : List Char) :
    Except LineFault (Option Test) × Parser :=
  let input := trim line
  if input = [] ∨ input.head? = some '#' then (.ok none, parser)
  else
    match readHeader? input with
    | none => (.error (.malformedHeader (String.ofList input)), parser)
    | some header =>
      let protocol := String.ofList header.protocol
      match parser.schema registry protocol with
      | (.error fault, parser) => (.error fault, parser)
      | (.ok schema, parser) =>
        let result := (readArguments schema protocol header.rest []).map fun arguments =>
          some ⟨String.ofList header.target, protocol, String.ofList input, arguments⟩
        (result, parser)

/-- Reads the line of a given number. -/
def parseLine (parser : Parser) (registry : Registry) (line : String) (number : Nat) :
    Except ParseError (Option Test) × Parser :=
  let (result, parser) := parser.readLine registry line.toList
  (result.mapError (.inLine number), parser)

end Parser

end ServiceProbe
