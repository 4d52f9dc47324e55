import ServiceProbe.Parser

/-!
Sources of tests: files and standard input, as a run finds them. Lines end with
a line feed, and a carriage return before it goes with it. A line that is not
UTF-8 cannot be read; the lines after it can, and are numbered as if it was not
there.
-/

namespace ServiceProbe

open Text

/-- The path that stands for standard input. -/
def standardInputPath : String := "-"

/-- What is found under a name. -/
inductive Entry where
  | file (content : Bytes)
  | directory
  /-- A unix socket: there, but not to be opened. -/
  | socket
  /-- A file that the system will not open. -/
  | locked (error : IoError)
  deriving DecidableEq, Repr

/-- The files of a working directory, by their paths in it, and what comes on
standard input. -/
structure Files where
  entries : List (String × Entry)
  standardInput : Bytes

namespace Files

def empty : Files := ⟨[], []⟩

/-- The parts of a path between slashes. -/
def parts (path : String) : List (List Char) :=
  (path.splitOn "/").map String.toList

/-- Parts that stay where they are: empty ones and a dot. -/
def stays (part : List Char) : Bool :=
  part = [] || part = ['.']

/-- The parts of a path that lead somewhere. -/
def components (path : String) : List (List Char) :=
  (parts path).filter (!stays ·)

/-- The part that leads back up. -/
def upward : List Char := ['.', '.']

/-- Longest path that the system takes, its end included. -/
def pathLimit : Nat := 4096

/-- Longest name of a file. -/
def nameLimit : Nat := 255

/-- What stands at a place in the tree. Directories are also those that the
paths of entries lead through. -/
def entryAt (files : Files) (place : List (List Char)) : Option Entry :=
  match files.entries.find? fun (name, _) => components name == place with
  | some (_, entry) => some entry
  | none =>
    if files.entries.any fun (name, _) => place.isPrefixOf (components name) then
      some .directory
    else none

/-- Goes down a path from a directory. Nothing lies beyond a file, not even the
file itself. Above the working directory nothing is known. -/
def walk (files : Files) (place : List (List Char)) : List (List Char) → Except IoError Entry
  | [] => .ok .directory
  | part :: later =>
    if stays part then walk files place later
    else if part = upward then
      if place ≠ [] then walk files place.dropLast later
      else if later.all fun part => stays part || part = upward then .ok .directory
      else .error .noSuchFile
    else if nameLimit < byteLength part then .error .nameTooLong
    else
      match files.entryAt (place ++ [part]) with
      | none => .error .noSuchFile
      | some .directory => walk files (place ++ [part]) later
      | some entry => if later = [] then .ok entry else .error .notADirectory

/-- Whether a path begins outside the working directory. -/
def leadsOut (path : String) : Bool :=
  path.startsWith "/" || (components path).head? = some upward

/-- What a path outside names: it is known only if an entry has this very name. -/
def findOutside (files : Files) (path : String) : Except IoError Entry :=
  match files.entries.lookup path with
  | some entry => .ok entry
  | none =>
    if (components path).all (· = upward) then .ok .directory else .error .noSuchFile

/-- Finds what a path names, seen from the working directory. -/
def find (files : Files) (path : String) : Except IoError Entry :=
  if '\x00' ∈ path.toList then .error .nulInName
  else if path = "" then .error .noSuchFile
  else if pathLimit ≤ path.utf8ByteSize then .error .nameTooLong
  else if leadsOut path then files.findOutside path
  else files.walk [] (parts path)

end Files

/-- What reading an opened source gives: its bytes, or an error at the start. -/
inductive Source where
  | content (bytes : Bytes)
  | unreadable (error : IoError)
  deriving DecidableEq, Repr

/-- Opens a source. A directory can be opened; it cannot be read. -/
def openSource (files : Files) (path : String) : Except IoError Source :=
  if path = standardInputPath then .ok (.content files.standardInput)
  else
    match files.find path with
    | .error e => .error e
    | .ok (.file content) => .ok (.content content)
    | .ok .directory => .ok (.unreadable .isADirectory)
    | .ok .socket => .error .noSuchDevice
    | .ok (.locked e) => .error e

def carriageReturn : UInt8 := 0x0D

/-- A line without the carriage return at its end. -/
def dropReturn (line : Bytes) : Bytes :=
  match line.getLast? with
  | some b => if b = carriageReturn then line.dropLast else line
  | none => line

/-- The lines of a content. What follows the last line feed is a line if it is
not empty, and keeps its carriage return. -/
def splitLines (content : Bytes) : List Bytes :=
  if content = [] then []
  else
    match _h : content.dropWhile (· != lineFeed) with
    | [] => [content]
    | _ :: rest => dropReturn (content.takeWhile (· != lineFeed)) :: splitLines rest
termination_by content.length
decreasing_by
  have h1 := (List.dropWhile_suffix (· != lineFeed) (l := content)).length_le
  rw [_h, List.length_cons] at h1
  omega

namespace Parser

/-- Reads one line of a source, after so many that were counted: what it yields,
if anything, and the new count. A line that is not UTF-8 is not counted. -/
def takeLine (parser : Parser) (registry : Registry) (source : String) (number : Nat)
    (line : Bytes) : Option (Except ParseError Test) × Nat × Parser :=
  match decode? line with
  | none => (some (.error (.read source .notUtf8)), number, parser)
  | some text =>
    match parser.parseLine registry (String.ofList text) (number + 1) with
    | (.ok none, parser) => (none, number + 1, parser)
    | (.ok (some test), parser) => (some (.ok test), number + 1, parser)
    | (.error e, parser) => (some (.error e), number + 1, parser)

/-- Reads the lines that are left of a source, the next one to be counted as
`number + 1`. -/
def testsFrom (parser : Parser) (registry : Registry) (source : String) :
    (number : Nat) → List Bytes → List (Except ParseError Test) × Parser
  | _, [] => ([], parser)
  | number, line :: lines =>
    let (result, number, parser) := parser.takeLine registry source number line
    let (results, parser) := testsFrom parser registry source number lines
    (result.toList ++ results, parser)

/-- All that a content yields, tests and errors in the order of the lines. -/
def tests (parser : Parser) (registry : Registry) (content : Bytes) (source : String) :
    List (Except ParseError Test) × Parser :=
  parser.testsFrom registry source 0 (splitLines content)

/-- All that an opened source yields. -/
def testsOf (parser : Parser) (registry : Registry) (source : Source) (name : String) :
    List (Except ParseError Test) × Parser :=
  match source with
  | .content bytes => parser.tests registry bytes name
  | .unreadable e => ([.error (.read name e)], parser)

/-- The tests of a list of results, or the first error in it. -/
def allTests : List (Except ParseError Test) → Except ParseError (List Test)
  | [] => .ok []
  | .error e :: _ => .error e
  | .ok test :: results => (allTests results).map (test :: ·)

/-- All tests of the source at a path, or the first error. -/
def parsePath (parser : Parser) (registry : Registry) (files : Files) (path : String) :
    Except ParseError (List Test) × Parser :=
  match openSource files path with
  | .error e => (.error (.read path e), parser)
  | .ok source =>
    let (results, parser) := parser.testsOf registry source path
    (allTests results, parser)

end Parser

end ServiceProbe
