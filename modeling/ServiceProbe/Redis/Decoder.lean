import ServiceProbe.Redis.Value
import ServiceProbe.Text.Blank

/-!
The decoder of replies. A reply begins with a mark for its kind; a line follows,
which ends with carriage return and line feed and is the reply itself, the size
of data that come next, or the number of replies that make up a list. An error
inside a list is the error of the whole list.

Bytes come in chunks that may cut a reply anywhere. The decoder takes them off
its buffer in whole pieces and keeps between two pieces what comes next and
which lists are still open. Main statement: every piece brings the end nearer
(`weight_of_moved`), so decoding ends.
-/

namespace ServiceProbe.Redis

open Text

inductive Kind where
  | status
  | error
  | integer
  | data
  | list
  deriving DecidableEq, Repr

/-- The kind of reply that begins with a byte. -/
def Kind.ofMark? (mark : UInt8) : Option Kind :=
  if mark = 0x2B then some status
  else if mark = 0x2D then some error
  else if mark = 0x3A then some integer
  else if mark = 0x24 then some data
  else if mark = 0x2A then some list
  else none

/-- A list of which elements are missing. -/
structure OpenList where
  missing : Nat
  /-- The elements so far, the latest first, or the first error among them. -/
  elements : Except Failure (List Value)

namespace OpenList

def add (list : OpenList) (reply : Reply) : OpenList where
  missing := list.missing - 1
  elements := list.elements.bind fun elements => reply.map (· :: elements)

/-- What a list of which nothing is missing amounts to. -/
def reply (list : OpenList) : Reply :=
  list.elements.map fun elements => .list elements.reverse

end OpenList

/-- Hands a reply to the innermost open list. The last element completes a list,
which then is a reply to the next one. -/
def deliver (reply : Reply) : List OpenList → Reply ⊕ List OpenList
  | [] => .inl reply
  | list :: outer =>
    let list := list.add reply
    if list.missing = 0 then deliver list.reply outer else .inr (list :: outer)

/-! ### What makes no sense -/

/-- Why a reply makes no sense. -/
structure Malformation where
  unexpected : List String
  expected : List String
  notes : List String
  deriving DecidableEq, Repr

namespace Malformation

/-- A malformation with its place, a line each; nothing is said twice. -/
def report (fault : Malformation) (offset : Nat) : String :=
  let lines := s!"Parse error at {offset}" ::
    fault.unexpected.eraseDups.map ("Unexpected " ++ ·) ++
    fault.expected.map ("Expected " ++ ·) ++ fault.notes.eraseDups
  String.join (lines.map (· ++ "\n"))

def byteText (b : UInt8) : String := "`" ++ toString b.toNat ++ "`"

/-- Something unexpected after which a byte is left over. -/
def unexpectedBefore (rest : Bytes) (what : String) : Malformation :=
  ⟨(rest.head?.map byteText).toList ++ [what], [], []⟩

def noted (note : String) : Malformation := ⟨[], [], [note]⟩

def noInteger : Malformation := noted "Expected integer, got garbage"

def notUtf8 : Malformation := noted "invalid utf-8 sequence"

def tooDeep (rest : Bytes) : Malformation :=
  unexpectedBefore rest "Maximum recursion depth exceeded"

/-- Data that do not end where they should. -/
def noReturn (b : UInt8) : Malformation := ⟨[byteText b], ["crlf newline"], []⟩

def noLineFeed (b : UInt8) : Malformation := ⟨[byteText b], [], []⟩

def cutShort : Malformation := ⟨["end of input"], [], []⟩

/-- A malformation inside open lists. -/
def inside (lists : List OpenList) (fault : Malformation) : Malformation :=
  { fault with
    notes := fault.notes ++ lists.map fun list => s!"expected {list.missing} more elements" }

end Malformation

/-! ### Pieces -/

/-- What is read next. -/
inductive Piece where
  | mark
  | line (kind : Kind)
  | data (size : Nat)
  /-- The end of the line that data have for themselves. -/
  | lineEnd (data : Bytes)

structure Decoder where
  /-- Bytes that have come and are not decoded yet. -/
  buffer : Bytes
  next : Piece
  /-- The lists that the next piece is in, the innermost first. -/
  lists : List OpenList

/-- What reading a piece leads to. -/
inductive Step where
  | moved (decoder : Decoder)
  | finished (reply : Reply) (decoder : Decoder)
  | incomplete
  /-- A piece makes no sense from the bytes in `rest` on. -/
  | malformed (rest : Bytes) (fault : Malformation)

/-- How many lists may be inside each other. -/
def depthLimit : Nat := 100

/-- A line up to its end, and what follows. -/
def splitLine : Bytes → Option (Bytes × Bytes)
  | 0x0D :: 0x0A :: rest => some ([], rest)
  | [] => none
  | b :: rest => (splitLine rest).map fun (line, rest) => (b :: line, rest)

theorem length_of_splitLine {bytes line rest : Bytes} (h : splitLine bytes = some (line, rest)) :
    rest.length < bytes.length := by
  fun_induction splitLine bytes generalizing line with
  | case1 rest => cases h; simp only [List.length_cons]; omega
  | case2 => cases h
  | case3 b bytes _ ih =>
    obtain ⟨⟨line', rest'⟩, h', heq⟩ := Option.map_eq_some_iff.1 h
    cases heq
    have := ih h'
    simp only [List.length_cons]
    omega

namespace Decoder

def start : Decoder := ⟨[], .mark, []⟩

def feed (d : Decoder) (chunk : Bytes) : Decoder :=
  { d with buffer := d.buffer ++ chunk }

/-- Goes on after a whole reply. -/
def complete (lists : List OpenList) (rest : Bytes) (reply : Reply) : Step :=
  match deliver reply lists with
  | .inl reply => .finished reply ⟨rest, .mark, []⟩
  | .inr lists => .moved ⟨rest, .mark, lists⟩

def readMark (d : Decoder) : Step :=
  match d.buffer with
  | [] => .incomplete
  | mark :: rest =>
    match Kind.ofMark? mark with
    | none => .malformed rest (.unexpectedBefore rest (Malformation.byteText mark))
    | some kind =>
      if kind = .list ∧ depthLimit ≤ d.lists.length then .malformed rest (.tooDeep rest)
      else .moved ⟨rest, .line kind, d.lists⟩

/-- What a line with a number leads to. Less than nothing is no value. -/
def readSize (lists : List OpenList) (rest : Bytes) (number : Int) : Kind → Step
  | .data =>
    if number < 0 then complete lists rest (.ok .null)
    else .moved ⟨rest, .data number.toNat, lists⟩
  | .list =>
    if number < 0 then complete lists rest (.ok .null)
    else if number = 0 then complete lists rest (.ok (.list []))
    else .moved ⟨rest, .mark, ⟨number.toNat, .ok []⟩ :: lists⟩
  | _ => complete lists rest (.ok (.integer number))

def readLine (d : Decoder) (kind : Kind) : Step :=
  match splitLine d.buffer with
  | none => .incomplete
  | some (line, rest) =>
    match decode? line with
    | none => .malformed d.buffer .notUtf8
    | some text =>
      match kind with
      | .status =>
        complete d.lists rest (.ok (if text = "OK".toList then .okay else .status text))
      | .error => complete d.lists rest (.error (.ofLine text))
      | kind =>
        match readInt maxInteger (trim text) with
        | .error _ => .malformed d.buffer .noInteger
        | .ok number => readSize d.lists rest number kind

def readData (d : Decoder) (size : Nat) : Step :=
  if d.buffer.length < size then .incomplete
  else .moved ⟨d.buffer.drop size, .lineEnd (d.buffer.take size), d.lists⟩

def readLineEnd (d : Decoder) (data : Bytes) : Step :=
  match d.buffer with
  | [] => .incomplete
  | 0x0D :: rest =>
    match rest with
    | [] => .incomplete
    | 0x0A :: rest => complete d.lists rest (.ok (.data data))
    | b :: _ => .malformed rest (.noLineFeed b)
  | b :: _ => .malformed d.buffer (.noReturn b)

def step (d : Decoder) : Step :=
  match d.next with
  | .mark => d.readMark
  | .line kind => d.readLine kind
  | .data size => d.readData size
  | .lineEnd data => d.readLineEnd data

/-! ### Decoding ends -/

/-- What is left to read; data may be empty, so they count by themselves. -/
def weight (d : Decoder) : Nat :=
  2 * d.buffer.length + match d.next with
    | .data _ => 1
    | _ => 0

theorem weight_of_complete {lists : List OpenList} {rest : Bytes} {reply : Reply} {d : Decoder}
    (h : complete lists rest reply = .moved d) : d.weight = 2 * rest.length := by
  unfold complete at h
  split at h
  · cases h
  · cases h
    rfl

theorem weight_of_readSize {lists : List OpenList} {rest : Bytes} {number : Int} {kind : Kind}
    {d : Decoder} (h : readSize lists rest number kind = .moved d) :
    d.weight ≤ 2 * rest.length + 1 := by
  have done {reply : Reply} (h : complete lists rest reply = .moved d) :
      d.weight ≤ 2 * rest.length + 1 := by
    have := weight_of_complete h
    omega
  unfold readSize at h
  split at h
  · split at h
    · exact done h
    · cases h; simp only [weight]; omega
  · split at h
    · exact done h
    · split at h
      · exact done h
      · cases h; simp only [weight]; omega
  · exact done h

theorem weight_of_readLine {d next : Decoder} {kind : Kind} (h : d.readLine kind = .moved next) :
    next.weight < 2 * d.buffer.length := by
  unfold readLine at h
  split at h
  · cases h
  · rename_i line rest split_eq
    have shorter := length_of_splitLine split_eq
    have done {reply : Reply} (h : complete d.lists rest reply = .moved next) :
        next.weight < 2 * d.buffer.length := by
      have := weight_of_complete h
      omega
    split at h
    · cases h
    · split at h
      · exact done h
      · exact done h
      · split at h
        · cases h
        · have := weight_of_readSize h
          omega

theorem weight_of_moved {d next : Decoder} (h : d.step = .moved next) : next.weight < d.weight := by
  unfold step at h
  split at h
  · rename_i next_eq
    unfold readMark at h
    split at h
    · cases h
    · rename_i buffer_eq
      split at h
      · cases h
      · split at h
        · cases h
        · cases h
          simp only [weight, buffer_eq, List.length_cons]
          omega
  · have := weight_of_readLine h
    simp only [weight] at this ⊢
    omega
  · rename_i next_eq
    unfold readData at h
    split at h
    · cases h
    · cases h
      simp only [weight, next_eq, List.length_drop]
      omega
  · unfold readLineEnd at h
    split at h
    · cases h
    · rename_i rest buffer_eq
      split at h
      · cases h
      · have := weight_of_complete h
        simp only [weight, buffer_eq, List.length_cons] at this ⊢
        omega
      · cases h
    · cases h

/-! ### Decoding -/

/-- What decoding a buffer comes to. -/
inductive Outcome where
  | reply (reply : Reply) (decoder : Decoder)
  | incomplete (decoder : Decoder)
  | malformed (report : String)

/-- Reads pieces off a buffer that had `size` bytes at first. -/
def decodeFrom (size : Nat) (d : Decoder) : Outcome :=
  match _h : d.step with
  | .moved next => decodeFrom size next
  | .finished reply next => .reply reply next
  | .incomplete => .incomplete d
  | .malformed rest fault => .malformed ((fault.inside d.lists).report (size - rest.length))
termination_by d.weight
decreasing_by exact weight_of_moved _h

/-- Reads a reply off the buffer if there is a whole one. Places are counted from
where the buffer begins now. -/
def decode (d : Decoder) : Outcome := decodeFrom d.buffer.length d

/-- Reads a reply off the buffer and off as many chunks as it takes. -/
def decodeChunks (d : Decoder) : List Bytes → Outcome × List Bytes
  | [] => (d.decode, [])
  | chunk :: later =>
    match d.decode with
    | .incomplete d => (d.feed chunk).decodeChunks later
    | outcome => (outcome, chunk :: later)

/-- What is wrong when no more bytes come: nothing if none are left. -/
def ending (d : Decoder) : Option String :=
  if d.buffer = [] then none
  else
    let offset := match d.next with
      | .data _ => 0
      | _ => d.buffer.length
    some ((Malformation.cutShort.inside d.lists).report offset)

end Decoder

end ServiceProbe.Redis
