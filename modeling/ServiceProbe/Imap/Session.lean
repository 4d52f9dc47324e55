import ServiceProbe.Imap.Channel
import ServiceProbe.Imap.Quoted

/-!
A client's conversation with a mail server: the greeting, a login and a logout.
Lines end with a line feed, may hold any bytes and are bounded in length. A
command carries a tag of its own; the first later line that carries the tag, or
that asks for a continuation, decides how it ended, and all other lines are
passed over. Failures of a command name the step they happened in; timeouts and
socket failures are handed on as they are.
-/

namespace ServiceProbe.Imap

open Text

/-- The longest line accepted, its terminator included. -/
def maxLineLength : Nat := 65536

/-- The text of a line: decoded, and without the terminators at its end. -/
def lineText (bytes : Bytes) : List Char :=
  ((decodeLossy bytes).reverse.dropWhile fun c => c == '\r' || c == '\n').reverse

namespace Channel

def closedByServer : ProbeError := .protocol "connection closed by server"

def lineTooLong : ProbeError := .protocol s!"server line exceeds {maxLineLength} bytes"

/-- Reads up to and including the next line feed, after bytes of the same line
that were read before. -/
def collect (line : Bytes) (c : Channel) : Except ProbeError Bytes × Channel :=
  match _harm : c.arm with
  | (.error e, armed) => (.error e, armed)
  | (.ok (), armed) =>
    match _hread : armed.available with
    | (.error e, d) => (.error (.ofIo e d.deadline.budget), d)
    | (.ok [], d) => (.error closedByServer, d)
    | (.ok (byte :: bytes), d) =>
      match (byte :: bytes).dropWhile (· != lineFeed) with
      | [] =>
        let line := line ++ byte :: bytes
        if maxLineLength < line.length then (.error lineTooLong, d) else collect line d
      | _ :: rest =>
        let line := line ++ (byte :: bytes).takeWhile (· != lineFeed) ++ [lineFeed]
        let d := { d with buffer := rest }
        if maxLineLength < line.length then (.error lineTooLong, d) else (.ok line, d)
termination_by c.volume
decreasing_by
  have h1 := volume_available _hread
  have h2 : armed.volume = c.volume := by rw [← volume_arm c, _harm]
  simp only [List.length_cons] at h1
  omega

/-- The next line of the server. -/
def readLine (c : Channel) : Except ProbeError (List Char) × Channel :=
  match c.collect [] with
  | (.error e, d) => (.error e, d)
  | (.ok line, d) => (.ok (lineText line), d)

end Channel

/-- What a line means to a command with a given tag. -/
inductive Reply where
  /-- The command is done; the text after the word. -/
  | ok (text : List Char)
  /-- The server refused; what follows the tag. -/
  | refused (status : List Char)
  /-- The tag without a word that can follow it. -/
  | malformed
  /-- The server waits for more of the command. -/
  | continuation
  /-- The line is about something else. -/
  | other
  deriving DecidableEq, Repr

/-- The word at the front of a status and the text after the space behind it. -/
def splitStatus (status : List Char) : List Char × List Char :=
  (status.takeWhile (· != ' '), (status.dropWhile (· != ' ')).drop 1)

def Reply.ofLine (tag line : List Char) : Reply :=
  if (tag ++ [' ']).isPrefixOf line then
    let status := line.drop (tag.length + 1)
    let (word, text) := splitStatus status
    match String.ofList (word.map Char.toUpper) with
    | "OK" => .ok text
    | "NO" | "BAD" => .refused status
    | _ => .malformed
  else if line.head? = some '+' then .continuation
  else .other

/-- How a line ends a command, if it does. -/
def Reply.verdict? (line : List Char) : Reply → Option (Except ProbeError (List Char))
  | .ok text => some (.ok text)
  | .refused status => some (.error (.protocol (String.ofList status)))
  | .malformed => some (.error (.protocol ("malformed response: " ++ String.ofList line)))
  | .continuation =>
    some (.error (.protocol ("unexpected continuation: " ++ String.ofList line)))
  | .other => none

namespace Channel

theorem volume_collect {line out : Bytes} {c d : Channel}
    (h : c.collect line = (.ok out, d)) :
    d.volume + out.length = c.volume + line.length := by
  fun_induction collect line c with
  | case1 => simp at h
  | case2 => simp at h
  | case3 => simp at h
  | case4 => simp at h
  | case5 line c armed harm byte bytes d' hread hdrop line' hlen ih =>
    have h1 := volume_available hread
    have h2 : armed.volume = c.volume := by rw [← volume_arm c, harm]
    have h3 := ih h
    simp only [line', List.length_append] at h3
    omega
  | case6 => simp at h
  | case7 line c armed harm byte bytes d' hread b rest hdrop line' d'' hlen =>
    have h1 := volume_available hread
    have h2 : armed.volume = c.volume := by rw [← volume_arm c, harm]
    simp only [Prod.mk.injEq, Except.ok.injEq] at h
    obtain ⟨rfl, rfl⟩ := h
    have h3 := congrArg List.length
      (List.takeWhile_append_dropWhile (p := (· != lineFeed)) (l := byte :: bytes))
    have h4 : d'.buffer = [] := by rw [← buffer_available armed, hread]
    simp only [hdrop, List.length_append, List.length_cons] at h3
    simp only [volume, h4, List.length_nil] at h1
    simp only [d'', line', volume, List.length_append, List.length_cons, List.length_nil] at *
    omega

theorem length_collect {line out : Bytes} {c d : Channel}
    (h : c.collect line = (.ok out, d)) : line.length < out.length := by
  fun_induction collect line c with
  | case1 => simp at h
  | case2 => simp at h
  | case3 => simp at h
  | case4 => simp at h
  | case5 line c armed harm byte bytes d' hread hdrop line' hlen ih =>
    have := ih h
    simp only [line', List.length_append, List.length_cons] at this
    omega
  | case6 => simp at h
  | case7 line c armed harm byte bytes d' hread b rest hdrop line' d'' hlen =>
    simp only [Prod.mk.injEq, Except.ok.injEq] at h
    rw [← h.1]
    simp only [line', List.length_append, List.length_cons, List.length_nil]
    omega

/-- A line takes bytes away. -/
theorem volume_readLine {c d : Channel} {line : List Char}
    (h : c.readLine = (.ok line, d)) : d.volume < c.volume := by
  unfold readLine at h
  split at h
  · simp at h
  · next hcollect =>
    cases h
    have h1 := volume_collect hcollect
    have h2 := length_collect hcollect
    simp only [List.length_nil] at h1 h2
    omega

/-- Reads lines until one of them ends the command with the given tag. -/
def awaitReply (tag : List Char) (c : Channel) : Except ProbeError (List Char) × Channel :=
  match _hline : c.readLine with
  | (.error e, d) => (.error e, d)
  | (.ok line, d) =>
    match (Reply.ofLine tag line).verdict? line with
    | some verdict => (verdict, d)
    | none => awaitReply tag d
termination_by c.volume
decreasing_by exact volume_readLine _hline

end Channel

/-- A conversation. -/
structure Session where
  channel : Channel
  nextTag : Nat
  /-- The line the server opened with. -/
  greeting : List Char

namespace Session

def start (channel : Channel) : Session := ⟨channel, 1, []⟩

def isGreeting (line : List Char) : Bool :=
  "* OK".toList.isPrefixOf line || "* PREAUTH".toList.isPrefixOf line

/-- Waits for the greeting. -/
def greet (s : Session) : Except ProbeError Unit × Session :=
  match s.channel.readLine with
  | (.error e, c) => (.error e, { s with channel := c })
  | (.ok line, c) =>
    if isGreeting line then (.ok (), { s with channel := c, greeting := line })
    else
      (.error (.protocol ("unexpected IMAP greeting: " ++ String.ofList line)),
        { s with channel := c })

def tagText (n : Nat) : String := "a" ++ toString n

/-- A command line as it is sent. -/
def commandText (tag command : String) : String := tag ++ " " ++ command ++ "\r\n"

/-- Sends a command and waits for its end. -/
def command (s : Session) (text : String) : Except ProbeError (List Char) × Session :=
  let tag := tagText s.nextTag
  let next (c : Channel) : Session := { s with channel := c, nextTag := s.nextTag + 1 }
  match s.channel.arm with
  | (.error e, c) => (.error e, next c)
  | (.ok (), c) =>
    match c.send (encode (commandText tag text).toList) with
    | (.error e, c) => (.error (.ofIo e c.deadline.budget), next c)
    | (.ok (), c) =>
      let (verdict, c) := c.awaitReply tag.toList
      (verdict, next c)

/-- Names the step that a failure of the protocol happened in. -/
def inStep (step : String) : ProbeError → ProbeError
  | .protocol reason => .protocol s!"{step} failed: {reason}"
  | e => e

def step (name : String) (outcome : Except ProbeError (List Char) × Session) :
    Except ProbeError Unit × Session :=
  match outcome with
  | (.error e, s) => (.error (inStep name e), s)
  | (.ok _, s) => (.ok (), s)

def loginText (username password : String) : String :=
  "LOGIN " ++ quote username ++ " " ++ quote password

def login (s : Session) (username password : String) : Except ProbeError Unit × Session :=
  step "login" (s.command (loginText username password))

def logout (s : Session) : Except ProbeError Unit × Session :=
  step "logout" (s.command "LOGOUT")

end Session

/-- A whole conversation: the greeting and, with credentials, a login and a
logout. The first failure ends it. -/
def converse (credentials : Option (String × String)) (channel : Channel) :
    Except ProbeError Unit × Session :=
  match (Session.start channel).greet with
  | (.error e, s) => (.error e, s)
  | (.ok (), s) =>
    match credentials with
    | none => (.ok (), s)
    | some (username, password) =>
      match s.login username password with
      | (.error e, s) => (.error e, s)
      | (.ok (), s) => s.logout

end ServiceProbe.Imap
