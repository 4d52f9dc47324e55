import ServiceProbe.Text.Utf8

/-!
A queue server, known by its answers: it answers each command with the next one
listed for it, or else in the usual way. Instead of a reply it may close the
connection, or stall and take no notice of anything any more.
-/

namespace ServiceProbe.Redis

open Text

/-- What a server does when a command has arrived. -/
inductive Answer where
  | reply (bytes : Bytes)
  | close
  | stall
  deriving DecidableEq, Repr

inductive ServerState where
  | live
  | closed
  | stalled
  deriving DecidableEq, Repr

/-- A server, and what has arrived at it. -/
structure Server where
  /-- Answers still listed for a command. -/
  answers : List (String × List Answer)
  /-- The words of the commands that arrived, the latest first. -/
  commands : List (List String)
  state : ServerState
  deriving DecidableEq, Repr

namespace Server

def ofAnswers (answers : List (String × List Answer)) : Server := ⟨answers, [], .live⟩

/-- The command by which clients introduce themselves. It is not noted. -/
def introduction : String := "CLIENT"

def countOf (server : Server) (name : String) : Nat :=
  server.commands.countP fun words => words.head? == some name

/-- The answer to a command that nothing is listed for. -/
def usualAnswer (server : Server) (name : String) : Answer :=
  if name = "PING" then .reply (encode "+PONG\r\n".toList)
  else if name = "RPUSH" then .reply (encode s!":{server.countOf name}\r\n".toList)
  else .reply (encode "+OK\r\n".toList)

/-- Takes the next answer to a command. -/
def nextAnswer (server : Server) (name : String) : Answer × Server :=
  match server.answers.lookup name with
  | some (answer :: later) =>
    let answers := server.answers.map fun entry =>
      if entry.1 == name then (name, later) else entry
    (answer, { server with answers })
  | _ => (server.usualAnswer name, server)

def note (server : Server) (words : List String) : Server :=
  if words.head? = some introduction then server
  else { server with commands := words :: server.commands }

/-- Takes a command, and sends what it has to say to it. -/
def receive (server : Server) (words : List String) : List Bytes × Server :=
  if server.state = .live then
    match (server.note words).nextAnswer (words.headD "") with
    | (.reply bytes, server) => ([bytes], server)
    | (.close, server) => ([], { server with state := .closed })
    | (.stall, server) => ([], { server with state := .stalled })
  else ([], server)

/-- Takes several commands that arrive together. -/
def receiveAll (server : Server) : List (List String) → List Bytes × Server
  | [] => ([], server)
  | words :: later =>
    let (sent, server) := server.receive words
    let (sentLater, server) := server.receiveAll later
    (sent ++ sentLater, server)

end Server

end ServiceProbe.Redis
