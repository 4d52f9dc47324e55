import ServiceProbe.Redis.Decoder
import ServiceProbe.Redis.Server

/-!
A link to a server: the client's end of a connection. Replies belong to requests
by their order alone. A request that nobody waits for any more still has its
reply to come, and the link owes it: it is taken off before any later one.
Nothing is read while no reply is due, so what comes too early stays for the
next request.
-/

namespace ServiceProbe.Redis

inductive LinkState where
  | sound
  /-- A reply made no sense, so nothing more can be read. -/
  | garbled
  /-- The end has been noticed. Nothing is sent any more. -/
  | over
  deriving DecidableEq, Repr

structure Link where
  server : Server
  /-- What the server has sent and nobody has read. -/
  incoming : List Bytes
  decoder : Decoder
  /-- How many replies nobody waits for. -/
  owed : Nat
  state : LinkState

/-- Why a request has no value: it failed, or the time was over. -/
inductive Trouble where
  | failed (failure : Failure)
  | timeout

/-- What waiting for a reply comes to. -/
inductive Arrival where
  | reply (reply : Reply)
  | over
  | nothing

namespace Link

def ofServer (server : Server) : Link := ⟨server, [], .start, 0, .sound⟩

/-- Notices that a reply makes no sense. -/
def garble (link : Link) (report : String) : Arrival × Link :=
  (.reply (.error (.malformed report)), { link with state := .garbled })

/-- Waits for one reply. The end of the connection shows when everything that
came before it has been read. -/
def arrival (link : Link) : Arrival × Link :=
  if link.state ≠ .sound then (.over, { link with state := .over })
  else
    let (outcome, incoming) := link.decoder.decodeChunks link.incoming
    let link := { link with incoming }
    match outcome with
    | .reply reply decoder => (.reply reply, { link with decoder })
    | .malformed report => link.garble report
    | .incomplete decoder =>
      let link := { link with decoder }
      if link.server.state ≠ .closed then (.nothing, link)
      else
        match decoder.ending with
        | some report => link.garble report
        | none => (.over, { link with state := .over })

/-- Waits for the reply that comes after `earlier` others. -/
def wait (link : Link) (earlier : Nat) : Except Trouble Value × Link :=
  match link.arrival with
  | (.nothing, link) => (.error .timeout, { link with owed := earlier + 1 })
  | (.over, link) => (.error (.failed .brokenPipe), link)
  | (.reply reply, link) =>
    match earlier with
    | 0 => (reply.mapError .failed, { link with owed := 0 })
    | earlier + 1 => link.wait earlier

/-- Sends commands together and waits for the reply to the last of them. -/
def request (link : Link) (commands : List (List String)) : Except Trouble Value × Link :=
  if link.state = .over then (.error (.failed .brokenPipe), link)
  else if link.server.state = .closed then
    (.error (.failed (.io .brokenPipe)), { link with state := .over })
  else
    let (sent, server) := link.server.receiveAll commands
    let link := { link with server, incoming := link.incoming ++ sent }
    link.wait (link.owed + commands.length - 1)

end Link

end ServiceProbe.Redis
