import ServiceProbe.Pattern
import ServiceProbe.Queue
import ServiceProbe.Redis.Link
import ServiceProbe.Settings
import ServiceProbe.Source

/-!
A connection to a queue server, and the queue that is kept there. Connecting and
each command have the same time; a server that does not answer uses it up.
-/

namespace ServiceProbe.Redis

/-! ### Connecting -/

/-- Where and how to connect. -/
structure ConnectionInfo where
  endpoint : QueueEndpoint
  database : Int
  password : Option String
  deriving DecidableEq, Repr

/-- What settings say about the connection; an empty password is none. -/
def connectionInfo (settings : Settings) : Except QueueError ConnectionInfo :=
  match settings.queueEndpoint with
  | .error e => .error (.connection e.message)
  | .ok endpoint =>
    let password := if settings.redisPassword = "" then none else some settings.redisPassword
    .ok ⟨endpoint, settings.redisDb, password⟩

/-- Part of a detail that asks to authenticate once more. -/
def authAgain : List Char := "wrong number of arguments for 'auth' command".toList

/-- Sends commands while connecting: here the end of the link shows as such. -/
def Link.greet (link : Link) (commands : List (List String)) : Except Trouble Value × Link :=
  let (result, link) := link.request commands
  (if link.state = .over then .error (.failed .driverEnded) else result, link)

/-- What a result means for connecting. Silence and the end of the link always
stop it; other than that, any reply will do if there is no `refusal`, and only
`okay` if there is one. -/
def settle (refusal : Option Failure) : Except Trouble Value → Except Trouble Unit
  | .error .timeout => .error .timeout
  | .error (.failed .driverEnded) => .error (.failed .driverEnded)
  | .ok .okay => .ok ()
  | _ =>
    match refusal with
    | some refusal => .error (.failed refusal)
    | none => .ok ()

/-- Whether the number of words was not right. -/
def asksAgain : Except Trouble Value → Bool
  | .error (.failed e) => e.detail?.any fun detail => Pattern.contains authAgain detail.toList
  | _ => false

/-- Authenticates; a server that objects to the number of words is asked again. -/
def authenticate (password : String) (link : Link) : Except Trouble Unit × Link :=
  let words := ["AUTH", password]
  let (result, link) := link.greet [words]
  let (result, link) := if asksAgain result then link.greet [words] else (result, link)
  (settle (some .authentication) result, link)

def selectDatabase (database : Int) (link : Link) : Except Trouble Unit × Link :=
  if database = 0 then (.ok (), link)
  else
    let (result, link) := link.greet [["SELECT", toString database]]
    (settle (some .database) result, link)

/-- Tells the server about the client, by two commands that are sent together.
The server need not like them. -/
def introduce (link : Link) : Except Trouble Unit × Link :=
  let (result, link) := link.greet
    [[Server.introduction, "SETINFO", "LIB-NAME"], [Server.introduction, "SETINFO", "LIB-VER"]]
  (settle none result, link)

/-- Goes through steps up to the first that fails. -/
def inTurn (link : Link) : List (Link → Except Trouble Unit × Link) → Except Trouble Unit × Link
  | [] => (.ok (), link)
  | step :: later =>
    match step link with
    | (.error trouble, link) => (.error trouble, link)
    | (.ok (), link) => inTurn link later

/-- Authenticates and chooses the database, as far as that is asked for, and
introduces the client. -/
def greet (info : ConnectionInfo) (link : Link) : Except Trouble Unit × Link :=
  inTurn link
    ((info.password.map authenticate).toList ++ [selectDatabase info.database, introduce])

/-- A link and the time that each of its commands may take. -/
structure Connection extends Link where
  timeout : Duration

def Trouble.toQueueError (timeout : Duration) : Trouble → QueueError
  | .failed e => e.toQueueError
  | .timeout => .timeout timeout

/-- Connects to the server that is reached at an endpoint. No time is enough for
nothing but to find that there is none. The server is given back also when the
connection fails later on. -/
def connect (reach : QueueEndpoint → Except IoError Server) (settings : Settings) :
    Except QueueError Connection × Option Server :=
  match connectionInfo settings with
  | .error e => (.error e, none)
  | .ok info =>
    match reach info.endpoint with
    | .error e => (.error (Failure.io e).toQueueError, none)
    | .ok server =>
      if settings.redisTimeout = .zero then (.error (.timeout .zero), some server)
      else
        match greet info (.ofServer server) with
        | (.error trouble, link) =>
          (.error (trouble.toQueueError settings.redisTimeout), some link.server)
        | (.ok (), link) => (.ok ⟨link, settings.redisTimeout⟩, some link.server)

/-! ### The queue -/

/-- The list to which jobs are appended. -/
def jobsKey : String := "probewatch.jobs"

/-- A command whose reply has to be of one kind. -/
def Connection.ask {α : Type} (connection : Connection) (words : List String)
    (read : Value → Except Failure α) : Except QueueError Unit × Connection :=
  let (result, link) := connection.request [words]
  let result := match result with
    | .error trouble => .error (trouble.toQueueError connection.timeout)
    | .ok value =>
      match read value with
      | .ok _ => .ok ()
      | .error e => .error e.toQueueError
  (result, { connection with toLink := link })

/-- The queue that the server keeps. -/
def queue : JobQueue Connection where
  ping connection := connection.ask ["PING"] Value.asText
  push job connection := connection.ask ["RPUSH", jobsKey, job] Value.asInteger

/-- The longest path of a unix socket. -/
def socketPathLimit : Nat := 107

/-- Looks for the unix socket at a path. Nothing else there takes connections. -/
def findSocket (files : Files) (path : String) : Except IoError Unit :=
  if '\x00' ∈ path.toList then .error ⟨.other, "paths must not contain interior null bytes"⟩
  else if socketPathLimit < path.utf8ByteSize then
    .error ⟨.other, "path must be shorter than SUN_LEN"⟩
  else
    match files.find path with
    | .error e => .error e
    | .ok .socket => .ok ()
    | .ok _ => .error .connectionRefused

end ServiceProbe.Redis
