import ServiceProbe.Imap.Session
import ServiceProbe.Tls.Connect

/-!
The probe for mail servers: a secure connection, the greeting and, when the test
has both a user name and a password, a login and a logout.
-/

namespace ServiceProbe.Imap

open Net

/-- Where mail servers that speak TLS from the start listen. -/
def defaultPort : UInt16 := 993

/-- The port that a test names, or the usual one. -/
def portOf (test : Test) : Except ProbeError UInt16 :=
  match test.argument "port" with
  | "" => .ok defaultPort
  | port =>
    (Text.readPort port.toList).mapError fun e =>
      .invalidArgument s!"invalid port '{port}': {e.message}"

/-- The user name and the password of a test that has both. -/
def credentialsOf (test : Test) : Option (String × String) :=
  let username := test.argument "username"
  let password := test.argument "password"
  if username = "" ∨ password = "" then none else some (username, password)

/-- One run of the probe. -/
def runProbe (run : Invocation) : Except Crash Report :=
  match portOf run.test with
  | .error e => .ok (.failure e)
  | .ok port =>
    match Deadline.after? run.start run.timeout with
    | none => .error .clockOverflow
    | some deadline =>
      let address := joinHostPort run.target port
      let settings := Tls.Settings.ofTest run.test
      match Tls.connect run.network address settings deadline run.start with
      | (.error e, socket) => .ok ⟨.error e, socket.toList.map fun s => .connection s none⟩
      | (.ok stream, socket) =>
        let channel := Channel.ofStream stream deadline run.start
        let (result, session) := converse (credentialsOf run.test) channel
        let result := deadline.cap session.channel.clock result
        .ok ⟨result, socket.toList.map fun s => .connection s (some session.channel.sent)⟩

def usage : String := "
IMAPS Tester
------------
 The IMAPS tester connects to a remote host and ensures that this succeeds.

 If you supply a username & password a login will be made, and the test will
 fail if this login does not succeed.

 This test is invoked via input like so:

    host.example.com must run imaps

 Because IMAPS uses TLS this test will ensure the validity of the certificate as
 part of the test, if you wish to disable this add \"with tls insecure\".
"

/-- The name under which the probe is registered. -/
def protocol : String := "imaps"

def probe : Probe where
  arguments := [
    ("port", .digits),
    ("tls", .anyOf ["insecure"]),
    ("username", .anything),
    ("password", .anything)]
  resolvesTarget := true
  usage := usage
  run _ run := runProbe run

end ServiceProbe.Imap
