import ServiceProbe.Net.Network
import ServiceProbe.Pattern
import ServiceProbe.Test

/-!
Probes: testers of one protocol. A probe says which arguments it takes, whether
its target is to be resolved first and how it is used, and can be run. A run
gives a result and the trace it left in the network. A registry has a probe for
each protocol name.
-/

namespace ServiceProbe

open Net

/-- The time a run may take when nothing else is asked for. -/
def defaultTimeout : Duration := .ofSeconds 10

/-- What a run is given. -/
structure Invocation where
  test : Test
  /-- The target of the test, or one of the addresses it resolved to. -/
  target : String
  timeout : Duration
  network : Network
  /-- The clock at the start of the run. -/
  start : Instant
  /-- The number that the query of this run carries. -/
  queryId : UInt16

/-- What can be seen of a run from the network. -/
inductive Trace where
  | datagram (server : SocketAddress) (bytes : Bytes)
  /-- A connection that was opened; with what was sent on it once it was secure. -/
  | connection (server : SocketAddress) (session : Option Bytes)
  deriving DecidableEq, Repr

structure Report where
  result : Except ProbeError Unit
  traces : List Trace

def Report.failure (e : ProbeError) : Report := ⟨.error e, []⟩

/-- The end of a run that has no result: the clock cannot show its deadline. What was
left in the network before it stays there. -/
structure Crash where
  traces : List Trace
  deriving DecidableEq, Repr

namespace Crash

def clockOverflow : Crash := ⟨[]⟩

/-- The crash with what earlier runs have left. -/
def after (earlier : List Trace) (crash : Crash) : Crash := ⟨earlier ++ crash.traces⟩

def message : Crash → String
  | _ => "overflow when adding duration to instant"

end Crash

structure Probe where
  /-- Argument names and the patterns their values match; no name occurs twice. -/
  arguments : List (String × Pattern)
  resolvesTarget : Bool
  usage : String
  /-- One run, told how many runs of the same instance came before. -/
  run : (earlier : Nat) → Invocation → Except Crash Report

end ServiceProbe
