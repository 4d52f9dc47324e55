import ServiceProbe.Registry
import ServiceProbe.Settings

/-!
Plans: which runs a list of tests asks for. A test of a probe that resolves its
target is run once for each address that is in use; any other test is run once,
against its target as it stands. A test that cannot be planned fails without a
run.
-/

namespace ServiceProbe

open Net

/-- One run of one test. -/
structure Job where
  test : Test
  address : String
  deriving DecidableEq, Repr

/-- What became of one run, or of a test that was not run. -/
structure Outcome where
  input : String
  protocol : String
  /-- What the run was pointed at. -/
  address : String
  elapsed : Duration
  error : Option String
  deriving DecidableEq, Repr

namespace Outcome

def passed (outcome : Outcome) : Bool := outcome.error.isNone

/-- A test that failed before any run. -/
def unplanned (test : Test) (error : ProbeError) : Outcome :=
  ⟨test.input, test.protocol, test.target, .zero, some error.message⟩

end Outcome

/-- Whether runs against an address are wanted. -/
def Settings.uses (settings : Settings) : IpAddress → Bool
  | .v4 _ => settings.ipv4
  | .v6 _ => settings.ipv6

/-- A list in which no two neighbours are equal. -/
def dropRepeats {α : Type} [DecidableEq α] : List α → List α
  | [] => []
  | [a] => [a]
  | a :: b :: rest => if a = b then dropRepeats (b :: rest) else a :: dropRepeats (b :: rest)

/-- The addresses of a host that are in use; there is at least one. -/
def resolve (network : Network) (settings : Settings) (host : String) :
    Except ProbeError (List IpAddress) :=
  match network.addresses host with
  | .error e => .error (.network s!"failed to resolve {host}: {e.text}")
  | .ok addresses =>
    match dropRepeats (addresses.filter settings.uses) with
    | [] =>
      .error (.network
        s!"no usable addresses for {host} (ipv4: {settings.ipv4}, ipv6: {settings.ipv6})")
    | used => .ok used

/-- The runs that a test asks for. -/
def planTest (registry : Registry) (network : Network) (settings : Settings) (test : Test) :
    Except ProbeError (List Job) :=
  match registry.lookup test.protocol with
  | none => .error (.invalidArgument s!"unknown protocol '{test.protocol}'")
  | some probe =>
    if probe.resolvesTarget then
      (resolve network settings test.target).map fun addresses =>
        addresses.map fun ip => ⟨test, ip.text⟩
    else .ok [⟨test, test.target⟩]

structure Plan where
  /-- The tests that are not run, in their order. -/
  failures : List Outcome
  /-- The runs, in the order of their tests. -/
  jobs : List Job
  deriving DecidableEq, Repr

namespace Plan

def ofTests (registry : Registry) (network : Network) (settings : Settings) :
    List Test → Plan
  | [] => ⟨[], []⟩
  | test :: tests =>
    let plan := ofTests registry network settings tests
    match planTest registry network settings test with
    | .error e => { plan with failures := .unplanned test e :: plan.failures }
    | .ok jobs => { plan with jobs := jobs ++ plan.jobs }

end Plan

end ServiceProbe
