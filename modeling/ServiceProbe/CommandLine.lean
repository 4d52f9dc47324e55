import ServiceProbe.CommandLine.Arguments
import ServiceProbe.Duration.Notation
import ServiceProbe.Settings
import ServiceProbe.Source

/-!
The command line: the name of a command and its arguments. The values of
switches make up a layer of settings. No files means standard input.
-/

namespace ServiceProbe

open CommandLine Text

/-- What a command line asks for. -/
inductive Command where
  /-- Puts the tests of files on the job queue. -/
  | enqueue (files : List String) (layer : Overrides)
  /-- Runs the tests of files here. -/
  | runHere (files : List String) (layer : Overrides) (concurrency : Option Nat)
  /-- Shows how tests of each protocol are written. -/
  | examples
  deriving DecidableEq, Repr

namespace Command

def maxConcurrency : Nat := 0xFFFFFFFFFFFFFFFF

def helpSwitch {Values : Type} : Switch Values := ⟨"help", some 'h', .stop .helpAsked⟩

def enqueueSwitches : List (Switch Overrides) := [
  ⟨"redis-host", none, .value fun v layer => some { layer with redisHost := some v }⟩,
  ⟨"redis-socket", none, .value fun v layer => some { layer with redisSocket := some v }⟩,
  ⟨"redis-pass", none, .value fun v layer => some { layer with redisPassword := some v }⟩,
  ⟨"redis-db", none, .value fun v layer =>
    (readInt Settings.maxDb v.toList).toOption.map fun db => { layer with redisDb := some db }⟩,
  ⟨"redis-timeout", none, .value fun v layer =>
    (Duration.parse v).toOption.map fun d => { layer with redisTimeout := some d }⟩,
  helpSwitch]

/-- The values that a local run can be given. -/
structure RunValues where
  layer : Overrides
  concurrency : Option Nat

def runSwitches : List (Switch RunValues) := [
  ⟨"timeout", some 't', .value fun v values =>
    (Duration.parse v).toOption.map fun d =>
      { values with layer := { values.layer with timeout := some d } }⟩,
  ⟨"no-ipv4", none, .set fun values =>
    { values with layer := { values.layer with ipv4 := some false } }⟩,
  ⟨"no-ipv6", none, .set fun values =>
    { values with layer := { values.layer with ipv6 := some false } }⟩,
  ⟨"concurrency", some 'c', .value fun v values =>
    (readNat maxConcurrency v.toList).toOption.map fun n =>
      { values with concurrency := some n }⟩,
  helpSwitch]

/-- The files that were named, or else standard input. -/
def filesOrInput : List String → List String
  | [] => [standardInputPath]
  | files => files

/-- The commands by their names, each with the way it reads its arguments. -/
def table : List (String × (List String → Except Usage Command)) := [
  ("enqueue", fun arguments => do
    let reading ← Reading.readAll enqueueSwitches true (.start .none) arguments
    return enqueue (filesOrInput reading.files) reading.values),
  ("local", fun arguments => do
    let reading ← Reading.readAll runSwitches true (.start ⟨.none, none⟩) arguments
    return runHere (filesOrInput reading.files) reading.values.layer reading.values.concurrency),
  ("examples", fun arguments => do
    let _ ← Reading.readAll [helpSwitch] false (.start ()) arguments
    return examples)]

def helpName : String := "help"

def isName (word : String) : Bool := word = helpName ∨ (table.lookup word).isSome

/-- Reads what follows the word for help: the name of a command, or nothing. -/
def readHelp : List String → Usage
  | [] => .helpAsked
  | [word] => if isName word then .helpAsked else .unknownCommand
  | _ => .unknownCommand

/-- The switches that stand in the place of a command. -/
def outerSwitches : List (Switch Unit) :=
  [helpSwitch, ⟨"version", some 'V', .stop .versionAsked⟩]

/-- Reads a command line. -/
def parse : List String → Except Usage Command
  | [] => .error .nothingGiven
  | argument :: rest =>
    match Shape.of argument.toList with
    | .separator =>
      match rest with
      | [] => .error .nothingGiven
      | word :: _ => .error (if isName word then .unknownArgument else .unknownCommand)
    | .plain =>
      if argument = helpName then .error (readHelp rest)
      else
        match table.lookup argument with
        | some read => read rest
        | none => .error .unknownCommand
    | _ => do
      let _ ← Reading.readArgument outerSwitches false (.start ()) argument
      throw .nothingGiven

end Command

end ServiceProbe
