import ServiceProbe.Program

/-!
The command. It gathers what the program finds around it, runs it and writes
what it wrote. It opens no sockets: to it every peer is out of reach.
-/

namespace ServiceProbe.Main

/-- The files that a command line names. -/
def filesOf (arguments : List String) : List String :=
  match Command.parse arguments with
  | .ok (.enqueue files _) => files
  | .ok (.runHere files _ _) => files
  | _ => []

/-- What is found under a path, if anything is. -/
def readEntry (path : String) : IO (Option (String × Entry)) := do
  try
    let content ← IO.FS.readBinFile path
    return some (path, .file content.toList)
  catch
    | .inappropriateType .. => return some (path, .directory)
    | .noSuchThing .. => return some (path, .socket)
    | .permissionDenied .. => return some (path, .locked .permissionDenied)
    | _ => return none

def readInput : IO Bytes := do
  let input ← IO.getStdin
  return (← input.readBinToEnd).toList

def environment (arguments : List String) : IO Environment := do
  let configPath ← IO.getEnv "PROBEWATCH_CONFIG"
  let named := filesOf arguments
  let wanted := configPath.toList ++ named.filter (· ≠ standardInputPath)
  let entries ← wanted.filterMapM readEntry
  let input ← if standardInputPath ∈ named then readInput else pure []
  let files : Files := ⟨entries, input⟩
  let now ← IO.monoNanosNow
  let id ← IO.rand 0 65535
  return {
    arguments, configPath, files
    registry := .builtin
    network := .unreachable
    queues
      | .tcp _ _ => .error .connectionRefused
      | .unix path => (Redis.findSocket files path).bind fun _ => .error .connectionRefused
    clock := fun _ => ⟨now⟩
    queryIds := fun place => (id + place).toUInt16
    elapsed := fun _ => .zero }

end ServiceProbe.Main

def main (arguments : List String) : IO UInt32 := do
  let environment ← ServiceProbe.Main.environment arguments
  let ending := ServiceProbe.Program.run environment .inOrder
  for line in ending.screen.output do
    IO.println line
  for line in ending.screen.errors do
    IO.eprintln line
  return ending.code.toUInt32
