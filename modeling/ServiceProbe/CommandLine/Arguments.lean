/-!
Arguments of one command: switches, values of switches and files, in any order.
A switch that takes a value takes it from its own argument, as in `--name=v`,
`-nv` and `-n=v`, or from the next one, unless that looks like a switch. Its
value is looked at once it is complete, which is when anything but an unknown
switch follows. Each switch may be given once. After `--` all arguments are
files.
-/

namespace ServiceProbe.CommandLine

/-- Why a command line does not lead to a command. -/
inductive Usage where
  | helpAsked
  | versionAsked
  | nothingGiven
  | unknownCommand
  | unknownArgument
  | valueMissing
  | valueRefused
  | repeatedSwitch
  /-- A value for a switch that takes none. -/
  | needlessValue
  deriving DecidableEq, Repr

/-- What a switch does to the values read so far. -/
inductive Effect (Values : Type) where
  | set (change : Values → Values)
  | value (change : String → Values → Option Values)
  /-- The command is not to be carried out at all. -/
  | stop (reason : Usage)

structure Switch (Values : Type) where
  name : String
  letter : Option Char
  effect : Effect Values

/-- The shape of one argument. -/
inductive Shape where
  | plain
  | separator
  | named (name : List Char) (value : Option (List Char))
  /-- Letters of switches, perhaps with a value behind them. -/
  | lettered (letters : List Char)
  deriving DecidableEq, Repr

def Shape.of : List Char → Shape
  | ['-', '-'] => .separator
  | '-' :: '-' :: s =>
    match s.dropWhile (· != '=') with
    | [] => .named s none
    | _ :: value => .named (s.takeWhile (· != '=')) (some value)
  | '-' :: c :: s => .lettered (c :: s)
  | _ => .plain

/-- How far the arguments were read. -/
structure Reading (Values : Type) where
  values : Values
  files : List String
  /-- Names of the switches that were given. -/
  given : List String
  /-- The last switch, when nothing has completed it yet, and its value. -/
  pending : Option (Switch Values × Option String)

namespace Reading

variable {Values : Type}

def start (values : Values) : Reading Values := ⟨values, [], [], none⟩

/-- Gives a switch a value. -/
def give (reading : Reading Values) (switch : Switch Values) (value : String) :
    Except Usage (Reading Values) :=
  if switch.name ∈ reading.given then .error .repeatedSwitch
  else
    let reading := { reading with given := switch.name :: reading.given }
    match switch.effect with
    | .set change => .ok { reading with values := change reading.values }
    | .value change =>
      match change value reading.values with
      | none => .error .valueRefused
      | some values => .ok { reading with values }
    | .stop reason => .error reason

/-- Completes the last switch. -/
def settle (reading : Reading Values) : Except Usage (Reading Values) :=
  match reading.pending with
  | none => .ok reading
  | some (_, none) => .error .valueMissing
  | some (switch, some value) => { reading with pending := none }.give switch value

/-- A switch without a value of its own, or with one. -/
def meet (reading : Reading Values) (switch : Switch Values) (value : Option (List Char)) :
    Except Usage (Reading Values) := do
  let reading ← reading.settle
  match switch.effect, value with
  | .value _, none => return { reading with pending := some (switch, none) }
  | _, value => reading.give switch (String.ofList (value.getD []))

def takesValue (switch : Switch Values) : Bool :=
  match switch.effect with
  | .value _ => true
  | _ => false

/-- Reads a switch that is written with its name. -/
def readNamed (switches : List (Switch Values)) (reading : Reading Values) (name : List Char)
    (value : Option (List Char)) : Except Usage (Reading Values) :=
  match switches.find? (·.name == String.ofList name) with
  | none => .error .unknownArgument
  | some switch =>
    if value.isSome ∧ ¬ takesValue switch then .error .needlessValue
    else reading.meet switch value

/-- Reads switches that are written with their letters. The first one that takes
a value has all that follows it for a value. -/
def readLettered (switches : List (Switch Values)) (reading : Reading Values) :
    List Char → Except Usage (Reading Values)
  | [] => .ok reading
  | c :: rest =>
    match switches.find? (·.letter == some c) with
    | none => .error .unknownArgument
    | some switch =>
      if takesValue switch then
        match rest with
        | [] => reading.meet switch none
        | '=' :: value => reading.meet switch (some value)
        | value => reading.meet switch (some value)
      else do readLettered switches (← reading.meet switch none) rest

/-- A file, for a command that takes files. -/
def readFile (takesFiles : Bool) (reading : Reading Values) (file : String) :
    Except Usage (Reading Values) :=
  if takesFiles then do
    let reading ← reading.settle
    return { reading with files := reading.files ++ [file] }
  else .error .unknownArgument

/-- Reads one argument before the separator. -/
def readArgument (switches : List (Switch Values)) (takesFiles : Bool) (reading : Reading Values)
    (argument : String) : Except Usage (Reading Values) :=
  match Shape.of argument.toList with
  | .named name value => readNamed switches reading name value
  | .lettered letters => readLettered switches reading letters
  | _ =>
    match reading.pending with
    | some (switch, none) => .ok { reading with pending := some (switch, some argument) }
    | _ => readFile takesFiles reading argument

/-- Reads files only. -/
def readFiles (takesFiles : Bool) (reading : Reading Values) :
    List String → Except Usage (Reading Values)
  | [] => reading.settle
  | file :: rest => do readFiles takesFiles (← readFile takesFiles reading file) rest

/-- Reads all arguments. -/
def readAll (switches : List (Switch Values)) (takesFiles : Bool) (reading : Reading Values) :
    List String → Except Usage (Reading Values)
  | [] => reading.settle
  | argument :: rest =>
    if Shape.of argument.toList = .separator then readFiles takesFiles reading rest
    else do readAll switches takesFiles (← readArgument switches takesFiles reading argument) rest

end Reading

end ServiceProbe.CommandLine
