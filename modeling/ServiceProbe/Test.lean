import ServiceProbe.Text.Blank

/-!
A test: what one line of a test file asks for. The line itself is kept, because
it is what goes to the job queue.
-/

namespace ServiceProbe

structure Test where
  target : String
  protocol : String
  /-- The line, without the blanks around it. -/
  input : String
  /-- Values by name; no name occurs twice. -/
  arguments : List (String × String)
  deriving DecidableEq, Repr

namespace Test

/-- A test without arguments. -/
def bare (target protocol input : String) : Test := ⟨target, protocol, input, []⟩

/-- Sets an argument, in the place of an earlier value of the same name. -/
def insert (test : Test) (name value : String) : Test :=
  if test.arguments.any (·.1 == name) then
    { test with
      arguments := test.arguments.map fun a => if a.1 == name then (name, value) else a }
  else { test with arguments := test.arguments ++ [(name, value)] }

/-- The value of an argument, if it is given. -/
def argument? (test : Test) (name : String) : Option String :=
  test.arguments.lookup name

/-- The value of an argument; one that is not given has the empty value. -/
def argument (test : Test) (name : String) : String :=
  (test.argument? name).getD ""

/-- The first word of the line. -/
def inputHost? (test : Test) : Option String :=
  (Text.leadingWord? test.input.toList).map String.ofList

end Test

end ServiceProbe
