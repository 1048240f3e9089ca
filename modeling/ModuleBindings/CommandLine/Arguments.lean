/-!
# Command-line arguments

The first argument names a command, the others are options with their values. A value may be
joined to its option, as in `--out=a.json`, `-oa.json` and `-o=a.json`; else it is an argument
that does not begin with a dash. Some options take any number of such arguments, and may be
given again; the others take one, once.
-/

namespace ModuleBindings.CommandLine

/-- What the records are written as. -/
inductive Format where
  | json
  | go (package : String)
  deriving DecidableEq, Repr

structure Command where
  /-- Paths and glob patterns of modules. -/
  inputs : List String
  /-- Variables to leave out. -/
  ignore : List String
  format : Format
  /-- The file to write instead of standard output. -/
  out : Option String
  deriving DecidableEq, Repr

inductive Request where
  | showVersion
  | run (command : Command)
  deriving DecidableEq, Repr

inductive UsageError where
  | missingCommand
  | unknownCommand (name : String)
  | unknownOption (argument : String)
  | strayArgument (argument : String)
  | missingValue
  | emptyValue
  | givenTwice
  | missingInput
  deriving DecidableEq, Repr

def UsageError.message : UsageError → String
  | missingCommand => "a command is missing"
  | unknownCommand name => "unknown command " ++ name
  | unknownOption argument => "unknown option " ++ argument
  | strayArgument argument => "unexpected argument " ++ argument
  | missingValue => "an option has no value"
  | emptyValue => "the output file has no name"
  | givenTwice => "an option is given twice"
  | missingInput => "no input is given"

inductive Choice where
  | input
  | ignore
  | out
  | package
  deriving DecidableEq, Repr

namespace Choice

/-- Whether it takes any number of values. -/
def isMany : Choice → Bool
  | input | ignore => true
  | out | package => false

def ofLongName? : String → Option Choice
  | "input" => some input
  | "ignore" => some ignore
  | "out" => some out
  | "package" => some package
  | _ => none

def ofLetter? : Char → Option Choice
  | 'i' => some input
  | 'o' => some out
  | _ => none

/-- The option in an argument that begins with a dash, and a value joined to it. -/
def ofArgument? (argument : String) : Option (Choice × Option String) :=
  match argument.toList with
  | '-' :: '-' :: cs =>
    let name := String.ofList (cs.takeWhile (· ≠ '='))
    let value :=
      match cs.dropWhile (· ≠ '=') with
      | [] => none
      | _ :: value => some (String.ofList value)
    (ofLongName? name).map (·, value)
  | '-' :: c :: [] => (ofLetter? c).map (·, none)
  | '-' :: c :: '=' :: value => (ofLetter? c).map (·, some (String.ofList value))
  | '-' :: c :: value => (ofLetter? c).map (·, some (String.ofList value))
  | _ => none

end Choice

/-- The options read so far. -/
structure Draft where
  inputs : List String := []
  ignore : List String := []
  out : Option String := none
  package : Option String := none
  deriving DecidableEq, Repr

namespace Draft

def addValue (d : Draft) (value : String) : Choice → Except UsageError Draft
  | .input => .ok { d with inputs := d.inputs ++ [value] }
  | .ignore => .ok { d with ignore := d.ignore ++ [value] }
  | .out =>
    if d.out.isSome then .error .givenTwice
    else if value = "" then .error .emptyValue
    else .ok { d with out := some value }
  | .package =>
    if d.package.isSome then .error .givenTwice else .ok { d with package := some value }

end Draft

/-- Which option the next values belong to. -/
inductive Awaiting where
  | nothing
  | value (choice : Choice)
  | moreValues (choice : Choice)
  deriving DecidableEq, Repr

namespace Awaiting

/-- What is awaited after a value that is an argument of its own. -/
def afterValue (choice : Choice) : Awaiting :=
  if choice.isMany then moreValues choice else nothing

def choice? : Awaiting → Option Choice
  | nothing => none
  | value choice => some choice
  | moreValues choice => some choice

/-- Refuses to go on where a value must follow. -/
def finish : Awaiting → Except UsageError Unit
  | value _ => .error .missingValue
  | _ => .ok ()

end Awaiting

/-- A dash alone is a value. -/
def isValue (argument : String) : Bool :=
  argument.toList.head? ≠ some '-' || argument = "-"

/-- Reads options, those that are `allowed`. Nothing may follow `--`. -/
def readOptions (allowed : Choice → Bool) :
    Awaiting → Draft → List String → Except UsageError Draft
  | awaiting, d, [] => do
    awaiting.finish
    pure d
  | awaiting, d, argument :: rest => do
    if isValue argument then
      match awaiting.choice? with
      | some choice =>
        readOptions allowed (.afterValue choice) (← d.addValue argument choice) rest
      | none => .error (.strayArgument argument)
    else
      awaiting.finish
      if argument = "--" then
        match rest with
        | [] => pure d
        | stray :: _ => .error (.strayArgument stray)
      else
        match Choice.ofArgument? argument with
        | some (choice, joined) =>
          if allowed choice then
            match joined with
            | some value => readOptions allowed .nothing (← d.addValue value choice) rest
            | none => readOptions allowed (.value choice) d rest
          else .error (.unknownOption argument)
        | none => .error (.unknownOption argument)

def defaultPackage : String := "modules"

def command (format : Draft → Format) (d : Draft) : Except UsageError Command :=
  if d.inputs.isEmpty then .error .missingInput
  else .ok ⟨d.inputs, d.ignore, format d, d.out⟩

def asksForVersion (argument : String) : Bool :=
  argument = "--version" || argument.toList.take 2 = ['-', 'V']

def parse : List String → Except UsageError Request
  | [] => .error .missingCommand
  | first :: rest => do
    if asksForVersion first then pure .showVersion
    else if first = "records" then
      let d ← readOptions (· ≠ .package) .nothing {} rest
      pure (.run (← command (fun _ => .json) d))
    else if first = "go" then
      let d ← readOptions (fun _ => true) .nothing {} rest
      pure (.run (← command (fun d => .go (d.package.getD defaultPackage)) d))
    else if isValue first then .error (.unknownCommand first)
    else .error (.unknownOption first)

end ModuleBindings.CommandLine
