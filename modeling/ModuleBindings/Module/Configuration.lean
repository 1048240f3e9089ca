import ModuleBindings.Hcl.Body
import ModuleBindings.Module.Basic
import ModuleBindings.Text.Quoted
import ModuleBindings.Text.Slice

/-!
# Modules declared in configuration files

The variables of a module are the `variable` blocks of all its files, in the order of the files
and then of the blocks. A block of another name, or inside another block, declares none.
-/

namespace ModuleBindings

/-- Why a configuration file declares no variables of a module. -/
inductive ConfigurationFault where
  | syntaxError
  | labelCount
  | declaredTwice (name : String)
  deriving DecidableEq, Repr

namespace ConfigurationFault

def message : ConfigurationFault → String
  | syntaxError => "--> HCL parse error"
  | labelCount => "variable block needs exactly one label"
  | declaredTwice name => "variable " ++ Text.quoteText name ++ " declared twice"

end ConfigurationFault

namespace Configuration

open Hcl (Structure Body Value)

/-- The text of a value as it stands in its file, without blanks around it. If the file has nothing
at its range, the value is written out again. -/
def sourceText (text : String) (value : Value) : String :=
  Text.trim ((value.range.bind (Text.slice? text)).getD value.encoded)

/-- What one member of a `variable` block in a text says, after the members before it. -/
def readMember (text : String) (d : Declaration) : Structure → Declaration
  | .attribute name value =>
    if name = "type" then { d with type := some (sourceText text value) }
    else if name = "description" then
      { d with description := value.plain.getD (sourceText text value) }
    else if name = "default" then { d with required := some false }
    else d
  | .block _ _ _ => d

def declaration (text : String) (body : Body) : Declaration :=
  body.foldl (readMember text) { required := some true }

/-- The variables in the body of a text after those in `done`, no two of one name. -/
def readBody (text : String) (done : List (String × Declaration)) :
    Body → Except ConfigurationFault (List (String × Declaration))
  | [] => .ok done
  | .block "variable" labels body :: rest =>
    match labels with
    | [name] =>
      if done.any (·.1 = name) then .error (.declaredTwice name)
      else readBody text (done ++ [(name, declaration text body)]) rest
    | _ => .error .labelCount
  | _ :: rest => readBody text done rest

/-- The variables in some files after those in `done`; a fault comes with the name of its
file. -/
def readFiles (parse? : Hcl.Parser) (done : List (String × Declaration)) :
    List (String × String) → Except (String × ConfigurationFault) (List (String × Declaration))
  | [] => .ok done
  | (path, text) :: rest =>
    match parse? text with
    | none => .error (path, .syntaxError)
    | some body =>
      match readBody text done body with
      | .error fault => .error (path, fault)
      | .ok done => readFiles parse? done rest

/-- The module that some files declare, each given by its path and text. -/
def toModule (parse? : Hcl.Parser) (name : String) (files : List (String × String)) :
    Except (String × ConfigurationFault) Module := do
  let vars ← readFiles parse? [] files
  pure (.ofDeclarations name vars)

end Configuration

end ModuleBindings
