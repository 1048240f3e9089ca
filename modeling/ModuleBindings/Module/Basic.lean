import ModuleBindings.Constraint.Parser
import ModuleBindings.Entity
import ModuleBindings.Text.Blank

/-!
# Modules

What is known of a module before the types of its variables are parsed. `Declaration` is what a
file says of one variable; a module completes it.
-/

namespace ModuleBindings

/-- What is written about one variable. -/
structure Declaration where
  type : Option String := none
  description : String := ""
  hasDefault : Bool := false
  required : Option Bool := none
  deriving DecidableEq, Repr

/-- A variable of a module, its type constraint not yet parsed. -/
structure ModuleVariable where
  name : String
  /-- The constraint, reported under `module.variable`. -/
  source : Source
  description : String
  required : Bool
  deriving DecidableEq, Repr

structure Module where
  name : String
  vars : List ModuleVariable
  deriving DecidableEq, Repr

namespace Declaration

/-- The text of the type constraint. One that is missing or blank accepts anything. -/
def constraintText (d : Declaration) : String :=
  match d.type with
  | some text => if (Text.trimChars text.toList).isEmpty then "any" else text
  | none => "any"

/-- A variable is required unless it says otherwise or has a default. -/
def isRequired (d : Declaration) : Bool :=
  d.required.getD !d.hasDefault

def toVariable (module name : String) (d : Declaration) : ModuleVariable :=
  ⟨name, ⟨module ++ "." ++ name, d.constraintText⟩, d.description, d.isRequired⟩

end Declaration

namespace Module

def ofDeclarations (name : String) (ds : List (String × Declaration)) : Module :=
  ⟨name, ds.map fun (label, d) => d.toVariable name label⟩

/-- The module with its constraints parsed, or the error of the first that is wrong. -/
def entity (m : Module) : Except Constraint.SyntaxError Entity := do
  let vars ← m.vars.mapM fun v => do
    let type ← Constraint.parse v.source
    pure (⟨v.name, v.description, v.required, type⟩ : Variable)
  pure ⟨m.name, vars⟩

end Module

end ModuleBindings
