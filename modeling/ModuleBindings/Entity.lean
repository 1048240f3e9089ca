import ModuleBindings.Constraint.Basic

/-!
# Entities

The owner of a list of variables, such as a module, with the type constraints of its variables
parsed.
-/

namespace ModuleBindings

structure Variable where
  name : String
  description : String
  /-- Declared without a default value. -/
  required : Bool
  type : Constraint
  deriving Repr

structure Entity where
  name : String
  vars : List Variable
  deriving Repr

end ModuleBindings
