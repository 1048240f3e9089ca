import ModuleBindings.FileTree.Basic
import ModuleBindings.FileTree.Pattern
import ModuleBindings.Module.Configuration
import ModuleBindings.Module.JsonManifest

/-!
# Why a module cannot be loaded

The cause and the path that it belongs to: a file, a directory or a glob pattern.
-/

namespace ModuleBindings

inductive LoadFault where
  | system (e : FileTree.SystemError)
  | badPattern (e : FileTree.PatternError)
  /-- A glob pattern finds nothing that could be a module. -/
  | noMatch
  /-- A directory holds neither a manifest nor configuration files. -/
  | noConfiguration
  | badManifest (e : Json.Error)
  | badConfiguration (fault : ConfigurationFault)

def LoadFault.message : LoadFault → String
  | system e => e.message
  | badPattern e => e.message
  | noMatch => "glob pattern matched no modules"
  | noConfiguration => "no module.json or .tf files"
  | badManifest e => e.message
  | badConfiguration fault => fault.message

structure LoadError where
  path : String
  fault : LoadFault

def LoadError.message (e : LoadError) : String :=
  "loading " ++ e.path ++ ": " ++ e.fault.message

namespace Module

/-- The module in the text of a manifest at a path. -/
def ofManifest (name path text : String) : Except LoadError Module :=
  match JsonManifest.ofText text with
  | .ok m => .ok (m.toModule name)
  | .error e => .error ⟨path, .badManifest e⟩

/-- The module in the texts of configuration files, each with its path, as a parser reads them. -/
def ofConfigurationBy (parse? : Hcl.Parser) (name : String) (files : List (String × String)) :
    Except LoadError Module :=
  match Configuration.toModule parse? name files with
  | .ok m => .ok m
  | .error (path, fault) => .error ⟨path, .badConfiguration fault⟩

/-- The module in the texts of configuration files. -/
def ofConfiguration : String → List (String × String) → Except LoadError Module :=
  ofConfigurationBy Hcl.parse?

end Module

end ModuleBindings
