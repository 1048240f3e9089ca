import ModuleBindings.FileTree.Glob
import ModuleBindings.Module.LoadError

/-!
# Loading modules

A module is a directory or a single file. In a directory its manifest counts if there is one,
else all its configuration files in the order of their names. Modules are asked for by paths and
glob patterns; all of them are resolved before the first module is loaded.

The entries of a directory and what a glob pattern finds are told by a system, which may list them
in any order and fail to look at them. Those of a tree are the ones that it holds.
-/

namespace ModuleBindings

namespace FileTree

def manifestName : String := "module.json"

def configurationExtension : String := "tf"

/-- What a system answers for the path of a directory: the names of its entries in some order, or
why it cannot tell them. -/
abbrev Lister := String → Except SystemError (List String)

/-- Lists the entries in the order in which a tree holds them. -/
def lister (t : FileTree) : Lister := fun path =>
  match t.lookup path with
  | .ok (directory es) => .ok (es.map (·.1))
  | .ok (file _) => .error .notDirectory
  | .error e => .error e

def sortNames (names : List String) : List String :=
  names.mergeSort fun a b => a ≤ b

/-- Whether a path leads to a configuration file. -/
def isConfigurationFile (t : FileTree) (path : String) : Bool :=
  t.isFile path && extension? path == some configurationExtension

/-- Whether a directory has a manifest. -/
def hasManifest (t : FileTree) (dir : String) : Bool :=
  t.isFile (join dir manifestName)

/-- The configuration files directly in a directory, in the order of their names. -/
def configurationFilesFrom (list : Lister) (t : FileTree) (dir : String) :
    Except SystemError (List String) := do
  let names ← list dir
  let found := names.filter fun name => t.isConfigurationFile (join dir name)
  pure ((sortNames found).map (join dir))

/-- Whether a directory is a module. -/
def isModuleDirectoryFrom (list : Lister) (t : FileTree) (dir : String) : Bool :=
  t.hasManifest dir ||
    match configurationFilesFrom list t dir with
    | .ok paths => !paths.isEmpty
    | .error _ => false

/-- Whether something found by a glob pattern counts as a module. -/
def isModuleFrom (list : Lister) (t : FileTree) (path : String) : Bool :=
  if t.isDirectory path then isModuleDirectoryFrom list t path
  else extension? path == some "json" || extension? path == some configurationExtension

def isModule (t : FileTree) : String → Bool :=
  isModuleFrom t.lister t

end FileTree

namespace Module

open FileTree (Lister Glob baseName stem join parent?)

def readText (t : FileTree) (path : String) : Except LoadError String :=
  (t.readText path).mapError (⟨path, .system ·⟩)

def readTexts (t : FileTree) (paths : List String) : Except LoadError (List (String × String)) :=
  paths.mapM fun path => do
    let text ← readText t path
    pure (path, text)

/-- Loads a directory, which gives its name to the module. -/
def loadDirectoryFrom (list : Lister) (t : FileTree) (path : String) : Except LoadError Module := do
  if t.hasManifest path then
    let manifest := join path FileTree.manifestName
    ofManifest (baseName path) manifest (← readText t manifest)
  else
    let paths ← (FileTree.configurationFilesFrom list t path).mapError (⟨path, .system ·⟩)
    if paths.isEmpty then .error ⟨path, .noConfiguration⟩
    ofConfiguration (baseName path) (← readTexts t paths)

/-- The first name that is not empty. -/
def firstName (name other : String) : String :=
  if name = "" then other else name

/-- Loads one configuration file, named by the directory that it is in. -/
def loadConfigurationFile (t : FileTree) (path : String) : Except LoadError Module := do
  let name := firstName (baseName ((parent? path).getD "")) (stem path)
  ofConfiguration name (← readTexts t [path])

/-- Loads a manifest, named by the path of the module that it tells. -/
def loadManifest (t : FileTree) (path : String) : Except LoadError Module := do
  match JsonManifest.ofText (← readText t path) with
  | .ok m => pure (m.toModule (firstName (baseName (m.path.getD "")) (stem path)))
  | .error e => .error ⟨path, .badManifest e⟩

def loadFrom (list : Lister) (t : FileTree) (path : String) : Except LoadError Module :=
  if t.isDirectory path then loadDirectoryFrom list t path
  else if t.isConfigurationFile path then loadConfigurationFile t path
  else loadManifest t path

/-- Loads from a tree, which lists its own directories. -/
def load (t : FileTree) : String → Except LoadError Module :=
  loadFrom t.lister t

/-- Finds the paths of a glob pattern. One that cannot be looked at comes as a fault. -/
abbrev Finder := Glob → List (Except LoadFault String)

/-- Finds in a tree, all of which can be looked at. -/
def findIn (t : FileTree) : Finder :=
  fun glob => (glob.find t).map .ok

/-- The paths that a pattern asks for. A text without wildcards is itself the path. -/
def resolveWith (find : Finder) (list : Lister) (t : FileTree) (pattern : String) :
    Except LoadError (List String) := do
  if Glob.hasWildcards pattern then
    let glob ← (Glob.parse pattern).mapError (⟨pattern, .badPattern ·⟩)
    let found ← (find glob).mapM fun path => path.mapError (⟨pattern, ·⟩)
    let paths := found.filter (FileTree.isModuleFrom list t)
    if paths.isEmpty then .error ⟨pattern, .noMatch⟩ else pure paths
  else pure [pattern]

/-- The modules that some patterns ask for, in the order in which they are found. -/
def loadAllWith (find : Finder) (list : Lister) (t : FileTree) (patterns : List String) :
    Except LoadError (List Module) := do
  let paths ← patterns.mapM (resolveWith find list t)
  paths.flatten.mapM (loadFrom list t)

def resolve (t : FileTree) : String → Except LoadError (List String) :=
  resolveWith (findIn t) t.lister t

def loadAll (t : FileTree) : List String → Except LoadError (List Module) :=
  loadAllWith (findIn t) t.lister t

end Module

end ModuleBindings
