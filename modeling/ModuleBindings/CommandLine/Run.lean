import ModuleBindings.CommandLine.Arguments
import ModuleBindings.Go.Source
import ModuleBindings.Module.Load
import ModuleBindings.Record.Builder
import ModuleBindings.Record.Json

/-!
# Running a command

A command loads the modules asked for, flattens them one after another into records and writes
these out. A run is a function of the files it sees and tells which files there are afterwards;
one that fails before it writes leaves them as they were.
-/

namespace ModuleBindings.CommandLine

/-- Why a run fails. -/
inductive RunError where
  | loading (e : LoadError)
  | parsing (module : String) (e : Constraint.SyntaxError)
  | building (module : String) (e : BuildError)
  | creating (path : String) (e : FileTree.SystemError)
  | writing (path : String) (e : FileTree.SystemError)

def RunError.message : RunError → String
  | loading e => "loading modules: " ++ e.message
  | parsing module e => "parsing variable types of module " ++ module ++ ": " ++ e.message
  | building module e => "building records for module " ++ module ++ ": " ++ e.message
  | creating path e => "creating " ++ path ++ ": " ++ e.message
  | writing path e => "writing " ++ path ++ ": " ++ e.message

/-- What a run shows and leaves behind. -/
structure Outcome where
  succeeded : Bool
  stdout : String
  stderr : String
  files : FileTree

namespace Outcome

def failed (notes : String) (e : RunError) (files : FileTree) : Outcome :=
  ⟨false, "", notes ++ "error: " ++ e.message ++ "\n", files⟩

def exitCode (o : Outcome) : Nat :=
  if o.succeeded then 0 else 1

end Outcome

def Format.text : Format → List Record → String
  | json, rs => Record.jsonText rs
  | go package, rs => Go.fileText package rs

/-- Parses the types of one more module and flattens it. -/
def addModule (b : RecordBuilder) (m : Module) : Except RunError RecordBuilder := do
  let e ← m.entity.mapError (.parsing m.name)
  (b.addEntity e).mapError (.building m.name)

/-- The records of some modules. -/
def recordsOf (ignore : List String) (modules : List Module) : Except RunError (List Record) := do
  let b ← modules.foldlM addModule { options := { ignore } }
  pure b.records

/-- Makes the directory that a file is to be written to. -/
def makeParent (t : FileTree) (path : String) : FileTree × Except RunError Unit :=
  match FileTree.parent? path with
  | none | some "" => (t, .ok ())
  | some dir =>
    let (t', made) := t.makeDirectories (FileTree.pieces dir).reverse
    (t', made.mapError (.creating dir))

def loadedNote (modules : List Module) : String :=
  "Loaded " ++ toString modules.length ++ " module(s)\n"

def builtNote (rs : List Record) : String :=
  "Built " ++ toString rs.length ++ " record(s)\n"

def wroteNote (path : String) : String :=
  "Wrote " ++ path ++ "\n"

/-- Writes a text to standard output or to a file. -/
def writeOut (notes text : String) (t : FileTree) : Option String → Outcome
  | none => ⟨true, text ++ "\n", notes, t⟩
  | some path =>
    match makeParent t path with
    | (t, .error e) => .failed notes e t
    | (t, .ok ()) =>
      match t.write path text with
      | .error e => .failed notes (.writing path e) t
      | .ok t => ⟨true, "", notes ++ wroteNote path, t⟩

def Command.run (c : Command) (t : FileTree) : Outcome :=
  match Module.loadAll t c.inputs with
  | .error e => .failed "" (.loading e) t
  | .ok modules =>
    match recordsOf c.ignore modules with
    | .error e => .failed (loadedNote modules) e t
    | .ok rs => writeOut (loadedNote modules ++ builtNote rs) (c.format.text rs) t c.out

def versionText : String := "tfvar-gen 0.1.0\n"

/-- What a request comes to. -/
def Request.outcome : Request → FileTree → Outcome
  | showVersion, t => ⟨true, versionText, "", t⟩
  | run c, t => c.run t

end ModuleBindings.CommandLine
