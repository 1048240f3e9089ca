import ModuleBindings.Json.Decoder
import ModuleBindings.Module.Basic

/-!
# JSON manifests

A manifest is a JSON object with the path of a module and its variables. Both it and the object
of a variable may also be written as the list of their members' values.
-/

namespace ModuleBindings

open Json (Decoder)

structure JsonManifest where
  path : Option String := none
  vars : List (String × Declaration) := []

namespace JsonManifest

/-- How many lists and objects may be nested in a text. -/
def maxNesting : Nat := 127

/-- A default is there unless it is null. It stands in the manifest, its variables and its
variable. -/
def defaultDecoder : Decoder Bool := fun s ts => do
  let (null, r) ← Decoder.isNull (maxNesting - 3) s ts
  pure (!null, r)

def variableFields : List (Decoder.Field Declaration) :=
  [⟨"type", .map (fun type d => { d with type }) (.optional .string)⟩,
    ⟨"description", .map (fun description d => { d with description }) .string⟩,
    ⟨"default", .map (fun hasDefault d => { d with hasDefault }) defaultDecoder⟩,
    ⟨"required", .map (fun required d => { d with required }) (.optional .boolean)⟩]

def variableDecoder : Decoder Declaration :=
  .structOf "struct RawVariable" variableFields {}

def fields : List (Decoder.Field JsonManifest) :=
  [⟨"path", .map (fun path m => { m with path }) (.optional .string)⟩,
    ⟨"variables", .map (fun vars m => { m with vars }) (.mapOf variableDecoder)⟩]

def decoder : Decoder JsonManifest :=
  .structOf "struct RawManifest" fields {}

/-- The manifest at the beginning of the text. -/
def ofText (text : String) : Except Json.Error JsonManifest :=
  decoder.run text

def toModule (m : JsonManifest) (name : String) : Module :=
  .ofDeclarations name m.vars

end JsonManifest

end ModuleBindings
