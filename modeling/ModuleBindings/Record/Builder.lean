import ModuleBindings.Entity
import ModuleBindings.Record.Basic
import ModuleBindings.Text.WordCase

/-!
# Flattening entities into records

An entity becomes a record of its own and one record for every object within the types of its
variables. The record of an object is named by the path that leads to it and stands before the
records of the objects inside it. No two records share a name, and no two fields of a record.

A `RecordBuilder` takes one entity after another. An entity that cannot be flattened leaves it
as it was.
-/

namespace ModuleBindings

/-- Why an entity cannot be flattened. -/
inductive BuildError where
  /-- A node whose element or fields do not suit its kind. -/
  | unsupportedType (name : String) (location : Option Location)
  /-- Two paths lead to one record name. -/
  | duplicateRecord (name : String)
  | duplicateField (record field : String)
  deriving DecidableEq, Repr

namespace BuildError

def location : BuildError → Option Location
  | unsupportedType _ location => location
  | _ => none

def message : BuildError → String
  | unsupportedType name none => "unsupported type: " ++ name
  | unsupportedType name (some l) => "unsupported type: " ++ name ++ " at " ++ l.text
  | duplicateRecord name => "duplicate record name: " ++ name
  | duplicateField record field => "duplicate field " ++ field ++ " in record " ++ record

end BuildError

structure BuilderOptions where
  /-- Variables left out of the record of their entity, whatever the case of their letters. -/
  ignore : List String := []
  /-- The formats of the fields of an entity's own record. -/
  topLevelFormats : List String := ["json", "yaml", "hcl"]
  /-- The formats of the fields of records made for objects. -/
  nestedFormats : List String := ["json", "yaml", "cty"]
  deriving DecidableEq, Repr

namespace BuilderOptions

def ignores (o : BuilderOptions) (name : String) : Bool :=
  (o.ignore.map Text.lowercase).contains (Text.lowercase name)

end BuilderOptions

namespace Record

/-- The names of some records, in their order. -/
def names (rs : List Record) : List String :=
  rs.map Record.name

/-- Refuses a record name that is taken. -/
def reserveName (taken : List String) (name : String) : Except BuildError Unit :=
  if taken.contains name then .error (.duplicateRecord name) else .ok ()

/-- Adds a field to those of a record unless one has its name. -/
def addField (record : String) (done : List Field) (f : Field) : Except BuildError (List Field) :=
  if done.any (·.name = f.name) then .error (.duplicateField record f.name)
  else .ok (done ++ [f])

mutual

/-- The type expression of a constraint, and the records of the objects in it. An object here
is named `path`; the names in `taken` cannot be used again. -/
def flattenType (nested : List String) (taken : List String) (path : String) :
    Constraint → Except BuildError (TypeExpr × List Record)
  | .node name kind elem optional fields location =>
    if (Constraint.node name kind elem optional fields location).isShapelyNode then do
      let (base, records) ←
        match kind with
        | .string | .number => pure (TypeExpr.primitive .string, [])
        | .boolean => pure (TypeExpr.primitive .bool, [])
        | .null | .any => pure (TypeExpr.primitive .any, [])
        | .map => do
          let (t, records) ← flattenElem nested taken path name location elem
          pure (TypeExpr.map t, records)
        | .list => do
          let (t, records) ← flattenElem nested taken path name location elem
          pure (TypeExpr.list t, records)
        | .object => do
          reserveName taken path
          let (fs, records) ← flattenFields nested (taken ++ [path]) path [] fields
          pure (TypeExpr.record path, ⟨path, fs⟩ :: records)
      pure (if optional then base.orNull else base, records)
    else .error (.unsupportedType name location)

/-- The element of the node `name` at `location`, which must have one. -/
def flattenElem (nested : List String) (taken : List String) (path : String)
    (name : String) (location : Option Location) :
    Option Constraint → Except BuildError (TypeExpr × List Record)
  | none => .error (.unsupportedType name location)
  | some t => flattenType nested taken path t

/-- The fields `done` of the record `path` with those of an object added, and the records of
the objects in their types. -/
def flattenFields (nested : List String) (taken : List String) (path : String)
    (done : List Field) :
    List (Constraint.Field Constraint) → Except BuildError (List Field × List Record)
  | [] => pure (done, [])
  | ⟨name, _, t⟩ :: rest => do
    let (type, records) ← flattenType nested taken (path ++ Text.pascal name) t
    let type := if t.optional then type.orNull else type
    let done ← addField path done ⟨Text.pascal name, "", type, Tags.ofFormats nested name⟩
    let (fs, more) ← flattenFields nested (taken ++ names records) path done rest
    pure (fs, records ++ more)

end

/-- The fields `done` of the record `path` with those of an entity's variables added, and the
records of the objects in their types. -/
def flattenVariables (o : BuilderOptions) (taken : List String) (path : String)
    (done : List Field) : List Variable → Except BuildError (List Field × List Record)
  | [] => pure (done, [])
  | v :: rest =>
    if o.ignores v.name then flattenVariables o taken path done rest
    else do
      let (type, records) ←
        flattenType o.nestedFormats taken (path ++ Text.pascal v.name) v.type
      let type := if v.required && !v.type.optional then type else type.orNull
      let done ← addField path done
        ⟨Text.pascal v.name, v.description, type, Tags.ofFormats o.topLevelFormats v.name⟩
      let (fs, more) ← flattenVariables o (taken ++ names records) path done rest
      pure (fs, records ++ more)

/-- The records of one entity, its own first. -/
def flattenEntity (o : BuilderOptions) (taken : List String) (e : Entity) :
    Except BuildError (List Record) := do
  let path := Text.pascal e.name
  reserveName taken path
  let (fs, records) ← flattenVariables o (taken ++ [path]) path [] e.vars
  pure (⟨path, fs⟩ :: records)

end Record

structure RecordBuilder where
  options : BuilderOptions
  /-- In the order in which they were generated. -/
  records : List Record := []
  /-- The record names that cannot be used again. -/
  taken : List String := []
  deriving Repr

namespace RecordBuilder

def names (b : RecordBuilder) : List String :=
  Record.names b.records

/-- Takes one more entity, all of it or nothing. -/
def addEntity (b : RecordBuilder) (e : Entity) : Except BuildError RecordBuilder := do
  let records ← Record.flattenEntity b.options b.taken e
  pure { b with records := b.records ++ records, taken := b.taken ++ Record.names records }

/-- The builder after an entity, whether it could be flattened or not. -/
def offer (b : RecordBuilder) (e : Entity) : RecordBuilder :=
  match b.addEntity e with
  | .ok b' => b'
  | .error _ => b

end RecordBuilder

/-- The records of all entities in their order, or the error of the first that fails. -/
def buildRecords (entities : List Entity) (ignore : List String) :
    Except BuildError (List Record) := do
  let b ← entities.foldlM RecordBuilder.addEntity { options := { ignore } }
  pure b.records

end ModuleBindings
