import ModuleBindings.Record.Builder

/-!
# Writing the records of an entity

A builder writes the records of an entity into a draft. A record is opened before the types of its
fields are looked at, so that it stands before the records of the objects in it, and is given its
fields one after another. The builder takes the records over when the entity is complete. An entity
that fails leaves its draft half written.
-/

namespace ModuleBindings

structure Draft where
  builder : RecordBuilder
  /-- What the entity has become so far, unfinished records among it. -/
  out : List Record := []

/-- A step of writing. One that fails leaves the draft as it was at that point. -/
abbrev Writing := EStateM BuildError Draft

namespace Draft

/-- Opens a record without fields and answers its place in the draft. -/
def openRecord (name : String) : Writing Nat := do
  let d ← get
  if d.builder.taken.contains name || d.out.any (·.name = name) then
    throw (.duplicateRecord name)
  else
    modify fun d => { d with out := d.out ++ [⟨name, []⟩] }
    pure d.out.length

/-- Adds a field to the record that was opened at that place, unless one has its name. -/
def pushField (place : Nat) (f : Record.Field) : Writing Unit := do
  let d ← get
  match d.out[place]? with
  | none => pure ()
  | some r =>
    if (r.field? f.name).isSome then throw (.duplicateField r.name f.name)
    else modify fun d => { d with out := d.out.set place { r with fields := r.fields ++ [f] } }

mutual

/-- The type expression of a constraint. The records of the objects in it are written, that of an
object here under the name `path`. -/
def writeType (path : String) : Constraint → Writing TypeExpr
  | .node name kind elem optional fields location =>
    if (Constraint.node name kind elem optional fields location).isShapelyNode then do
      let base ←
        match kind with
        | .string | .number => pure (TypeExpr.primitive .string)
        | .boolean => pure (TypeExpr.primitive .bool)
        | .null | .any => pure (TypeExpr.primitive .any)
        | .map => do
          let t ← writeElem path name location elem
          pure (TypeExpr.map t)
        | .list => do
          let t ← writeElem path name location elem
          pure (TypeExpr.list t)
        | .object => do
          let place ← openRecord path
          writeFields place path fields
          pure (TypeExpr.record path)
      pure (if optional then base.orNull else base)
    else throw (.unsupportedType name location)

/-- The element of the node `name` at `location`, which must have one. -/
def writeElem (path : String) (name : String) (location : Option Location) :
    Option Constraint → Writing TypeExpr
  | none => throw (.unsupportedType name location)
  | some t => writeType path t

/-- The fields of an object, for the record `path` at that place. -/
def writeFields (place : Nat) (path : String) :
    List (Constraint.Field Constraint) → Writing Unit
  | [] => pure ()
  | ⟨name, _, t⟩ :: rest => do
    let tags := Tags.ofFormats (← get).builder.options.nestedFormats name
    let type ← writeType (path ++ Text.pascal name) t
    let type := if t.optional then type.orNull else type
    pushField place ⟨Text.pascal name, "", type, tags⟩
    writeFields place path rest

end

/-- The fields for the variables that are not ignored, for the record `path` at that place. -/
def writeVariables (place : Nat) (path : String) : List Variable → Writing Unit
  | [] => pure ()
  | v :: rest => do
    let options := (← get).builder.options
    if options.ignores v.name then writeVariables place path rest
    else do
      let tags := Tags.ofFormats options.topLevelFormats v.name
      let type ← writeType (path ++ Text.pascal v.name) v.type
      let type := if v.required && !v.type.optional then type else type.orNull
      pushField place ⟨Text.pascal v.name, v.description, type, tags⟩
      writeVariables place path rest

/-- The records of an entity, its own first. -/
def writeRecords (e : Entity) : Writing Unit := do
  let path := Text.pascal e.name
  let place ← openRecord path
  writeVariables place path e.vars

/-- The builder takes over all that was written. -/
def keep : Writing Unit :=
  modify fun d =>
    { builder := { d.builder with
        records := d.builder.records ++ d.out
        taken := d.builder.taken ++ Record.names d.out } }

def writeEntity (e : Entity) : Writing Unit := do
  writeRecords e
  keep

end Draft

namespace RecordBuilder

/-- Gives an entity to a builder: the answer, and the builder as the call leaves it. -/
def call (b : RecordBuilder) (e : Entity) : Except BuildError Unit × RecordBuilder :=
  match Draft.writeEntity e { builder := b } with
  | .ok _ d => (.ok (), d.builder)
  | .error err d => (.error err, d.builder)

end RecordBuilder

end ModuleBindings
