import ModuleBindings.Json.Basic
import ModuleBindings.Record.Basic

/-!
# Records as JSON

A type expression is an object with its kind and what it is a type of.
-/

namespace ModuleBindings

def TypeExpr.toJson : TypeExpr → Json
  | primitive p => tagged "primitive" (.text p.text)
  | map t => tagged "map" t.toJson
  | list t => tagged "list" t.toJson
  | record name => tagged "record" (.text name)
  | nullable t => tagged "nullable" t.toJson
where
  tagged (kind : String) (of : Json) : Json :=
    .object [("kind", .text kind), ("of", of)]

namespace Record

def Field.toJson (f : Field) : Json :=
  .object
    [("description", .text f.description), ("name", .text f.name), ("type", f.type.toJson),
      ("tags", .object (f.tags.map fun (format, key) => (format, Json.text key)))]

def toJson (r : Record) : Json :=
  .object [("name", .text r.name), ("fields", .list (r.fields.map Field.toJson))]

/-- The text of a JSON file that holds the records. -/
def jsonText (rs : List Record) : String :=
  (Json.list (rs.map toJson)).pretty

end Record

end ModuleBindings
