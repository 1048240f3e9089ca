/-!
# Records

What module variables are flattened into: records with named fields, whose types refer to
other records by name.
-/

namespace ModuleBindings

inductive Primitive where
  | string
  | bool
  | any
  deriving DecidableEq, Repr

inductive TypeExpr where
  | primitive (of : Primitive)
  /-- A map from texts. -/
  | map (of : TypeExpr)
  | list (of : TypeExpr)
  /-- The record of that name. -/
  | record (name : String)
  | nullable (of : TypeExpr)
  deriving DecidableEq, Repr

namespace Primitive

def text : Primitive → String
  | string => "string"
  | bool => "bool"
  | any => "any"

end Primitive

namespace TypeExpr

def text : TypeExpr → String
  | primitive p => p.text
  | map t => "map<string, " ++ t.text ++ ">"
  | list t => "list<" ++ t.text ++ ">"
  | record name => name
  | nullable t => t.text ++ "?"

def isNullable : TypeExpr → Bool
  | nullable _ => true
  | _ => false

/-- The type that also admits no value; one that does so already stays as it is. -/
def orNull (t : TypeExpr) : TypeExpr :=
  if t.isNullable then t else nullable t

@[simp] theorem isNullable_orNull (t : TypeExpr) : t.orNull.isNullable = true := by
  unfold orNull
  split
  · assumption
  · rfl

@[simp] theorem orNull_orNull (t : TypeExpr) : t.orNull.orNull = t.orNull := by
  rw [orNull, if_pos t.isNullable_orNull]

/-- The names of the records that a type refers to. -/
def references : TypeExpr → List String
  | primitive _ => []
  | map t | list t | nullable t => t.references
  | record name => [name]

end TypeExpr

/-- The key of a field in each serialization format, in order and without repeated formats. -/
abbrev Tags := List (String × String)

namespace Tags

/-- A format that is there already keeps its place and takes the later key. -/
def insert (tags : Tags) (format key : String) : Tags :=
  match tags with
  | [] => [(format, key)]
  | (f, k) :: rest =>
    if f = format then (f, key) :: rest else (f, k) :: insert rest format key

def ofList (pairs : List (String × String)) : Tags :=
  pairs.foldl (fun tags p => tags.insert p.1 p.2) []

/-- One key for all formats. -/
def ofFormats (formats : List String) (key : String) : Tags :=
  ofList (formats.map (·, key))

end Tags

structure Record.Field where
  name : String
  description : String
  type : TypeExpr
  tags : Tags
  deriving DecidableEq, Repr

structure Record where
  name : String
  /-- In the order of declaration. -/
  fields : List Record.Field
  deriving DecidableEq, Repr

namespace Record

/-- The first field of that name. -/
def field? (r : Record) (name : String) : Option Field :=
  r.fields.find? (·.name = name)

end Record

end ModuleBindings
