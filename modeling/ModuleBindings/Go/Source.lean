import ModuleBindings.Record.Basic
import ModuleBindings.Text.Blank
import ModuleBindings.Text.Lines

/-!
# Records as Go source

A record becomes a struct. The names, types and tags of its fields stand in three columns, and
the description of a field stands in comment lines before it.
-/

namespace ModuleBindings.Go

def typeText : TypeExpr → String
  | .primitive .string => "string"
  | .primitive .bool => "bool"
  | .primitive .any => "interface\x7b\x7d"
  | .map t => "map[string]" ++ typeText t
  | .list t => "[]" ++ typeText t
  | .record name => name
  | .nullable t => "*" ++ typeText t

/-- The tag of a field: for every format its name and the quoted key. -/
def structTag (tags : Tags) : String :=
  String.intercalate " " (tags.map fun (format, key) => format ++ ":\"" ++ key ++ "\"")

/-- The text with blanks added until it has `width` characters. -/
def pad (width : Nat) (s : String) : String :=
  s ++ String.ofList (List.replicate (width - s.length) ' ')

/-- The greatest number of bytes in any of the texts. -/
def widest (texts : List String) : Nat :=
  texts.foldl (fun n s => max n s.utf8ByteSize) 0

def commentLines (description : String) : List String :=
  (Text.lines description).map fun line => "\t// " ++ Text.trimEnd line

def fieldLine (nameWidth typeWidth : Nat) (f : Record.Field) : String :=
  "\t" ++ pad nameWidth f.name ++ " " ++ pad typeWidth (typeText f.type) ++ " `"
    ++ structTag f.tags ++ "`"

def recordLines (r : Record) : List String :=
  let nameWidth := widest (r.fields.map (·.name))
  let typeWidth := widest (r.fields.map (typeText ·.type))
  ["type " ++ r.name ++ " struct \x7b"]
    ++ r.fields.flatMap (fun f => commentLines f.description ++ [fieldLine nameWidth typeWidth f])
    ++ ["\x7d"]

/-- The lines of a file of the package that declares the records in their order. -/
def fileLines (package : String) (records : List Record) : List String :=
  ["// Code generated by tfvar-gen. DO NOT EDIT.", "", "package " ++ package]
    ++ records.flatMap fun r => "" :: recordLines r

/-- The text of some lines, each ended by a line feed. -/
def joinLines (lines : List String) : String :=
  String.join (lines.map (· ++ "\n"))

def fileText (package : String) (records : List Record) : String :=
  joinLines (fileLines package records)

end ModuleBindings.Go
