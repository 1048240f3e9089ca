/-!
# Relative paths

A path is cut into pieces at its slashes. An empty piece and `.` lead nowhere: they count only
if they stand first, or for a look-up, where they ask for a directory.
-/

namespace ModuleBindings.FileTree

/-- The pieces between the slashes. A text without slashes is one piece. -/
def cutAtSlashes : List Char → List (List Char)
  | [] => [[]]
  | c :: cs =>
    match cutAtSlashes cs with
    | [] => [[]]
    | piece :: rest => if c = '/' then [] :: piece :: rest else (c :: piece) :: rest

def pieces (path : String) : List String :=
  (cutAtSlashes path.toList).map String.ofList

/-- Whether a piece leads to where it is read. -/
def staysPut (piece : String) : Bool :=
  piece = "" || piece = "."

/-- The pieces without those at the end that lead nowhere, except for a first piece `.`. -/
def trimPieces : List String → List String
  | [] => []
  | first :: rest =>
    let rest := (rest.reverse.dropWhile staysPut).reverse
    if rest.isEmpty && first = "" then [] else first :: rest

/-- The last piece, if it is a name. -/
def fileName? (path : String) : Option String :=
  match (trimPieces (pieces path)).getLast? with
  | some piece => if staysPut piece || piece = ".." then none else some piece
  | none => none

/-- The last piece, if it is a name, else nothing. -/
def baseName (path : String) : String :=
  (fileName? path).getD ""

def joinPieces (ps : List String) : String :=
  String.intercalate "/" ps

/-- The path without its last piece. -/
def parent? (path : String) : Option String :=
  match trimPieces (pieces path) with
  | [] => none
  | ps => some (joinPieces (trimPieces ps.dropLast))

/-- The path of an entry of a directory. -/
def join (path name : String) : String :=
  if path = "" || path.toList.getLast? = some '/' then path ++ name else path ++ "/" ++ name

/-- The parts of a name before and after its last dot; a dot in front does not count. -/
def splitName (name : String) : String × Option String :=
  let cs := name.toList
  let after := (cs.reverse.takeWhile (· ≠ '.')).reverse
  let before := cs.take (cs.length - after.length - 1)
  if name = ".." || after.length = cs.length || before.isEmpty then (name, none)
  else (String.ofList before, some (String.ofList after))

/-- The name of a file without its extension. -/
def stem (path : String) : String :=
  match fileName? path with
  | some name => (splitName name).1
  | none => ""

def extension? (path : String) : Option String :=
  (fileName? path).bind fun name => (splitName name).2

end ModuleBindings.FileTree
