import ModuleBindings.FileTree.Basic
import ModuleBindings.FileTree.Pattern

/-!
# Glob patterns

A glob pattern has a name pattern between each two slashes and finds paths in a directory tree.
What it finds comes in the order of the names, an entry before the entries below it if both are
found by the same piece. A slash at its end asks for directories.
-/

namespace ModuleBindings.FileTree

structure Glob where
  pieces : List Pattern
  directoriesOnly : Bool
  deriving DecidableEq, Repr

namespace Glob

/-- Whether a text is a glob pattern and not the path itself. -/
def hasWildcards (text : String) : Bool :=
  text.toList.any fun c => c = '*' || c = '?' || c = '['

/-- The texts between slashes; a slash at the end has nothing after it. -/
def texts (text : String) : List String :=
  let ps := FileTree.pieces text
  if ps.getLast? = some "" then ps.dropLast else ps

/-- Leaves out every `**` that another follows, which changes nothing. -/
def collapse : List Pattern → List Pattern
  | [] => []
  | p :: ps =>
    if p.isRecursive && ps.head?.any Pattern.isRecursive then collapse ps else p :: collapse ps

/-- A pattern is read twice, as a whole and piece by piece, so that neither a bracket nor `**`
reaches over a slash. -/
def parse (text : String) : Except PatternError Glob := do
  let _ ← Pattern.parse text
  let ps ← (texts text).mapM Pattern.parse
  pure ⟨collapse ps, text.toList.getLast? = some '/'⟩

/-- Whether a path leads to where it starts, and is not empty. -/
def staysHere (path : String) : Bool :=
  match FileTree.pieces path with
  | "." :: rest => rest.all staysPut
  | _ => false

/-- The path of an entry of a directory. The working directory is left out of it. -/
def childPath (path name : String) : String :=
  if staysHere path then name else join path name

mutual

/-- What `visit` finds at all that is inside a tree, at any depth. -/
def walk (visit : String → String → FileTree → List String) (path : String) :
    FileTree → List String
  | file _ => []
  | directory es => (sortByName (walkEntries visit path es)).flatMap (·.2)

/-- What is found at and inside each entry. -/
def walkEntries (visit : String → String → FileTree → List String) (path : String) :
    List (String × FileTree) → List (String × List String)
  | [] => []
  | (name, u) :: rest =>
    let child := childPath path name
    (name, visit name child u ++ walk visit child u) :: walkEntries visit path rest

end

/-- The names `.` and `..` match only a pattern that begins with a dot. -/
def dotNames (p : Pattern) : List String :=
  if p.head? = some (.char '.') then ["..", "."].filter p.matchesName else []

/-- Whether a name without wildcards can be followed from a path. -/
def canFollow (t : FileTree) (path name next : String) : Bool :=
  if name = "." || name = ".." then t.isDirectory path else t.exists? next

/-- The paths that some pieces of a pattern find from a path on. -/
def findFrom (t : FileTree) (directoriesOnly : Bool) (path : String) :
    List Pattern → List String
  | [] => if directoriesOnly && !t.isDirectory path then [] else [path]
  | p :: ps =>
    if p.isRecursive then
      walk
        (fun name child u =>
          match ps with
          | [] => if u.isBranch then [child] else []
          | q :: qs => if q.matchesName name then findFrom t directoriesOnly child qs else [])
        path ((t.lookup path).toOption.getD empty)
    else
      match p.literal? with
      | some cs =>
        let name := String.ofList cs
        let next := childPath path name
        if canFollow t path name next then findFrom t directoriesOnly next ps else []
      | none =>
        match t.list path with
        | .ok es =>
          (dotNames p).flatMap (fun name => findFrom t directoriesOnly (join path name) ps)
            ++ (es.filter (p.matchesName ·.1)).flatMap fun (name, _) =>
              findFrom t directoriesOnly (childPath path name) ps
        | .error _ => []

/-- The paths that a pattern finds from the working directory. -/
def find (g : Glob) (t : FileTree) : List String :=
  findFrom t g.directoriesOnly "." g.pieces

end Glob

end ModuleBindings.FileTree
