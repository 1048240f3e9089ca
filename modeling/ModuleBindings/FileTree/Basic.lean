import ModuleBindings.FileTree.Path

/-!
# Directory trees

The files below a working directory. A directory lists its entries in some order; `list` puts
them in the order of their names. Paths are looked up piece by piece from the working directory.
-/

namespace ModuleBindings

inductive FileTree where
  | file (content : ByteArray)
  | directory (entries : List (String × FileTree))

/-- Why the system cannot do what is asked of a path. -/
inductive FileTree.SystemError where
  | notFound
  | exists
  | notDirectory
  | isDirectory
  | nameTooLong
  | zeroByte
  | notUtf8
  deriving DecidableEq, Repr

def FileTree.SystemError.message : SystemError → String
  | notFound => "No such file or directory (os error 2)"
  | «exists» => "File exists (os error 17)"
  | notDirectory => "Not a directory (os error 20)"
  | isDirectory => "Is a directory (os error 21)"
  | nameTooLong => "File name too long (os error 36)"
  | zeroByte => "file name contained an unexpected NUL byte"
  | notUtf8 => "stream did not contain valid UTF-8"

namespace FileTree

def empty : FileTree := directory []

def entries : FileTree → List (String × FileTree)
  | file _ => []
  | directory es => es

/-- Whether it is a directory and not a file. -/
def isBranch : FileTree → Bool
  | file _ => false
  | directory _ => true

/-- What is found by following names alone. -/
def at? (t : FileTree) : List String → Option FileTree
  | [] => some t
  | name :: names =>
    match t.entries.lookup name with
    | some u => u.at? names
    | none => none

/-- The entries with that of one name replaced or added at the end. -/
def setEntry (name : String) (u : FileTree) :
    List (String × FileTree) → List (String × FileTree)
  | [] => [(name, u)]
  | (n, v) :: rest => if n = name then (n, u) :: rest else (n, v) :: setEntry name u rest

/-- The tree with something put at the end of some names. Directories that are missing on the
way are made. -/
def put (u : FileTree) : List String → FileTree → FileTree
  | [], _ => u
  | name :: names, t =>
    directory (setEntry name (put u names ((t.entries.lookup name).getD empty)) t.entries)

theorem lookup_setEntry (name : String) (u : FileTree) (es : List (String × FileTree)) :
    (setEntry name u es).lookup name = some u := by
  induction es with
  | nil => simp [setEntry]
  | cons e es ih =>
    obtain ⟨n, v⟩ := e
    rw [setEntry]
    split
    · next h => simp [h]
    · next h =>
      have hn : (name == n) = false := by simpa using fun h' => h h'.symm
      rw [List.lookup_cons, hn]
      exact ih

theorem lookup_setEntry_of_ne {name other : String} (h : other ≠ name) (u : FileTree)
    (es : List (String × FileTree)) :
    (setEntry name u es).lookup other = es.lookup other := by
  have ho : (other == name) = false := by simpa using h
  induction es with
  | nil => simp [setEntry, List.lookup_cons, ho]
  | cons e es ih =>
    obtain ⟨n, v⟩ := e
    rw [setEntry]
    split
    · next hn =>
      rw [List.lookup_cons, List.lookup_cons, hn, ho]
    · rw [List.lookup_cons, List.lookup_cons, ih]

/-- What is put at the end of some names is found there. -/
theorem at?_put (u : FileTree) (names : List String) (t : FileTree) :
    (put u names t).at? names = some u := by
  induction names generalizing t with
  | nil => rw [put, at?]
  | cons name names ih =>
    rw [put, at?, entries, lookup_setEntry]
    exact ih _

/-- The longest name of an entry, in bytes. -/
def maxNameBytes : Nat := 255

/-- Follows pieces of a path from the directory with the names `here`, last name first. -/
def resolvePieces (t : FileTree) (here : List String) :
    List String → Except SystemError (List String)
  | [] => .ok here.reverse
  | piece :: rest =>
    match t.at? here.reverse with
    | some (directory es) =>
      if staysPut piece then resolvePieces t here rest
      else if piece = ".." then resolvePieces t here.tail rest
      else if maxNameBytes < piece.utf8ByteSize then .error .nameTooLong
      else if (es.lookup piece).isSome then resolvePieces t (piece :: here) rest
      else .error .notFound
    | _ => .error .notDirectory

/-- The names that lead to where a path leads. -/
def resolve (t : FileTree) (path : String) : Except SystemError (List String) :=
  if path.toList.contains '\x00' then .error .zeroByte
  else if path = "" then .error .notFound
  else resolvePieces t [] (pieces path)

def lookup (t : FileTree) (path : String) : Except SystemError FileTree :=
  match t.resolve path with
  | .ok names =>
    match t.at? names with
    | some u => .ok u
    | none => .error .notFound
  | .error e => .error e

def exists? (t : FileTree) (path : String) : Bool :=
  match t.lookup path with
  | .ok _ => true
  | .error _ => false

def isDirectory (t : FileTree) (path : String) : Bool :=
  match t.lookup path with
  | .ok (directory _) => true
  | _ => false

def isFile (t : FileTree) (path : String) : Bool :=
  match t.lookup path with
  | .ok (file _) => true
  | _ => false

/-- Named things in the order of their names. -/
def sortByName {α : Type} (es : List (String × α)) : List (String × α) :=
  es.mergeSort fun a b => a.1 ≤ b.1

/-- The entries of the directory at a path, in the order of their names. -/
def list (t : FileTree) (path : String) : Except SystemError (List (String × FileTree)) :=
  match t.lookup path with
  | .ok (directory es) => .ok (sortByName es)
  | .ok (file _) => .error .notDirectory
  | .error e => .error e

/-- The text of the file at a path. -/
def readText (t : FileTree) (path : String) : Except SystemError String :=
  match t.lookup path with
  | .ok (file content) =>
    match String.fromUTF8? content with
    | some text => .ok text
    | none => .error .notUtf8
  | .ok (directory _) => .error .isDirectory
  | .error e => .error e

/-- Puts something new at a path whose last piece is a name in a directory that is there. -/
def create (t : FileTree) (ps : List String) (u : FileTree) : Except SystemError FileTree :=
  match resolvePieces t [] ps.dropLast with
  | .ok names =>
    match t.at? names, ps.getLast? with
    | some (directory _), some name => .ok (put u (names ++ [name]) t)
    | some (directory _), none => .error .notFound
    | _, _ => .error .notDirectory
  | .error e => .error e

/-- Writes a file, which must not be a directory, in a directory that is there. A slash at the
end of the path asks for a directory. -/
def write (t : FileTree) (path : String) (text : String) : Except SystemError FileTree :=
  if path.toList.getLast? = some '/' then
    match t.create (trimPieces (pieces path)) empty with
    | .ok _ => .error .isDirectory
    | .error e => .error e
  else
    match t.resolve path with
    | .ok names =>
      match t.at? names with
      | some (file _) => .ok (put (file text.toUTF8) names t)
      | _ => .error .isDirectory
    | .error .notFound =>
      if path = "" then .error .notFound else t.create (pieces path) (file text.toUTF8)
    | .error e => .error e

/-- Makes a directory in one that is there. -/
def makeDirectory (t : FileTree) (ps : List String) : Except SystemError FileTree :=
  match t.resolve (joinPieces ps) with
  | .ok _ => .error .exists
  | .error .notFound => t.create ps empty
  | .error e => .error e

/-- What comes of an attempt to make a directory, which may be there already. -/
def orThere (t : FileTree) (ps : List String) :
    Except SystemError FileTree → FileTree × Except SystemError Unit
  | .ok t' => (t', .ok ())
  | .error e => if t.isDirectory (joinPieces ps) then (t, .ok ()) else (t, .error e)

/-- Makes a directory and all that are missing above it; the pieces come last piece first. What was
made before a failure stays. -/
def makeDirectories (t : FileTree) : List String → FileTree × Except SystemError Unit
  | [] => (t, .ok ())
  | piece :: above =>
    let ps := (piece :: above).reverse
    match t.makeDirectory ps with
    | .error .notFound =>
      match makeDirectories t above with
      | (t', .error e) => (t', .error e)
      | (t', .ok ()) => t'.orThere ps (t'.makeDirectory ps)
    | made => t.orThere ps made

mutual

/-- All files with their paths; `path` leads to the tree itself. -/
def filesFrom (path : String) : FileTree → List (String × ByteArray)
  | file content => [(path, content)]
  | directory es => filesOfEntries path es

def filesOfEntries (path : String) : List (String × FileTree) → List (String × ByteArray)
  | [] => []
  | (name, u) :: rest => filesFrom (join path name) u ++ filesOfEntries path rest

end

def files (t : FileTree) : List (String × ByteArray) :=
  filesFrom "" t

/-- The files that are new in `t'` or have another content, in the order of their paths. -/
def changes (t t' : FileTree) : List (String × ByteArray) :=
  let before := t.files
  sortByName (t'.files.filter fun (path, content) => before.lookup path != some content)

end FileTree

end ModuleBindings
