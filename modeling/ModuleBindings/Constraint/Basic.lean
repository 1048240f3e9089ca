import ModuleBindings.Location

/-!
# Type constraints

A constraint is a tree of nodes. A node made by hand may carry an element or fields that its
kind does not call for; `Constraint.IsShapely` says of a whole tree that no node does. Places
in the text are kept for messages only: `Constraint.erase` forgets them, and `Constraint.same`
compares two trees without them.
-/

namespace ModuleBindings

namespace Constraint

inductive Kind where
  | string
  | boolean
  | number
  | null
  | list
  | map
  | object
  | any
  deriving DecidableEq, Repr

namespace Kind

def isScalar : Kind → Bool
  | string | boolean | number | null | any => true
  | list | map | object => false

/-- The kinds that have an element. -/
def wraps : Kind → Bool
  | list | map => true
  | _ => false

/-- The keyword a kind is written with. -/
def keyword : Kind → String
  | string => "string"
  | boolean => "bool"
  | number => "number"
  | null => "null"
  | list => "list"
  | map => "map"
  | object => "object"
  | any => "any"

end Kind

/-- A named member of an object. -/
structure Field (τ : Type) where
  name : String
  location : Option Location
  type : τ
  deriving Repr

end Constraint

inductive Constraint where
  | node (name : String) (kind : Constraint.Kind) (elem : Option Constraint) (optional : Bool)
      (fields : List (Constraint.Field Constraint)) (location : Option Location)
  deriving Repr

namespace Constraint

def name : Constraint → String
  | node name _ _ _ _ _ => name

def kind : Constraint → Kind
  | node _ kind _ _ _ _ => kind

/-- The type of the members of a list or map. -/
def elem : Constraint → Option Constraint
  | node _ _ elem _ _ _ => elem

def optional : Constraint → Bool
  | node _ _ _ optional _ _ => optional

def fields : Constraint → List (Field Constraint)
  | node _ _ _ _ fields _ => fields

def location : Constraint → Option Location
  | node _ _ _ _ _ location => location

/-- A node with neither element nor fields. -/
def scalar (name : String) (kind : Kind) : Constraint :=
  node name kind none false [] none

def list (elem : Constraint) : Constraint :=
  node "list" .list (some elem) false [] none

def map (elem : Constraint) : Constraint :=
  node "map" .map (some elem) false [] none

def object (fields : List (Field Constraint)) : Constraint :=
  node "object" .object none false fields none

def withOptional (optional : Bool) : Constraint → Constraint
  | node name kind elem _ fields location => node name kind elem optional fields location

def withLocation (location : Option Location) : Constraint → Constraint
  | node name kind elem optional fields _ => node name kind elem optional fields location

/-- The first field of that name. -/
def field? (t : Constraint) (name : String) : Option (Field Constraint) :=
  t.fields.find? (·.name = name)

/-- Whether a node, its subtrees aside, has an element and fields just where its kind allows
them. -/
def isShapelyNode (t : Constraint) : Bool :=
  t.elem.isSome == t.kind.wraps && (t.kind = .object || t.fields.isEmpty)

mutual

def IsShapely : Constraint → Prop
  | node name kind elem optional fields location =>
    (node name kind elem optional fields location).isShapelyNode = true
      ∧ IsShapelyElem elem ∧ AreShapely fields

def IsShapelyElem : Option Constraint → Prop
  | none => True
  | some t => IsShapely t

def AreShapely : List (Field Constraint) → Prop
  | [] => True
  | ⟨_, _, t⟩ :: rest => IsShapely t ∧ AreShapely rest

end

mutual

/-- The tree without the places it was read from. -/
def erase : Constraint → Constraint
  | node name kind elem optional fields _ =>
    node name kind (eraseElem elem) optional (eraseFields fields) none

def eraseElem : Option Constraint → Option Constraint
  | none => none
  | some t => some (erase t)

def eraseFields : List (Field Constraint) → List (Field Constraint)
  | [] => []
  | ⟨name, _, t⟩ :: rest => ⟨name, none, erase t⟩ :: eraseFields rest

end

mutual

/-- Equality of trees, places aside. -/
def same : Constraint → Constraint → Bool
  | node name kind elem optional fields _, u =>
    name = u.name && kind = u.kind && sameElem elem u.elem && optional = u.optional
      && sameFields fields u.fields

def sameElem : Option Constraint → Option Constraint → Bool
  | none, none => true
  | some t, some u => same t u
  | _, _ => false

def sameFields : List (Field Constraint) → List (Field Constraint) → Bool
  | [], [] => true
  | ⟨name, _, t⟩ :: rest, u :: more => name = u.name && same t u.type && sameFields rest more
  | _, _ => false

end

end Constraint

end ModuleBindings
