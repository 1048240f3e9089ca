import ModuleBindings.Proofs.Nodes
import ModuleBindings.Record.Builder
import Mathlib.Data.List.Induction
import Mathlib.Data.List.Nodup

/-!
# The objects in an entity and their records

`Entity.flattening` lists the records of an entity by going through its types in pre-order. It
knows nothing of names that are taken and never fails.
-/

namespace ModuleBindings

namespace Constraint

/-- An object within a type: the names of the fields on the way to it, outermost first, and the
fields that it has. -/
structure ObjectNode where
  steps : List String
  fields : List (Field Constraint)

/-- The same object, seen from outside the field or variable of that name. -/
def ObjectNode.within (name : String) (n : ObjectNode) : ObjectNode :=
  { n with steps := name :: n.steps }

mutual

/-- The objects in a type in pre-order. Lists and maps are no steps on the way. -/
def objects : Constraint → List ObjectNode
  | node _ kind elem _ fields _ =>
    (if kind = .object then [⟨[], fields⟩] else []) ++ elemObjects elem ++ fieldObjects fields

def elemObjects : Option Constraint → List ObjectNode
  | none => []
  | some t => objects t

def fieldObjects : List (Field Constraint) → List ObjectNode
  | [] => []
  | ⟨name, _, t⟩ :: rest => (objects t).map (ObjectNode.within name) ++ fieldObjects rest

end

end Constraint

namespace Record

/-- The name of the record at the end of a path of names. -/
def nameAt (path : List String) : String :=
  String.join (path.map Text.pascal)

lemma nameAt_append (path : List String) (name : String) :
    nameAt (path ++ [name]) = nameAt path ++ Text.pascal name := by
  simp [nameAt, String.join]

end Record

/-- One key for some formats, each of them once. -/
def Tags.uniform (formats : List String) (key : String) : Tags :=
  formats.eraseDups.map (·, key)

namespace Constraint

mutual

/-- What a type at the end of a path becomes. -/
def typeExpr (path : List String) : Constraint → TypeExpr
  | node _ kind elem optional _ _ =>
    let base :=
      match kind with
      | .string | .number => TypeExpr.primitive .string
      | .boolean => .primitive .bool
      | .null | .any => .primitive .any
      | .map => .map (elemExpr path elem)
      | .list => .list (elemExpr path elem)
      | .object => .record (Record.nameAt path)
    if optional then base.orNull else base

def elemExpr (path : List String) : Option Constraint → TypeExpr
  | none => .primitive .any
  | some t => t.typeExpr path

end

end Constraint

namespace Record

/-- The field of the record at `path` for a field of its object. -/
def objectField (formats path : List String) (f : Constraint.Field Constraint) : Field where
  name := Text.pascal f.name
  description := ""
  type := f.type.typeExpr (path ++ [f.name])
  tags := Tags.uniform formats f.name

/-- The record of an object within the type at `path`. -/
def ofObject (formats path : List String) (n : Constraint.ObjectNode) : Record where
  name := nameAt (path ++ n.steps)
  fields := n.fields.map (objectField formats (path ++ n.steps))

/-- The field of the record of `entity` for one of its variables. -/
def variableField (formats : List String) (entity : String) (v : Variable) : Field where
  name := Text.pascal v.name
  description := v.description
  type :=
    let t := v.type.typeExpr [entity, v.name]
    if v.required then t else t.orNull
  tags := Tags.uniform formats v.name

end Record

namespace Entity

/-- The variables that are not ignored. -/
def kept (o : BuilderOptions) (e : Entity) : List Variable :=
  e.vars.filter fun v => !o.ignores v.name

/-- The objects in the types of the kept variables, variable after variable. -/
def objects (o : BuilderOptions) (e : Entity) : List Constraint.ObjectNode :=
  (e.kept o).flatMap fun v => v.type.objects.map (.within v.name)

/-- The record of the entity itself, and then one for every object. -/
def flattening (o : BuilderOptions) (e : Entity) : List Record :=
  ⟨Text.pascal e.name, (e.kept o).map (Record.variableField o.topLevelFormats e.name)⟩ ::
    (e.objects o).map (Record.ofObject o.nestedFormats [e.name])

end Entity

namespace Tags

lemma insert_map (formats : List String) (format key : String) :
    insert (formats.map (·, key)) format key =
      if format ∈ formats then formats.map (·, key) else (formats ++ [format]).map (·, key) := by
  induction formats with
  | nil => simp [insert]
  | cons f formats ih =>
    rw [List.map_cons, insert]
    by_cases hf : f = format
    · simp [hf]
    · rw [if_neg hf, ih]
      by_cases hmem : format ∈ formats
      · simp [hmem]
      · simp [hmem, Ne.symm hf]

lemma ofFormats_eq_uniform (formats : List String) (key : String) :
    ofFormats formats key = uniform formats key := by
  induction formats using List.reverseRecOn with
  | nil => rfl
  | append_singleton formats format ih =>
    have hsnoc : ofFormats (formats ++ [format]) key =
        insert (ofFormats formats key) format key := by
      simp [ofFormats, ofList]
    rw [hsnoc, ih, uniform, insert_map, uniform, List.eraseDups_append]
    by_cases hmem : format ∈ formats
    · simp [hmem, List.removeAll]
    · simp [hmem, List.removeAll, List.eraseDups_cons]

end Tags

namespace Record

@[simp] lemma nameAt_singleton (name : String) : nameAt [name] = Text.pascal name := by
  simp [nameAt, String.join]

@[simp] lemma names_nil : names [] = [] := rfl

@[simp] lemma names_cons (r : Record) (rs : List Record) :
    names (r :: rs) = r.name :: names rs := rfl

@[simp] lemma names_append (rs more : List Record) :
    names (rs ++ more) = names rs ++ names more :=
  List.map_append

lemma ofObject_within (formats path : List String) (name : String) (n : Constraint.ObjectNode) :
    ofObject formats path (n.within name) = ofObject formats (path ++ [name]) n := by
  simp [ofObject, Constraint.ObjectNode.within]

end Record

namespace Constraint

/-- The records of the objects in the type at `path`. -/
def records (formats path : List String) (t : Constraint) : List Record :=
  t.objects.map (Record.ofObject formats path)

def elemRecords (formats path : List String) (elem : Option Constraint) : List Record :=
  (elemObjects elem).map (Record.ofObject formats path)

def fieldRecords (formats path : List String) (fields : List (Field Constraint)) : List Record :=
  (fieldObjects fields).map (Record.ofObject formats path)

variable {formats path : List String}

@[simp] lemma elemRecords_some (t : Constraint) :
    elemRecords formats path (some t) = t.records formats path := rfl

lemma records_node (name : String) (kind : Kind) (elem : Option Constraint) (opt : Bool)
    (fields : List (Field Constraint)) (location : Option Location) :
    (node name kind elem opt fields location).records formats path =
      (if kind = .object then
        [⟨Record.nameAt path, fields.map (Record.objectField formats path)⟩] else []) ++
        elemRecords formats path elem ++ fieldRecords formats path fields := by
  by_cases hk : kind = .object <;>
    simp [records, elemRecords, fieldRecords, objects, hk, Record.ofObject]

lemma records_wrapper {name : String} {kind : Kind} {elem : Option Constraint} {opt : Bool}
    {location : Option Location} (hk : kind.wraps = true) :
    (node name kind elem opt [] location).records formats path = elemRecords formats path elem := by
  rw [records_node]
  have hobject : kind ≠ .object := by
    rintro rfl
    cases hk
  simp [hobject, fieldRecords, fieldObjects]

lemma records_object {name : String} {opt : Bool} {fields : List (Field Constraint)}
    {location : Option Location} :
    (node name .object none opt fields location).records formats path =
      ⟨Record.nameAt path, fields.map (Record.objectField formats path)⟩ ::
        fieldRecords formats path fields := by
  simp [records_node, elemRecords, elemObjects]

@[simp] lemma fieldRecords_cons (name : String) (location : Option Location) (t : Constraint)
    (rest : List (Field Constraint)) :
    fieldRecords formats path (⟨name, location, t⟩ :: rest) =
      t.records formats (path ++ [name]) ++ fieldRecords formats path rest := by
  simp [fieldRecords, records, fieldObjects, Record.ofObject_within]

end Constraint

namespace Record

/-- The records of the objects in the types of some variables of `entity`. -/
def variableRecords (formats : List String) (entity : String) (vars : List Variable) :
    List Record :=
  vars.flatMap fun v => v.type.records formats [entity, v.name]

@[simp] lemma variableRecords_cons (formats : List String) (entity : String) (v : Variable)
    (rest : List Variable) :
    variableRecords formats entity (v :: rest) =
      v.type.records formats [entity, v.name] ++ variableRecords formats entity rest := by
  rw [variableRecords, List.flatMap_cons, variableRecords]

end Record

namespace Entity

lemma flattening_eq (e : Entity) {o : BuilderOptions} :
    e.flattening o =
      ⟨Record.nameAt [e.name], (e.kept o).map (Record.variableField o.topLevelFormats e.name)⟩ ::
        Record.variableRecords o.nestedFormats e.name (e.kept o) := by
  rw [flattening, objects, Record.nameAt_singleton, Record.variableRecords, List.map_flatMap]
  simp only [Constraint.records, List.map_map, Function.comp_def, Record.ofObject_within,
    List.singleton_append]

/-- A field stands for a variable that is kept, or for a field of an object in the type of one. -/
lemma field_of_mem_flattening {e : Entity} {o : BuilderOptions} {r : Record}
    (hr : r ∈ e.flattening o) {f : Record.Field} (hf : f ∈ r.fields) :
    (∃ v ∈ e.kept o, r.name = Text.pascal e.name ∧
      f = Record.variableField o.topLevelFormats e.name v) ∨
    ∃ n ∈ e.objects o, ∃ field ∈ n.fields,
      f = Record.objectField o.nestedFormats (e.name :: n.steps) field := by
  rw [flattening, List.mem_cons, List.mem_map] at hr
  rcases hr with rfl | ⟨n, hn, rfl⟩
  · obtain ⟨v, hv, rfl⟩ := List.mem_map.mp hf
    exact .inl ⟨v, hv, rfl, rfl⟩
  · obtain ⟨field, hfield, rfl⟩ := List.mem_map.mp hf
    exact .inr ⟨n, hn, field, hfield, rfl⟩

end Entity

end ModuleBindings
