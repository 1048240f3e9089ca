import ModuleBindings.Proofs.BuilderRuns
import Mathlib.Data.List.Forall2

/-!
# Types that admit no value

A type expression follows a constraint layer by layer, and the flag of a layer is all that decides
whether its expression admits no value. Only around the type of a whole field does the variable have
a say, too.
-/

namespace ModuleBindings

namespace TypeExpr

/-- The type, or the one that also admits no value. -/
def nullableIf (null : Bool) (t : TypeExpr) : TypeExpr :=
  if null then nullable t else t

/-- The type and all that it is made of, outermost first. -/
def layers : TypeExpr → List TypeExpr
  | primitive p => [primitive p]
  | map t => map t :: t.layers
  | list t => list t :: t.layers
  | record name => [record name]
  | nullable t => nullable t :: t.layers

def NeverDoubled (t : TypeExpr) : Prop :=
  ∀ u, nullable (nullable u) ∉ t.layers

variable {t : TypeExpr}

lemma neverDoubled_primitive (p : Primitive) : (primitive p).NeverDoubled := by
  simp [NeverDoubled, layers]

lemma neverDoubled_record (name : String) : (record name).NeverDoubled := by
  simp [NeverDoubled, layers]

lemma NeverDoubled.list (h : t.NeverDoubled) : (list t).NeverDoubled := by
  simpa [NeverDoubled, layers] using h

lemma NeverDoubled.map (h : t.NeverDoubled) : (map t).NeverDoubled := by
  simpa [NeverDoubled, layers] using h

lemma NeverDoubled.nullableIf (h : t.NeverDoubled) (hbase : t.isNullable = false) (null : Bool) :
    (t.nullableIf null).NeverDoubled := by
  cases null with
  | false => exact h
  | true =>
    intro u hu
    rcases List.mem_cons.mp hu with hself | hu
    · obtain rfl := nullable.inj hself
      cases hbase
    · exact h u hu

lemma isNullable_nullableIf (hbase : t.isNullable = false) (null : Bool) :
    (t.nullableIf null).isNullable = null := by
  cases null with
  | false => exact hbase
  | true => rfl

lemma orNull_nullableIf (hbase : t.isNullable = false) (null : Bool) :
    (t.nullableIf null).orNull = t.nullableIf true := by
  cases null with
  | false => simp [nullableIf, orNull, hbase]
  | true => rfl

/-- The expression is made of the same layers as a type at the end of a path, and an element in it
admits no value just when it is flagged. The flag of the whole type is left out. -/
inductive Follows (path : List String) : Constraint → TypeExpr → Prop
  | text {t : Constraint} (h : t.kind = .string ∨ t.kind = .number) :
    Follows path t (primitive .string)
  | truth {t : Constraint} (h : t.kind = .boolean) : Follows path t (primitive .bool)
  | anything {t : Constraint} (h : t.kind = .null ∨ t.kind = .any) :
    Follows path t (primitive .any)
  | list {t u : Constraint} {base : TypeExpr} (h : t.kind = .list) (helem : t.elem = some u)
      (hu : Follows path u base) : Follows path t (list (base.nullableIf u.optional))
  | map {t u : Constraint} {base : TypeExpr} (h : t.kind = .map) (helem : t.elem = some u)
      (hu : Follows path u base) : Follows path t (map (base.nullableIf u.optional))
  | object {t : Constraint} (h : t.kind = .object) : Follows path t (record (Record.nameAt path))

/-- The expression for a type at the end of a path, which admits no value just when that is said. -/
structure Renders (path : List String) (t : Constraint) (null : Bool) (te : TypeExpr) : Prop where
  layers : ∃ base, Follows path t base ∧ te = base.nullableIf null
  isNullable : te.isNullable = null
  neverDoubled : te.NeverDoubled

section Layers

variable {path : List String} {t : Constraint} {base : TypeExpr}

lemma Follows.isNullable (h : Follows path t base) : base.isNullable = false := by
  cases h <;> rfl

lemma Follows.neverDoubled (h : Follows path t base) : base.NeverDoubled := by
  induction h with
  | text => exact neverDoubled_primitive .string
  | truth => exact neverDoubled_primitive .bool
  | anything => exact neverDoubled_primitive .any
  | list _ _ hu ih => exact (ih.nullableIf hu.isNullable _).list
  | map _ _ hu ih => exact (ih.nullableIf hu.isNullable _).map
  | object => exact neverDoubled_record _

lemma Follows.renders (h : Follows path t base) (null : Bool) :
    Renders path t null (base.nullableIf null) :=
  ⟨⟨base, h, rfl⟩, isNullable_nullableIf h.isNullable null,
    h.neverDoubled.nullableIf h.isNullable null⟩

end Layers

end TypeExpr

namespace Constraint

open TypeExpr (Follows Renders)

variable {path : List String}

mutual

/-- What a well-formed type becomes follows it. -/
theorem typeExpr_follows : ∀ (t : Constraint), t.IsShapely →
    ∃ base, Follows path t base ∧ t.typeExpr path = base.nullableIf t.optional
  | node name kind elem opt fields location, hs => by
    cases kind
    case string | number => exact ⟨.primitive .string, .text (by simp [Constraint.kind]), rfl⟩
    case boolean => exact ⟨.primitive .bool, .truth rfl, rfl⟩
    case null | any => exact ⟨.primitive .any, .anything (by simp [Constraint.kind]), rfl⟩
    case list =>
      obtain ⟨hsome, helem, -⟩ := (isShapely_wrapper rfl).mp hs
      obtain ⟨u, rfl, base, hu, hexpr⟩ := elemExpr_follows elem hsome helem
      refine ⟨.list (base.nullableIf u.optional), .list rfl rfl hu, ?_⟩
      rw [← hexpr]
      rfl
    case map =>
      obtain ⟨hsome, helem, -⟩ := (isShapely_wrapper rfl).mp hs
      obtain ⟨u, rfl, base, hu, hexpr⟩ := elemExpr_follows elem hsome helem
      refine ⟨.map (base.nullableIf u.optional), .map rfl rfl hu, ?_⟩
      rw [← hexpr]
      rfl
    case object => exact ⟨.record (Record.nameAt path), .object rfl, rfl⟩

theorem elemExpr_follows : ∀ (elem : Option Constraint), elem.isSome = true → IsShapelyElem elem →
    ∃ u, elem = some u ∧ ∃ base, Follows path u base ∧
      elemExpr path elem = base.nullableIf u.optional
  | none, hsome, _ => by cases hsome
  | some u, _, hs => ⟨u, rfl, typeExpr_follows u hs⟩

end

lemma AreShapely.of_mem {fields : List (Field Constraint)} (h : AreShapely fields)
    {f : Field Constraint} (hf : f ∈ fields) : f.type.IsShapely := by
  induction fields with
  | nil => cases hf
  | cons g rest ih =>
    obtain ⟨hg, hrest⟩ := h
    rcases List.mem_cons.mp hf with rfl | hf
    · exact hg
    · exact ih hrest hf

mutual

/-- The objects in a well-formed type are well-formed. -/
lemma objects_areShapely : ∀ t : Constraint, t.IsShapely → ∀ n ∈ t.objects, AreShapely n.fields
  | node name kind elem opt fields location, ⟨_, helem, hfields⟩ => by
    rw [objects, List.forall_mem_append, List.forall_mem_append]
    refine ⟨⟨?_, elemObjects_areShapely elem helem⟩, fieldObjects_areShapely fields hfields⟩
    by_cases hk : kind = .object
    · simpa [hk] using hfields
    · simp [hk]

lemma elemObjects_areShapely : ∀ elem : Option Constraint, IsShapelyElem elem →
    ∀ n ∈ elemObjects elem, AreShapely n.fields
  | none, _ => by simp [elemObjects]
  | some t, hs => objects_areShapely t hs

lemma fieldObjects_areShapely : ∀ fields : List (Field Constraint), AreShapely fields →
    ∀ n ∈ fieldObjects fields, AreShapely n.fields
  | [], _ => by simp [fieldObjects]
  | ⟨_, _, t⟩ :: rest, ⟨hs, hrest⟩ => by
    rw [fieldObjects, List.forall_mem_append, List.forall_mem_map]
    exact ⟨objects_areShapely t hs, fieldObjects_areShapely rest hrest⟩

end

end Constraint

namespace Record

open TypeExpr (Renders)

/-- The record stands for an object within the type at a path: it is named by the way to the object
and has one field for each field of the object. -/
def RendersObject (path : List String) (n : Constraint.ObjectNode) (r : Record) : Prop :=
  r.name = nameAt (path ++ n.steps) ∧
    List.Forall₂ (fun c f => f.name = Text.pascal c.name ∧
      Renders (path ++ n.steps ++ [c.name]) c.type c.type.optional f.type) n.fields r.fields

/-- The record stands for an entity and has one field for each of its variables. -/
def RendersVariables (entity : String) (vars : List Variable) (r : Record) : Prop :=
  r.name = Text.pascal entity ∧
    List.Forall₂ (fun v f => f.name = Text.pascal v.name ∧
      Renders [entity, v.name] v.type (v.type.optional || !v.required) f.type) vars r.fields

lemma ofObject_renders (formats path : List String) {n : Constraint.ObjectNode}
    (hs : Constraint.AreShapely n.fields) : RendersObject path n (ofObject formats path n) := by
  refine ⟨rfl, ?_⟩
  rw [ofObject, List.forall₂_map_right_iff, List.forall₂_same]
  intro c hc
  obtain ⟨base, hbase, hexpr⟩ := c.type.typeExpr_follows (hs.of_mem hc)
  refine ⟨rfl, ?_⟩
  rw [objectField, hexpr]
  exact hbase.renders _

/-- The flag of the type and the variable meet on the outermost layer. -/
lemma variableField_renders (formats : List String) (entity : String) {v : Variable}
    (hs : v.type.IsShapely) :
    Renders [entity, v.name] v.type (v.type.optional || !v.required)
      (variableField formats entity v).type := by
  obtain ⟨base, hbase, hexpr⟩ := v.type.typeExpr_follows hs
  rw [variableField, hexpr]
  cases v.required with
  | true =>
    rw [Bool.not_true, Bool.or_false]
    exact hbase.renders _
  | false =>
    rw [Bool.not_false, Bool.or_true]
    have hnull := TypeExpr.orNull_nullableIf hbase.isNullable v.type.optional
    simp only [Bool.false_eq_true, if_false, hnull]
    exact hbase.renders true

end Record

namespace Entity

lemma objects_areShapely {e : Entity} {o : BuilderOptions}
    (hs : ∀ v ∈ e.kept o, v.type.IsShapely) :
    ∀ n ∈ e.objects o, Constraint.AreShapely n.fields := by
  intro n hn
  obtain ⟨v, hv, hn⟩ := List.mem_flatMap.mp hn
  obtain ⟨m, hm, rfl⟩ := List.mem_map.mp hn
  exact v.type.objects_areShapely (hs v hv) m hm

end Entity

namespace RecordBuilder

/-- Whatever is offered, each record that is held stands for an entity or for an object within its
types, and each of its fields has the type of the variable or of the object's field, which admits no
value just where a flag or a variable that is not required says so, and never twice. -/
theorem offerAll_types_exact (o : BuilderOptions) (es : List Entity) :
    let rs := (offerAll { options := o } es).records
    let calls := batches { options := o } es
    calls.map Prod.fst = es ∧ rs = calls.flatMap Prod.snd ∧ ∀ p ∈ calls, p.2 = [] ∨
      ∃ own rest, p.2 = own :: rest ∧
        Record.RendersVariables p.1.name (p.1.kept o) own ∧
        List.Forall₂ (Record.RendersObject [p.1.name]) (p.1.objects o) rest := by
  intro rs calls
  refine ⟨map_fst_batches _ es, offerAll_records _ es, fun p hp => ?_⟩
  rcases eq_nil_or_flattening_of_mem_batches hp with hnil | ⟨hs, hflat⟩
  · exact .inl hnil
  · refine .inr ⟨_, _, hflat, ⟨rfl, ?_⟩, ?_⟩
    · rw [List.forall₂_map_right_iff, List.forall₂_same]
      exact fun v hv => ⟨rfl, Record.variableField_renders _ _ (hs v hv)⟩
    · rw [List.forall₂_map_right_iff, List.forall₂_same]
      exact fun n hn => Record.ofObject_renders _ _ (Entity.objects_areShapely hs n hn)

example :
    let text := (Constraint.scalar "string" .string).withOptional true
    let tags : Variable := ⟨"tags", "", false, (Constraint.list text).withOptional true⟩
    ((offerAll { options := {} } [⟨"m", [tags]⟩]).records.flatMap Record.fields).map
      Record.Field.type = [.nullable (.list (.nullable (.primitive .string)))] := by
  decide +kernel

end RecordBuilder

end ModuleBindings
