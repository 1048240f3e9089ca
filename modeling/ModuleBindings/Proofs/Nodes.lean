import ModuleBindings.Constraint.Basic
import Mathlib.Tactic.Lemma

/-!
# The nodes of a tree

A tree is well-formed just when each of its nodes, looked at alone, suits its kind. Without its
places it has the same nodes, and trees are compared as if they had none.
-/

namespace ModuleBindings.Constraint

/-- The node has an element exactly when it is a list or a map, and fields only when it is an
object. -/
structure SuitsKind (t : Constraint) : Prop where
  elem : t.elem.isSome = true ↔ t.kind = .list ∨ t.kind = .map
  fields : t.fields ≠ [] → t.kind = .object

lemma isShapelyNode_iff {t : Constraint} : t.isShapelyNode = true ↔ t.SuitsKind := by
  have hwraps : t.kind.wraps = true ↔ t.kind = .list ∨ t.kind = .map := by
    cases t.kind <;> simp [Kind.wraps]
  simp only [isShapelyNode, Bool.and_eq_true, beq_iff_eq, Bool.or_eq_true, decide_eq_true_eq,
    List.isEmpty_iff]
  constructor
  · rintro ⟨helem, hfields⟩
    refine ⟨by rw [helem, hwraps], ?_⟩
    intro hne
    exact hfields.resolve_right hne
  · rintro ⟨helem, hfields⟩
    refine ⟨Bool.eq_iff_iff.mpr (helem.trans hwraps.symm), ?_⟩
    by_cases h : t.fields = []
    · exact .inr h
    · exact .inl (hfields h)

instance (t : Constraint) : Decidable t.SuitsKind :=
  decidable_of_iff _ isShapelyNode_iff

mutual

/-- The nodes of a tree in pre-order. -/
def nodes : Constraint → List Constraint
  | node name kind elem optional fields location =>
    node name kind elem optional fields location :: (elemNodes elem ++ fieldNodes fields)

def elemNodes : Option Constraint → List Constraint
  | none => []
  | some t => nodes t

def fieldNodes : List (Field Constraint) → List Constraint
  | [] => []
  | ⟨_, _, t⟩ :: rest => nodes t ++ fieldNodes rest

end

lemma self_mem_nodes (t : Constraint) : t ∈ t.nodes := by
  cases t
  exact List.mem_cons_self

mutual

theorem isShapely_iff : ∀ t : Constraint, t.IsShapely ↔ ∀ u ∈ t.nodes, u.SuitsKind
  | node name kind elem optional fields location => by
    rw [IsShapely, isShapelyNode_iff, isShapelyElem_iff elem, areShapely_iff fields, nodes,
      List.forall_mem_cons, List.forall_mem_append]

theorem isShapelyElem_iff : ∀ elem : Option Constraint,
    IsShapelyElem elem ↔ ∀ u ∈ elemNodes elem, u.SuitsKind
  | none => by simp [IsShapelyElem, elemNodes]
  | some t => isShapely_iff t

theorem areShapely_iff : ∀ fields : List (Field Constraint),
    AreShapely fields ↔ ∀ u ∈ fieldNodes fields, u.SuitsKind
  | [] => by simp [AreShapely, fieldNodes]
  | ⟨_, _, t⟩ :: rest => by
    rw [AreShapely, isShapely_iff t, areShapely_iff rest, fieldNodes, List.forall_mem_append]

end

section Kinds

variable {name : String} {kind : Kind} {elem : Option Constraint} {opt : Bool}
  {fields : List (Field Constraint)} {location : Option Location}

lemma isShapelyNode_scalar (hk : kind.isScalar = true) :
    (node name kind elem opt fields location).isShapelyNode = true ↔ elem = none ∧ fields = [] := by
  cases kind <;> simp [Kind.isScalar, Kind.wraps, isShapelyNode, Constraint.elem, Constraint.kind,
    Constraint.fields] at hk ⊢

lemma isShapelyNode_wrapper (hk : kind.wraps = true) :
    (node name kind elem opt fields location).isShapelyNode = true ↔
      elem.isSome = true ∧ fields = [] := by
  cases kind <;> simp [Kind.wraps, isShapelyNode, Constraint.elem, Constraint.kind,
    Constraint.fields] at hk ⊢

lemma isShapelyNode_object :
    (node name .object elem opt fields location).isShapelyNode = true ↔ elem = none := by
  simp [isShapelyNode, Constraint.elem, Constraint.kind, Kind.wraps]

lemma isShapely_scalar (hk : kind.isScalar = true) :
    (node name kind elem opt fields location).IsShapely ↔ elem = none ∧ fields = [] := by
  rw [IsShapely, isShapelyNode_scalar hk]
  constructor
  · rintro ⟨h, -, -⟩
    exact h
  · rintro ⟨rfl, rfl⟩
    exact ⟨⟨rfl, rfl⟩, trivial, trivial⟩

lemma isShapely_wrapper (hk : kind.wraps = true) :
    (node name kind elem opt fields location).IsShapely ↔
      elem.isSome = true ∧ IsShapelyElem elem ∧ fields = [] := by
  rw [IsShapely, isShapelyNode_wrapper hk]
  constructor
  · rintro ⟨⟨hsome, hfields⟩, helem, -⟩
    exact ⟨hsome, helem, hfields⟩
  · rintro ⟨hsome, helem, rfl⟩
    exact ⟨⟨hsome, rfl⟩, helem, trivial⟩

lemma isShapely_object :
    (node name .object elem opt fields location).IsShapely ↔ elem = none ∧ AreShapely fields := by
  rw [IsShapely, isShapelyNode_object]
  constructor
  · rintro ⟨helem, -, hfields⟩
    exact ⟨helem, hfields⟩
  · rintro ⟨rfl, hfields⟩
    exact ⟨rfl, trivial, hfields⟩

end Kinds

lemma isSome_eraseElem (elem : Option Constraint) : (eraseElem elem).isSome = elem.isSome := by
  cases elem <;> rfl

lemma eraseFields_eq_nil_iff (fields : List (Field Constraint)) :
    eraseFields fields = [] ↔ fields = [] := by
  cases fields with
  | nil => simp [eraseFields]
  | cons f fields => simp [eraseFields]

lemma isShapelyNode_erase (t : Constraint) : t.erase.isShapelyNode = t.isShapelyNode := by
  obtain ⟨name, kind, elem, opt, fields, location⟩ := t
  have hfields : (eraseFields fields).isEmpty = fields.isEmpty := by
    rw [Bool.eq_iff_iff, List.isEmpty_iff, List.isEmpty_iff, eraseFields_eq_nil_iff]
  change ((eraseElem elem).isSome == kind.wraps &&
    (decide (kind = .object) || (eraseFields fields).isEmpty)) = _
  rw [isSome_eraseElem, hfields]
  rfl

lemma optional_erase (t : Constraint) : t.erase.optional = t.optional := by
  cases t
  rfl

mutual

/-- Trees are equal when nothing but places tells them apart. -/
theorem same_iff : ∀ t u : Constraint, t.same u = true ↔ t.erase = u.erase
  | node name kind elem optional fields location, u => by
    simp only [same, Bool.and_eq_true, decide_eq_true_eq, sameElem_iff elem, sameFields_iff fields]
    cases u
    simp only [Constraint.name, Constraint.kind, Constraint.elem, Constraint.optional,
      Constraint.fields, erase, node.injEq, and_true, and_assoc]

theorem sameElem_iff : ∀ elem elem' : Option Constraint,
    sameElem elem elem' = true ↔ eraseElem elem = eraseElem elem'
  | none, none => by simp [sameElem]
  | none, some u => by simp [sameElem, eraseElem]
  | some t, none => by simp [sameElem, eraseElem]
  | some t, some u => by simp [sameElem, eraseElem, same_iff t u]

theorem sameFields_iff : ∀ fs gs : List (Field Constraint),
    sameFields fs gs = true ↔ eraseFields fs = eraseFields gs
  | [], [] => by simp [sameFields]
  | [], g :: gs => by simp [sameFields, eraseFields]
  | f :: fs, [] => by simp [sameFields, eraseFields]
  | ⟨name, location, t⟩ :: fs, ⟨name', location', u⟩ :: gs => by
    simp only [sameFields, eraseFields, Bool.and_eq_true, decide_eq_true_eq, same_iff t u,
      sameFields_iff fs gs, List.cons.injEq, Field.mk.injEq, true_and]

end

end ModuleBindings.Constraint
