import ModuleBindings.Proofs.Failures
import ModuleBindings.Proofs.Parsing
import ModuleBindings.Proofs.Refusals
import Mathlib

/-!
# Types that come from a text

A derivation writes a tree in which every node is spelled out: it has just what its kind calls for.
Parsing gives back such trees only, so flattening finds no node to refuse in a type that was parsed.
-/

namespace ModuleBindings

namespace Constraint

/-- The node has just what its kind calls for, and is named by the keyword of its kind. -/
structure IsSpelledOut (t : Constraint) : Prop where
  suits : t.SuitsKind
  name : t.name = t.kind.keyword

lemma IsSpelledOut.congr {t u : Constraint} (h : t.IsSpelledOut) (hname : t.name = u.name)
    (hkind : t.kind = u.kind) (helem : t.elem.isSome = u.elem.isSome)
    (hfields : t.fields = [] ↔ u.fields = []) : u.IsSpelledOut := by
  obtain ⟨⟨he, hf⟩, hn⟩ := h
  rw [helem, hkind] at he
  rw [ne_eq, hfields, hkind] at hf
  rw [hname, hkind] at hn
  exact ⟨⟨he, hf⟩, hn⟩

lemma isSpelledOut_withOptional {t : Constraint} {flag : Bool} :
    (t.withOptional flag).IsSpelledOut ↔ t.IsSpelledOut := by
  cases t
  exact ⟨fun h => h.congr rfl rfl rfl Iff.rfl, fun h => h.congr rfl rfl rfl Iff.rfl⟩

/-- A flag changes the topmost node only, and there nothing that counts. -/
lemma forall_nodes_withOptional {t : Constraint} {flag : Bool} :
    (∀ u ∈ (t.withOptional flag).nodes, u.IsSpelledOut) ↔ ∀ u ∈ t.nodes, u.IsSpelledOut := by
  have hself : (t.withOptional flag).IsSpelledOut ↔ t.IsSpelledOut := isSpelledOut_withOptional
  cases t
  rw [withOptional, nodes, nodes, List.forall_mem_cons, List.forall_mem_cons]
  exact and_congr_left fun _ => hself

lemma isSpelledOut_erase {t : Constraint} : t.erase.IsSpelledOut ↔ t.IsSpelledOut := by
  obtain ⟨name, kind, elem, opt, fields, location⟩ := t
  have helem := isSome_eraseElem elem
  have hfields := eraseFields_eq_nil_iff fields
  exact ⟨fun h => h.congr rfl rfl helem hfields,
    fun h => h.congr rfl rfl helem.symm hfields.symm⟩

mutual

lemma nodes_erase : ∀ t : Constraint, t.erase.nodes = t.nodes.map erase
  | node name kind elem opt fields location => by
    rw [nodes, List.map_cons, List.map_append, ← elemNodes_eraseElem elem,
      ← fieldNodes_eraseFields fields, erase, nodes]

lemma elemNodes_eraseElem : ∀ elem : Option Constraint,
    elemNodes (eraseElem elem) = (elemNodes elem).map erase
  | none => rfl
  | some t => nodes_erase t

lemma fieldNodes_eraseFields : ∀ fields : List (Field Constraint),
    fieldNodes (eraseFields fields) = (fieldNodes fields).map erase
  | [] => rfl
  | ⟨_, _, t⟩ :: rest => by
    rw [eraseFields, fieldNodes, fieldNodes, List.map_append, nodes_erase t,
      fieldNodes_eraseFields rest]

end

lemma forall_nodes_erase {t : Constraint} :
    (∀ u ∈ t.erase.nodes, u.IsSpelledOut) ↔ ∀ u ∈ t.nodes, u.IsSpelledOut := by
  rw [nodes_erase, List.forall_mem_map]
  simp only [isSpelledOut_erase]

namespace Derivation

mutual

lemma nodes_tree_isSpelledOut : ∀ (d : Derivation), ∀ u ∈ d.tree.nodes, u.IsSpelledOut
  | optional d => by
    rw [tree, forall_nodes_withOptional]
    exact nodes_tree_isSpelledOut d
  | scalar kind hk => by
    rw [tree, nodes, List.forall_mem_cons]
    refine ⟨⟨isShapelyNode_iff.mp ?_, rfl⟩, by simp [elemNodes, fieldNodes]⟩
    exact (isShapelyNode_scalar hk).mpr ⟨rfl, rfl⟩
  | wrapper kind hk d => by
    rw [tree, nodes, List.forall_mem_cons, elemNodes, fieldNodes, List.append_nil]
    refine ⟨⟨isShapelyNode_iff.mp ?_, rfl⟩, nodes_tree_isSpelledOut d⟩
    exact (isShapelyNode_wrapper hk).mpr ⟨rfl, rfl⟩
  | object ds => by
    rw [tree, nodes, List.forall_mem_cons, elemNodes, List.nil_append]
    refine ⟨⟨isShapelyNode_iff.mp ?_, rfl⟩, fieldNodes_fieldTrees_isSpelledOut ds⟩
    exact isShapelyNode_object.mpr rfl

lemma fieldNodes_fieldTrees_isSpelledOut : ∀ (ds : List (String × Derivation)),
    ∀ u ∈ fieldNodes (fieldTrees ds), u.IsSpelledOut
  | [] => by simp [fieldTrees, fieldNodes]
  | (_, d) :: ds => by
    rw [fieldTrees, fieldNodes, List.forall_mem_append]
    exact ⟨nodes_tree_isSpelledOut d, fieldNodes_fieldTrees_isSpelledOut ds⟩

end

end Derivation

/-- What is parsed is what a derivation writes. -/
lemma nodes_isSpelledOut_of_parse {src : Source} {t : Constraint} (h : parse src = .ok t) :
    ∀ u ∈ t.nodes, u.IsSpelledOut := by
  obtain ⟨-, d, -, -, hd⟩ := Parser.parseStream_iff_derivation.mp ⟨t, h, rfl⟩
  rw [← forall_nodes_erase, ← hd]
  exact d.nodes_tree_isSpelledOut

end Constraint

namespace Entity

/-- Every type of the entity was read from a text. -/
def IsParsed (e : Entity) : Prop :=
  ∀ v ∈ e.vars, ∃ src, Constraint.parse src = .ok v.type

lemma IsParsed.suitsKind {e : Entity} (h : e.IsParsed) (o : BuilderOptions) :
    ∀ t ∈ e.nodes o, t.SuitsKind := by
  intro t ht
  obtain ⟨v, hv, ht⟩ := List.mem_flatMap.mp ht
  obtain ⟨src, hsrc⟩ := h v (List.mem_of_mem_filter hv)
  exact (Constraint.nodes_isSpelledOut_of_parse hsrc t ht).suits

end Entity

namespace RecordBuilder

variable {b : RecordBuilder} {e : Entity} {es : List Entity} {name : String}
  {location : Option Location}

/-- A builder that holds whatever it may refuses no node of an entity that was parsed. -/
lemma call_ne_unsupportedType (h : e.IsParsed) :
    (b.call e).1 ≠ .error (.unsupportedType name location) := by
  rw [Ne, call_fst_eq_error_iff, addEntity_eq_error_iff]
  intro herror
  obtain ⟨t, ht, hrefused, -⟩ := Record.flattenEntity_error_isTrueOf herror
  exact hrefused (h.suitsKind b.options t ht)

lemma unsupportedType_not_mem_outcomes (h : ∀ e ∈ es, e.IsParsed) :
    .error (.unsupportedType name location) ∉ b.outcomes es := by
  induction es generalizing b with
  | nil => exact List.not_mem_nil
  | cons e es ih =>
    rw [List.forall_mem_cons] at h
    rw [outcomes, List.mem_cons, not_or]
    exact ⟨(call_ne_unsupportedType h.1).symm, ih h.2⟩

end RecordBuilder

/-- Every node of a type that was parsed is made as its kind asks, so no entity with such types
only is ever refused for one of its nodes: not when all must succeed, nor by any call of a run in
which some may fail. -/
theorem parsed_types_supported :
    (∀ src t, Constraint.parse src = .ok t → ∀ u ∈ t.nodes,
      u.SuitsKind ∧ u.name = u.kind.keyword) ∧
    ∀ es : List Entity, (∀ e ∈ es, ∀ v ∈ e.vars, ∃ src, Constraint.parse src = .ok v.type) →
      ∀ name location,
        (∀ ignore, buildRecords es ignore ≠ .error (.unsupportedType name location)) ∧
        ∀ o : BuilderOptions, .error (.unsupportedType name location) ∉
          RecordBuilder.outcomes { options := o } es := by
  constructor
  · intro src t h u hu
    have hspelled := Constraint.nodes_isSpelledOut_of_parse h u hu
    exact ⟨hspelled.suits, hspelled.name⟩
  · intro es hparsed name location
    refine ⟨fun ignore h => ?_, fun o => RecordBuilder.unsupportedType_not_mem_outcomes hparsed⟩
    rw [buildRecords_eq_error, RecordBuilder.foldlM_addEntity_eq_error_iff] at h
    have hmem := List.mem_of_find?_eq_some h
    exact RecordBuilder.unsupportedType_not_mem_outcomes hparsed hmem

/-- An object in a list, with a map behind an `optional` in it. -/
theorem parsed_types_supported_rules :
    ∃ t, Constraint.parse ⟨"m.rules", "list(object(\x7b a = optional(map(any)) \x7d))"⟩ = .ok t ∧
      (∀ u ∈ t.nodes, u.SuitsKind ∧ u.name = u.kind.keyword) ∧
      ∀ name location, buildRecords [⟨"m", [⟨"rules", "", true, t⟩]⟩] [] ≠
        .error (.unsupportedType name location) := by
  have hparse : ∃ t, Constraint.parse
      ⟨"m.rules", "list(object(\x7b a = optional(map(any)) \x7d))"⟩ = .ok t := ⟨_, by cbv⟩
  obtain ⟨t, ht⟩ := hparse
  refine ⟨t, ht, parsed_types_supported.1 _ t ht, fun name location => ?_⟩
  have hparsed : ∀ e ∈ [(⟨"m", [⟨"rules", "", true, t⟩]⟩ : Entity)], ∀ v ∈ e.vars,
      ∃ src, Constraint.parse src = .ok v.type := by
    simp only [List.mem_singleton, forall_eq]
    exact ⟨_, ht⟩
  exact (parsed_types_supported.2 _ hparsed name location).1 []

end ModuleBindings
