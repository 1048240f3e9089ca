import ModuleBindings.Proofs.Failures
import ModuleBindings.Proofs.Refusals

/-!
# Places make no difference

Flattening an entity never looks at the places that its types were read from. Without them it ends
in the same way, but for the place in an error.
-/

namespace ModuleBindings

open Proofs

/-- The error without the place of the node that it is about. -/
def BuildError.unplaced : BuildError → BuildError
  | unsupportedType name _ => unsupportedType name none
  | duplicateRecord name => duplicateRecord name
  | duplicateField record field => duplicateField record field

def Variable.erase (v : Variable) : Variable :=
  { v with type := v.type.erase }

/-- The entity without the places that its types were read from. -/
def Entity.erase (e : Entity) : Entity :=
  { e with vars := e.vars.map Variable.erase }

namespace Record

open BuildError (unplaced)

variable {formats path : List String}

lemma reserveName_eq_mapError (taken : List String) (name : String) :
    reserveName taken name = (reserveName taken name).mapError unplaced := by
  cases h : reserveName taken name with
  | error err =>
    obtain ⟨-, rfl⟩ := reserveName_eq_error h
    rfl
  | ok u => rfl

lemma addField_eq_mapError (record : String) (done : List Field) (f : Field) :
    addField record done f = (addField record done f).mapError unplaced := by
  cases h : addField record done f with
  | error err =>
    obtain ⟨-, rfl⟩ := addField_eq_error h
    rfl
  | ok fs => rfl

/-- Without its places a type is flattened alike. -/
def TypeErases (path : List String) (t : Constraint) : Prop :=
  ∀ formats taken, flattenType formats taken (nameAt path) t.erase =
    (flattenType formats taken (nameAt path) t).mapError unplaced

/-- Two loops over members end alike, but for places in errors. -/
def LoopErases (loop loop' : List String → List Field →
    Except BuildError (List Field × List Record)) : Prop :=
  ∀ taken done, loop' taken done = (loop taken done).mapError unplaced

lemma LoopErases.cons {loop loop' : List String → List Field →
      Except BuildError (List Field × List Record)} {t : Constraint} (record : String)
    (f : TypeExpr → Field) (ht : TypeErases path t) (hloop : LoopErases loop loop') :
    LoopErases (memberRound formats path record t f loop)
      (memberRound formats path record t.erase f loop') := by
  intro taken done
  refine bind_eq_mapError (ht formats taken) fun ⟨te, first⟩ => ?_
  refine bind_eq_mapError (addField_eq_mapError record done (f te)) fun done => ?_
  exact bind_eq_mapError (hloop _ done) fun ⟨fs, more⟩ => rfl

lemma objectFieldOf_erase (formats : List String) (name : String) (t : Constraint) :
    objectFieldOf formats name t.erase = objectFieldOf formats name t := by
  funext te
  rw [objectFieldOf, t.optional_erase, objectFieldOf]

mutual

theorem flattenType_erase : ∀ (t : Constraint) (path : List String), TypeErases path t
  | .node name kind elem optional fields location, path => by
    intro formats taken
    have hshape := Constraint.isShapelyNode_erase (.node name kind elem optional fields location)
    rw [Constraint.erase] at hshape ⊢
    rw [flattenType, flattenType, hshape]
    by_cases hs : (Constraint.node name kind elem optional fields location).isShapelyNode = true
    · rw [if_pos hs, if_pos hs]
      cases kind
      case string | boolean | number | null | any => rfl
      case list | map =>
        exact bind_eq_mapError (flattenElem_erase elem path formats taken name location)
          fun ⟨te, rs⟩ => rfl
      case object =>
        refine bind_eq_mapError (reserveName_eq_mapError taken _) fun _ => ?_
        exact bind_eq_mapError (flattenFields_erase fields path formats _ []) fun ⟨fs, rs⟩ => rfl
    · rw [if_neg hs, if_neg hs]
      rfl

theorem flattenElem_erase : ∀ (elem : Option Constraint) (path formats taken : List String)
    (name : String) (location : Option Location),
    flattenElem formats taken (nameAt path) name none (Constraint.eraseElem elem) =
      (flattenElem formats taken (nameAt path) name location elem).mapError unplaced
  | none, _, _, _, _, _ => rfl
  | some t, path, formats, taken, _, _ => flattenType_erase t path formats taken

theorem flattenFields_erase : ∀ (fields : List (Constraint.Field Constraint))
    (path formats : List String),
    LoopErases (fun taken done => flattenFields formats taken (nameAt path) done fields)
      (fun taken done =>
        flattenFields formats taken (nameAt path) done (Constraint.eraseFields fields))
  | [], _, _ => fun _ _ => rfl
  | ⟨name, location, t⟩ :: rest, path, formats => by
    rw [Constraint.eraseFields, flattenFields_cons, flattenFields_cons, objectFieldOf_erase]
    exact (flattenFields_erase rest path formats).cons _ _ (flattenType_erase t (path ++ [name]))

end

variable {o : BuilderOptions}

lemma variableFieldOf_erase (formats : List String) (v : Variable) :
    variableFieldOf formats v.erase = variableFieldOf formats v := by
  funext te
  rw [variableFieldOf, variableFieldOf, Variable.erase, v.type.optional_erase]

theorem flattenVariables_erase (entity : String) (vars : List Variable) :
    LoopErases (fun taken done => flattenVariables o taken (nameAt [entity]) done vars)
      (fun taken done =>
        flattenVariables o taken (nameAt [entity]) done (vars.map Variable.erase)) := by
  induction vars with
  | nil => exact fun _ _ => rfl
  | cons v rest ih =>
    rw [List.map_cons]
    by_cases hv : o.ignores v.name = true
    · rw [flattenVariables_cons_ignored rest hv, flattenVariables_cons_ignored (v := v.erase) _ hv]
      exact ih
    · rw [flattenVariables_cons_kept rest hv, flattenVariables_cons_kept (v := v.erase) _ hv,
        variableFieldOf_erase]
      exact ih.cons _ _ (flattenType_erase v.type [entity, v.name])

theorem flattenEntity_erase (taken : List String) (e : Entity) :
    flattenEntity o taken e.erase = (flattenEntity o taken e).mapError unplaced := by
  rw [flattenEntity, flattenEntity, ← nameAt_singleton]
  refine bind_eq_mapError (reserveName_eq_mapError taken _) fun _ => ?_
  exact bind_eq_mapError (flattenVariables_erase e.name e.vars _ []) fun ⟨fs, rs⟩ => rfl

end Record

namespace RecordBuilder

variable {b : RecordBuilder} {e e' : Entity}

lemma addEntity_erase (b : RecordBuilder) (e : Entity) :
    b.addEntity e.erase = (b.addEntity e).mapError BuildError.unplaced :=
  bind_eq_mapError (Record.flattenEntity_erase b.taken e) fun _ => rfl

lemma addEntity_eq_of_erase_eq (h : e.erase = e'.erase) :
    (∃ b', b.addEntity e = .ok b' ∧ b.addEntity e' = .ok b') ∨
      ∃ err err', b.addEntity e = .error err ∧ b.addEntity e' = .error err' ∧
        err.unplaced = err'.unplaced := by
  have hsame : (b.addEntity e).mapError BuildError.unplaced =
      (b.addEntity e').mapError BuildError.unplaced := by
    rw [← addEntity_erase, h, addEntity_erase]
  cases he : b.addEntity e with
  | ok b' =>
    rw [he] at hsame
    exact .inl ⟨b', rfl, mapError_eq_ok.mp hsame.symm⟩
  | error err =>
    cases he' : b.addEntity e' with
    | ok b' =>
      rw [he, he'] at hsame
      cases hsame
    | error err' =>
      rw [he, he'] at hsame
      exact .inr ⟨err, err', rfl, rfl, Except.error.inj hsame⟩

/-- Entities that are equal but for places are both taken and leave the same builder, or both
refused for the same reason, the place in it aside. Types are compared by what is left of them
without their places, so their comparison is an equivalence. -/
theorem call_places_immaterial :
    (∀ (b : RecordBuilder) (e e' : Entity), e.erase = e'.erase →
      (b.call e).2 = (b.call e').2 ∧
      ((b.call e).1 = .ok () ∧ (b.call e').1 = .ok () ∨
        ∃ err err', (b.call e).1 = .error err ∧ (b.call e').1 = .error err' ∧
          err.unplaced = err'.unplaced)) ∧
    (∀ t u : Constraint, t.same u = true ↔ t.erase = u.erase) ∧
    Equivalence fun t u : Constraint => t.same u = true := by
  refine ⟨?_, Constraint.same_iff, ?_⟩
  · intro b e e' h
    rcases addEntity_eq_of_erase_eq h with ⟨b', he, he'⟩ | ⟨err, err', he, he', hsame⟩
    · rw [call_of_ok he, call_of_ok he']
      exact ⟨rfl, .inl ⟨rfl, rfl⟩⟩
    · rw [call_of_error he, call_of_error he']
      exact ⟨rfl, .inr ⟨err, err', rfl, rfl, hsame⟩⟩
  · simp only [Constraint.same_iff]
    exact ⟨fun t => rfl, fun h => h.symm, fun h h' => h.trans h'⟩

/-- A list without an element, read from a text and made by hand. -/
theorem call_places_immaterial_list :
    let place : Location := ⟨"m.items", 0, 4, 1, 1⟩
    let read : Entity := ⟨"m", [⟨"items", "", true, .node "list" .list none false [] (some place)⟩]⟩
    let made : Entity := ⟨"m", [⟨"items", "", true, .scalar "list" .list⟩]⟩
    let b : RecordBuilder := { options := {} }
    read.erase = made.erase ∧
      (b.call read).1 = .error (.unsupportedType "list" (some place)) ∧
      (b.call made).1 = .error (.unsupportedType "list" none) ∧
      (b.call read).2 = (b.call made).2 := by
  intro place read made b
  have h : read.erase = made.erase := rfl
  exact ⟨h, rfl, rfl, (call_places_immaterial.1 b read made h).1⟩

end RecordBuilder

end ModuleBindings
