import ModuleBindings.Proofs.Except
import ModuleBindings.Proofs.Objects

/-!
# Flattening a type or an entity

Flattening succeeds just when the types are well-formed and no name occurs twice, and then it
answers the records of `Entity.flattening` in their order.
-/

namespace ModuleBindings

open Proofs

namespace Record

lemma reserveName_eq_ok_iff {taken : List String} {name : String} {u : Unit} :
    reserveName taken name = .ok u ↔ name ∉ taken := by
  by_cases h : name ∈ taken <;> simp [reserveName, h]

lemma addField_eq_ok_iff {record : String} {done fs : List Field} {f : Field} :
    addField record done f = .ok fs ↔ f.name ∉ done.map Field.name ∧ fs = done ++ [f] := by
  unfold addField
  by_cases hmem : f.name ∈ done.map Field.name
  · have hany : done.any (·.name = f.name) = true := by simpa using hmem
    rw [if_pos hany]
    simp [hmem]
  · have hany : ¬done.any (·.name = f.name) = true := by simpa using hmem
    rw [if_neg hany, Except.ok.injEq]
    exact ⟨fun h => ⟨hmem, h.symm⟩, fun h => h.2.symm⟩

lemma nodup_names_append_singleton_iff {done : List Field} {f : Field} :
    ((done ++ [f]).map Field.name).Nodup ↔
      (done.map Field.name).Nodup ∧ f.name ∉ done.map Field.name := by
  rw [List.map_append, List.nodup_append']
  simp

lemma name_not_mem_of_nodup {done rest : List Field} {f : Field}
    (h : ((done ++ f :: rest).map Field.name).Nodup) : f.name ∉ done.map Field.name := by
  rw [List.append_cons, List.map_append] at h
  exact (nodup_names_append_singleton_iff.mp h.of_append_left).2

/-- The records can be generated one after another when the names in `taken` are used up: no
record takes a name that is taken, and no two fields of a record share one. -/
structure Fresh (taken : List String) (rs : List Record) : Prop where
  nodup : (names rs).Nodup
  disjoint : ∀ n ∈ names rs, n ∉ taken
  fields : ∀ r ∈ rs, (r.fields.map Field.name).Nodup

lemma fresh_nil (taken : List String) : Fresh taken [] :=
  ⟨List.nodup_nil, by simp, by simp⟩

lemma fresh_append_iff {taken : List String} {rs more : List Record} :
    Fresh taken (rs ++ more) ↔ Fresh taken rs ∧ Fresh (taken ++ names rs) more := by
  constructor
  · rintro ⟨hn, hd, hf⟩
    simp only [names_append, List.nodup_append] at hn
    simp only [names_append, List.mem_append] at hd
    obtain ⟨hn₁, hn₂, hn₃⟩ := hn
    refine ⟨⟨hn₁, fun n h => hd n (.inl h), fun r h => hf r (List.mem_append_left _ h)⟩,
      ⟨hn₂, fun n h => ?_, fun r h => hf r (List.mem_append_right _ h)⟩⟩
    rw [List.mem_append, not_or]
    exact ⟨hd n (.inr h), fun hrs => hn₃ n hrs n h rfl⟩
  · rintro ⟨⟨hn₁, hd₁, hf₁⟩, ⟨hn₂, hd₂, hf₂⟩⟩
    simp only [List.mem_append, not_or] at hd₂
    refine ⟨?_, fun n h => ?_, fun r h => ?_⟩
    · rw [names_append, List.nodup_append]
      exact ⟨hn₁, hn₂, fun a ha b hb hab => (hd₂ b hb).2 (hab ▸ ha)⟩
    · rw [names_append, List.mem_append] at h
      exact h.elim (hd₁ n) fun h => (hd₂ n h).1
    · exact (List.mem_append.mp h).elim (hf₁ r) (hf₂ r)

lemma fresh_cons_iff {taken : List String} {r : Record} {rs : List Record} :
    Fresh taken (r :: rs) ↔
      r.name ∉ taken ∧ (r.fields.map Field.name).Nodup ∧ Fresh (taken ++ [r.name]) rs := by
  have hone : Fresh taken [r] ↔ r.name ∉ taken ∧ (r.fields.map Field.name).Nodup :=
    ⟨fun h => ⟨h.disjoint _ (by simp), h.fields r (by simp)⟩,
      fun ⟨hn, hf⟩ => ⟨by simp, by simpa using hn, by simpa using hf⟩⟩
  rw [← List.singleton_append, fresh_append_iff, hone, and_assoc]
  rfl

end Record

namespace Record

open Constraint (Kind elemExpr elemRecords fieldRecords IsShapelyElem AreShapely)

variable {formats taken path : List String}

/-- What flattening a node does, the checks of its kind first. -/
lemma flattenType_node_iff {name : String} {kind : Kind} {elem : Option Constraint}
    {optional : Bool} {fields : List (Constraint.Field Constraint)} {location : Option Location}
    {record : String} {te : TypeExpr} {rs : List Record} :
    flattenType formats taken record (.node name kind elem optional fields location) =
        .ok (te, rs) ↔
      (Constraint.node name kind elem optional fields location).isShapelyNode = true ∧
        ∃ base, te = (if optional then base.orNull else base) ∧
          match kind with
          | .string | .number => base = .primitive .string ∧ rs = []
          | .boolean => base = .primitive .bool ∧ rs = []
          | .null | .any => base = .primitive .any ∧ rs = []
          | .map => ∃ t, flattenElem formats taken record name location elem = .ok (t, rs) ∧
              base = .map t
          | .list => ∃ t, flattenElem formats taken record name location elem = .ok (t, rs) ∧
              base = .list t
          | .object => record ∉ taken ∧ ∃ fs more,
              flattenFields formats (taken ++ [record]) record [] fields = .ok (fs, more) ∧
              base = .record record ∧ rs = ⟨record, fs⟩ :: more := by
  by_cases hs : (Constraint.node name kind elem optional fields location).isShapelyNode = true
  · cases kind
    all_goals
      simp only [flattenType, hs, if_true, bind_eq_ok, pure_eq_ok, reserveName_eq_ok_iff, true_and,
        Prod.exists, Prod.mk.injEq, exists_const]
      constructor
    case string.mp | boolean.mp | number.mp | null.mp | any.mp =>
      rintro ⟨base, _, ⟨rfl, rfl⟩, rfl, rfl⟩
      exact ⟨_, rfl, rfl, rfl⟩
    case string.mpr | boolean.mpr | number.mpr | null.mpr | any.mpr =>
      rintro ⟨base, rfl, rfl, rfl⟩
      exact ⟨_, _, ⟨rfl, rfl⟩, rfl, rfl⟩
    case list.mp | map.mp =>
      rintro ⟨t, _, ht, base, _, ⟨rfl, rfl⟩, rfl, rfl⟩
      exact ⟨_, rfl, t, ht, rfl⟩
    case list.mpr | map.mpr =>
      rintro ⟨base, rfl, t, ht, rfl⟩
      exact ⟨t, _, ht, _, _, ⟨rfl, rfl⟩, rfl, rfl⟩
    case object.mp =>
      rintro ⟨hn, fs, more, hfs, base, _, ⟨rfl, rfl⟩, rfl, rfl⟩
      exact ⟨_, rfl, hn, fs, more, hfs, rfl, rfl⟩
    case object.mpr =>
      rintro ⟨base, rfl, hn, fs, more, hfs, rfl, rfl⟩
      exact ⟨hn, fs, more, hfs, _, _, ⟨rfl, rfl⟩, rfl, rfl⟩
  · simp [flattenType, hs]

lemma typeExpr_orNull (path : List String) (t : Constraint) :
    (if t.optional then (t.typeExpr path).orNull else t.typeExpr path) = t.typeExpr path := by
  obtain ⟨name, kind, elem, optional, fields, location⟩ := t
  cases optional with
  | false => rfl
  | true => simp [Constraint.optional, Constraint.typeExpr]

/-- Flattening `t` at `path` succeeds just when `t` is well-formed and its records are fresh. -/
def TypeYields (formats path : List String) (t : Constraint) : Prop :=
  ∀ (taken : List String) (te : TypeExpr) (rs : List Record),
    flattenType formats taken (nameAt path) t = .ok (te, rs) ↔
      t.IsShapely ∧ te = t.typeExpr path ∧ rs = t.records formats path ∧ Fresh taken rs

/-- A loop over members, begun with the names that are taken and the fields that are done,
succeeds just when the members are fine, the records are fresh and no two fields share a name. It
adds the fields and answers the records. -/
def MembersYield (loop : List String → List Field → Except BuildError (List Field × List Record))
    (fine : Prop) (added : List Field) (records : List Record) : Prop :=
  ∀ (taken : List String) (done fs : List Field) (rs : List Record),
    (done.map Field.name).Nodup →
    (loop taken done = .ok (fs, rs) ↔
      fine ∧ fs = done ++ added ∧ rs = records ∧ (fs.map Field.name).Nodup ∧ Fresh taken rs)

lemma membersYield_nil : MembersYield (fun _ done => pure (done, [])) True [] [] := by
  intro taken done fs rs hdone
  simp only [pure_eq_ok, Prod.mk.injEq, List.append_nil]
  constructor
  · rintro ⟨rfl, rfl⟩
    exact ⟨trivial, rfl, rfl, hdone, fresh_nil _⟩
  · rintro ⟨-, rfl, rfl, -, -⟩
    exact ⟨rfl, rfl⟩

/-- One round of a loop over members: the type of a member is flattened, its field is added, and
the loop goes on without the names of its records. -/
def memberRound (formats path : List String) (record : String) (t : Constraint)
    (f : TypeExpr → Field)
    (loop : List String → List Field → Except BuildError (List Field × List Record))
    (taken : List String) (done : List Field) : Except BuildError (List Field × List Record) := do
  let (te, first) ← flattenType formats taken (nameAt path) t
  let done ← addField record done (f te)
  let (fs, more) ← loop (taken ++ names first) done
  pure (fs, first ++ more)

lemma MembersYield.cons {loop : List String → List Field →
      Except BuildError (List Field × List Record)} {fine : Prop} {added : List Field}
    {records : List Record} (record : String) (t : Constraint) (f : TypeExpr → Field)
    (ht : TypeYields formats path t)
    (hloop : MembersYield loop fine added records) :
    MembersYield (memberRound formats path record t f loop) (t.IsShapely ∧ fine)
      (f (t.typeExpr path) :: added) (t.records formats path ++ records) := by
  intro taken done fs rs hdone
  simp only [memberRound, bind_eq_ok, pure_eq_ok, addField_eq_ok_iff, Prod.exists, Prod.mk.injEq]
  constructor
  · rintro ⟨te, first, hte, _, ⟨hn, rfl⟩, fs, more, hrest, rfl, rfl⟩
    obtain ⟨hs, rfl, rfl, hfresh⟩ := (ht _ _ _).mp hte
    have hdone' := nodup_names_append_singleton_iff.mpr ⟨hdone, hn⟩
    obtain ⟨hfine, rfl, rfl, hfields, hfresh'⟩ := (hloop _ _ _ _ hdone').mp hrest
    refine ⟨⟨hs, hfine⟩, List.append_assoc .., rfl, hfields, ?_⟩
    exact fresh_append_iff.mpr ⟨hfresh, hfresh'⟩
  · rintro ⟨⟨hs, hfine⟩, rfl, rfl, hfields, hfresh⟩
    obtain ⟨hfresh, hfresh'⟩ := fresh_append_iff.mp hfresh
    have hn : (f (t.typeExpr path)).name ∉ done.map Field.name := name_not_mem_of_nodup hfields
    have hdone' := nodup_names_append_singleton_iff.mpr ⟨hdone, hn⟩
    have hte := (ht _ _ _).mpr ⟨hs, rfl, rfl, hfresh⟩
    have hassoc := (List.append_assoc done [f (t.typeExpr path)] added).symm
    have hrest := (hloop _ _ _ _ hdone').mpr ⟨hfine, hassoc, rfl, hfields, hfresh'⟩
    exact ⟨_, _, hte, _, ⟨hn, rfl⟩, _, _, hrest, rfl, rfl⟩

/-- The field for a field of an object, made of what its type has become. -/
def objectFieldOf (formats : List String) (name : String) (t : Constraint) (te : TypeExpr) :
    Field :=
  ⟨Text.pascal name, "", if t.optional then te.orNull else te, Tags.ofFormats formats name⟩

lemma objectField_eq (name : String) (location : Option Location) (t : Constraint) :
    objectField formats path ⟨name, location, t⟩ =
      objectFieldOf formats name t (t.typeExpr (path ++ [name])) := by
  rw [objectFieldOf, typeExpr_orNull, Tags.ofFormats_eq_uniform]
  rfl

lemma flattenFields_cons (name : String) (location : Option Location) (t : Constraint)
    (rest : List (Constraint.Field Constraint)) :
    (fun taken done =>
        flattenFields formats taken (nameAt path) done (⟨name, location, t⟩ :: rest)) =
      memberRound formats (path ++ [name]) (nameAt path) t (objectFieldOf formats name t)
        fun taken done => flattenFields formats taken (nameAt path) done rest := by
  funext taken done
  rw [flattenFields, memberRound, nameAt_append]
  rfl

mutual

theorem flattenType_yields : ∀ (t : Constraint) (path : List String), TypeYields formats path t
  | .node name kind elem optional fields location, path => by
    intro taken te rs
    rw [flattenType_node_iff]
    cases kind
    case string | boolean | number | null | any =>
      rw [Constraint.isShapely_scalar rfl, Constraint.isShapelyNode_scalar rfl]
      constructor
      · rintro ⟨⟨rfl, rfl⟩, base, rfl, rfl, rfl⟩
        exact ⟨⟨rfl, rfl⟩, rfl, rfl, fresh_nil _⟩
      · rintro ⟨⟨rfl, rfl⟩, rfl, rfl, -⟩
        exact ⟨⟨rfl, rfl⟩, _, rfl, rfl, rfl⟩
    case list | map =>
      rw [Constraint.isShapely_wrapper rfl, Constraint.isShapelyNode_wrapper rfl]
      simp only [flattenElem_eq_ok_iff elem]
      constructor
      · rintro ⟨⟨hsome, rfl⟩, base, rfl, t, ⟨-, hs, rfl, rfl, hfresh⟩, rfl⟩
        exact ⟨⟨hsome, hs, rfl⟩, rfl, (Constraint.records_wrapper rfl).symm, hfresh⟩
      · rintro ⟨⟨hsome, hs, rfl⟩, rfl, rfl, hfresh⟩
        rw [Constraint.records_wrapper rfl] at hfresh ⊢
        exact ⟨⟨hsome, rfl⟩, _, rfl, _, ⟨hsome, hs, rfl, rfl, hfresh⟩, rfl⟩
    case object =>
      rw [Constraint.isShapely_object, Constraint.isShapelyNode_object]
      simp only [flattenFields_yields fields path _ [] _ _ List.nodup_nil, List.nil_append]
      constructor
      · rintro ⟨rfl, base, rfl, hn, fs, more, ⟨hs, rfl, rfl, hfields, hfresh⟩, rfl, rfl⟩
        rw [Constraint.records_object]
        exact ⟨⟨rfl, hs⟩, rfl, rfl, fresh_cons_iff.mpr ⟨hn, hfields, hfresh⟩⟩
      · rintro ⟨⟨rfl, hs⟩, rfl, rfl, hfresh⟩
        rw [Constraint.records_object] at hfresh ⊢
        obtain ⟨hn, hfields, hfresh⟩ := fresh_cons_iff.mp hfresh
        exact ⟨rfl, _, rfl, hn, _, _, ⟨hs, rfl, rfl, hfields, hfresh⟩, rfl, rfl⟩

theorem flattenElem_eq_ok_iff : ∀ (elem : Option Constraint) {taken path : List String}
    {name : String} {location : Option Location} {te : TypeExpr} {rs : List Record},
    flattenElem formats taken (nameAt path) name location elem = .ok (te, rs) ↔
      elem.isSome ∧ IsShapelyElem elem ∧ te = elemExpr path elem ∧
        rs = elemRecords formats path elem ∧ Fresh taken rs
  | none, taken, path, name, location, te, rs => by
    simp [flattenElem]
  | some t, taken, path, name, location, te, rs => by
    rw [flattenElem, flattenType_yields t path taken te rs]
    simp [IsShapelyElem, elemExpr]

theorem flattenFields_yields : ∀ (fields : List (Constraint.Field Constraint))
    (path : List String),
    MembersYield (fun taken done => flattenFields formats taken (nameAt path) done fields)
      (AreShapely fields) (fields.map (objectField formats path)) (fieldRecords formats path fields)
  | [], path => membersYield_nil
  | ⟨name, location, t⟩ :: rest, path => by
    rw [flattenFields_cons, List.map_cons, objectField_eq, Constraint.fieldRecords_cons]
    exact (flattenFields_yields rest path).cons _ t _ (flattenType_yields t (path ++ [name]))

end

variable {o : BuilderOptions}

/-- The field for a variable, made of what its type has become. -/
def variableFieldOf (formats : List String) (v : Variable) (te : TypeExpr) : Field :=
  ⟨Text.pascal v.name, v.description, if v.required && !v.type.optional then te else te.orNull,
    Tags.ofFormats formats v.name⟩

/-- An optional type admits no value already, whether the variable is required or not. -/
lemma variableField_eq (entity : String) (v : Variable) :
    variableField formats entity v =
      variableFieldOf formats v (v.type.typeExpr [entity, v.name]) := by
  have horNull := typeExpr_orNull [entity, v.name] v.type
  rw [variableField, variableFieldOf, Tags.ofFormats_eq_uniform]
  by_cases hopt : v.type.optional = true
  · rw [if_pos hopt] at horNull
    simp [hopt, horNull]
  · simp [hopt]

lemma flattenVariables_cons_ignored {entity : String} {v : Variable} (rest : List Variable)
    (hv : o.ignores v.name = true) :
    (fun taken done => flattenVariables o taken (nameAt [entity]) done (v :: rest)) =
      fun taken done => flattenVariables o taken (nameAt [entity]) done rest := by
  funext taken done
  rw [flattenVariables, if_pos hv]

lemma flattenVariables_cons_kept {entity : String} {v : Variable} (rest : List Variable)
    (hv : ¬o.ignores v.name = true) :
    (fun taken done => flattenVariables o taken (nameAt [entity]) done (v :: rest)) =
      memberRound o.nestedFormats [entity, v.name] (nameAt [entity]) v.type
        (variableFieldOf o.topLevelFormats v)
        fun taken done => flattenVariables o taken (nameAt [entity]) done rest := by
  funext taken done
  rw [flattenVariables, if_neg hv, ← nameAt_append]
  rfl

theorem flattenVariables_yields (entity : String) (vars : List Variable) :
    MembersYield (fun taken done => flattenVariables o taken (nameAt [entity]) done vars)
      (∀ v ∈ vars.filter fun v => !o.ignores v.name, v.type.IsShapely)
      ((vars.filter fun v => !o.ignores v.name).map (variableField o.topLevelFormats entity))
      (variableRecords o.nestedFormats entity (vars.filter fun v => !o.ignores v.name)) := by
  induction vars with
  | nil => simpa [flattenVariables, variableRecords] using membersYield_nil
  | cons v rest ih =>
    by_cases hv : o.ignores v.name = true
    · rw [flattenVariables_cons_ignored rest hv, List.filter_cons_of_neg (by simp [hv])]
      exact ih
    · rw [flattenVariables_cons_kept rest hv, List.filter_cons_of_pos (by simp [hv]),
        List.forall_mem_cons, List.map_cons, variableField_eq, variableRecords_cons]
      exact ih.cons _ v.type _ (flattenType_yields _ _)

/-- An entity can be flattened just when the types of its kept variables are well-formed and its
records are fresh. -/
theorem flattenEntity_eq_ok_iff {e : Entity} {rs : List Record} :
    flattenEntity o taken e = .ok rs ↔
      (∀ v ∈ e.kept o, v.type.IsShapely) ∧ rs = e.flattening o ∧ Fresh taken rs := by
  rw [flattenEntity, ← nameAt_singleton]
  simp only [bind_eq_ok, pure_eq_ok, reserveName_eq_ok_iff, Prod.exists, exists_const,
    flattenVariables_yields e.name e.vars _ [] _ _ List.nodup_nil, List.nil_append]
  constructor
  · rintro ⟨hn, fs, more, ⟨hs, rfl, rfl, hfields, hfresh⟩, rfl⟩
    exact ⟨hs, e.flattening_eq.symm, fresh_cons_iff.mpr ⟨hn, hfields, hfresh⟩⟩
  · rintro ⟨hs, rfl, hfresh⟩
    rw [e.flattening_eq] at hfresh ⊢
    obtain ⟨hn, hfields, hfresh⟩ := fresh_cons_iff.mp hfresh
    exact ⟨hn, _, _, ⟨hs, rfl, rfl, hfields, hfresh⟩, rfl⟩

end Record

namespace RecordBuilder

variable {b b' : RecordBuilder} {e : Entity}

/-- An entity is taken just when its records are fresh; they are then held behind the others. -/
theorem addEntity_eq_ok_iff :
    b.addEntity e = .ok b' ↔
      (∀ v ∈ e.kept b.options, v.type.IsShapely) ∧
        Record.Fresh b.taken (e.flattening b.options) ∧
        b' = { b with
          records := b.records ++ e.flattening b.options
          taken := b.taken ++ Record.names (e.flattening b.options) } := by
  simp only [addEntity, bind_eq_ok, pure_eq_ok, Record.flattenEntity_eq_ok_iff]
  constructor
  · rintro ⟨rs, ⟨hs, rfl, hfresh⟩, rfl⟩
    exact ⟨hs, hfresh, rfl⟩
  · rintro ⟨hs, hfresh, rfl⟩
    exact ⟨_, ⟨hs, rfl, hfresh⟩, rfl⟩

end RecordBuilder

end ModuleBindings
