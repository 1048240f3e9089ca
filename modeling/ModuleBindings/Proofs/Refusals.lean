import ModuleBindings.Proofs.BuilderRuns

/-!
# Entities that are refused

Flattening stops at the first fault that it meets. Whatever it meets first is a fault of the entity
as a whole: of one of its nodes, or of the records that it would become.
-/

namespace ModuleBindings

open Proofs

/-- What an error says is so of some nodes, which would become the records `rs` when the names in
`taken` are used up. -/
def BuildError.IsTrueOf (taken : List String) (ns : List Constraint) (rs : List Record) :
    BuildError → Prop
  | unsupportedType name location =>
    ∃ t ∈ ns, ¬t.SuitsKind ∧ t.name = name ∧ t.location = location
  | duplicateRecord name =>
    name ∈ Record.names rs ∧ (name ∈ taken ∨ 2 ≤ (Record.names rs).count name)
  | duplicateField record field =>
    ∃ r ∈ rs, r.name = record ∧ 2 ≤ (r.fields.map Record.Field.name).count field

namespace BuildError

variable {taken : List String} {ns ms : List Constraint} {rs ss : List Record} {err : BuildError}

lemma IsTrueOf.mono (h : err.IsTrueOf taken ns rs) (hn : ns ⊆ ms) (hr : rs.Sublist ss) :
    err.IsTrueOf taken ms ss := by
  have hnames : (Record.names rs).Sublist (Record.names ss) := hr.map Record.name
  cases err with
  | unsupportedType name location =>
    obtain ⟨t, ht, hcause⟩ := h
    exact ⟨t, hn ht, hcause⟩
  | duplicateRecord name =>
    obtain ⟨hmem, htaken | hcount⟩ := h
    · exact ⟨hnames.subset hmem, .inl htaken⟩
    · exact ⟨hnames.subset hmem, .inr (Nat.le_trans hcount (hnames.count_le name))⟩
  | duplicateField record field =>
    obtain ⟨r, hrs, hcause⟩ := h
    exact ⟨r, hr.subset hrs, hcause⟩

lemma IsTrueOf.of_subset {more : List String} (h : err.IsTrueOf taken ns rs)
    (htaken : taken ⊆ more) : err.IsTrueOf more ns rs := by
  cases err with
  | duplicateRecord name => exact ⟨h.1, h.2.imp_left fun hmem => htaken hmem⟩
  | unsupportedType | duplicateField => exact h

/-- The records generated before are part of the same whole, so a name of theirs that occurs again
is generated twice. -/
lemma IsTrueOf.append_left (h : err.IsTrueOf (taken ++ Record.names rs) ns ss) :
    err.IsTrueOf taken ns (rs ++ ss) := by
  cases err with
  | unsupportedType name location => exact h
  | duplicateRecord name =>
    obtain ⟨hmem, hcause⟩ := h
    have hpos : 0 < (Record.names ss).count name := List.count_pos_iff.mpr hmem
    rw [IsTrueOf, Record.names_append, List.mem_append, List.count_append]
    refine ⟨.inr hmem, ?_⟩
    rcases hcause with htaken | hcount
    · rcases List.mem_append.mp htaken with htaken | hrs
      · exact .inl htaken
      · have hpos' : 0 < (Record.names rs).count name := List.count_pos_iff.mpr hrs
        exact .inr (by omega)
    · exact .inr (by omega)
  | duplicateField record field =>
    obtain ⟨r, hrs, hcause⟩ := h
    exact ⟨r, List.mem_append_right _ hrs, hcause⟩

end BuildError

namespace Record

open Constraint (Kind elemNodes fieldNodes elemRecords fieldRecords)

variable {formats taken path : List String} {err : BuildError}

lemma reserveName_eq_error {name : String} (h : reserveName taken name = .error err) :
    name ∈ taken ∧ err = .duplicateRecord name := by
  by_cases hmem : name ∈ taken
  · simp only [reserveName, List.contains_eq_mem, hmem, decide_true, if_true] at h
    cases h
    exact ⟨hmem, rfl⟩
  · simp [reserveName, hmem] at h

lemma addField_eq_error {record : String} {done : List Field} {f : Field}
    (h : addField record done f = .error err) :
    f.name ∈ done.map Field.name ∧ err = .duplicateField record f.name := by
  unfold addField at h
  by_cases hany : done.any (·.name = f.name) = true
  · rw [if_pos hany] at h
    cases h
    exact ⟨by simpa using hany, rfl⟩
  · simp [hany] at h

/-- Where a node fails: at itself, at the name of its record, or further in. -/
lemma flattenType_node_eq_error {name : String} {kind : Kind} {elem : Option Constraint}
    {optional : Bool} {fields : List (Constraint.Field Constraint)} {location : Option Location}
    {record : String}
    (h : flattenType formats taken record (.node name kind elem optional fields location) =
      .error err) :
    (¬(Constraint.node name kind elem optional fields location).SuitsKind ∧
        err = .unsupportedType name location) ∨
      (elem.isSome = true ∧ flattenElem formats taken record name location elem = .error err) ∨
      (kind = .object ∧ record ∈ taken ∧ err = .duplicateRecord record) ∨
      (kind = .object ∧
        flattenFields formats (taken ++ [record]) record [] fields = .error err) := by
  by_cases hs : (Constraint.node name kind elem optional fields location).isShapelyNode = true
  · cases kind
    all_goals
      simp only [flattenType, hs, if_true, bind_eq_error, pure_ne_error, or_false, and_false,
        exists_false] at h
    case list | map => exact .inr (.inl ⟨((Constraint.isShapelyNode_wrapper rfl).mp hs).1, h⟩)
    case object =>
      rcases h with h | ⟨-, -, h⟩
      · exact .inr (.inr (.inl ⟨rfl, reserveName_eq_error h⟩))
      · exact .inr (.inr (.inr ⟨rfl, h⟩))
  · rw [flattenType, if_neg hs, Except.error.injEq] at h
    rw [Constraint.isShapelyNode_iff] at hs
    exact .inl ⟨hs, h.symm⟩

/-- An error of a loop over the members of `record` is true of their nodes and records, or two
fields of `record` itself share a name. -/
def MembersBlame (loop : List String → List Field → Except BuildError (List Field × List Record))
    (record : String) (added : List Field) (ns : List Constraint) (rs : List Record) : Prop :=
  ∀ (taken : List String) (done : List Field) (err : BuildError), loop taken done = .error err →
    err.IsTrueOf taken ns rs ∨
      ∃ field, err = .duplicateField record field ∧
        2 ≤ ((done ++ added).map Field.name).count field

lemma membersBlame_nil {record : String} :
    MembersBlame (fun _ done => pure (done, [])) record [] [] [] := by
  intro taken done err h
  exact absurd h pure_ne_error

lemma MembersBlame.cons {loop : List String → List Field →
      Except BuildError (List Field × List Record)} {added : List Field} {ns : List Constraint}
    {rs : List Record} {record : String} {t : Constraint} {f : TypeExpr → Field}
    (ht : ∀ taken err, flattenType formats taken (nameAt path) t = .error err →
      err.IsTrueOf taken t.nodes (t.records formats path))
    (hloop : MembersBlame loop record added ns rs) :
    MembersBlame (memberRound formats path record t f loop) record
      (f (t.typeExpr path) :: added) (t.nodes ++ ns) (t.records formats path ++ rs) := by
  intro taken done err h
  simp only [memberRound, bind_eq_error, pure_ne_error, and_false, exists_false, or_false,
    Prod.exists] at h
  rcases h with h | ⟨te, first, hte, h | ⟨_, hdone, h⟩⟩
  · refine .inl ((ht taken err h).mono ?_ ?_)
    · exact List.subset_append_left _ _
    · exact List.sublist_append_left _ _
  · obtain ⟨-, rfl, -⟩ := (flattenType_yields t path taken te first).mp hte
    obtain ⟨hmem, rfl⟩ := addField_eq_error h
    refine .inr ⟨_, rfl, ?_⟩
    have hpos := List.count_pos_iff.mpr hmem
    rw [List.map_append, List.map_cons, List.count_append, List.count_cons_self]
    omega
  · obtain ⟨-, rfl, rfl, -⟩ := (flattenType_yields t path taken te first).mp hte
    obtain ⟨-, rfl⟩ := addField_eq_ok_iff.mp hdone
    rcases hloop _ _ err h with htrue | ⟨field, rfl, hcount⟩
    · exact .inl (htrue.append_left.mono (List.subset_append_right _ _) (List.Sublist.refl _))
    · rw [List.append_assoc, List.singleton_append] at hcount
      exact .inr ⟨field, rfl, hcount⟩

/-- The fields of a record and what is behind it, put together with the record in front. -/
lemma MembersBlame.isTrueOf {loop : List String → List Field →
      Except BuildError (List Field × List Record)} {record : String} {added : List Field}
    {ns : List Constraint} {rs : List Record} (hloop : MembersBlame loop record added ns rs)
    (h : loop (taken ++ [record]) [] = .error err) :
    err.IsTrueOf taken ns (⟨record, added⟩ :: rs) := by
  rcases hloop _ _ err h with htrue | ⟨field, rfl, hcount⟩
  · have hown : err.IsTrueOf (taken ++ names [⟨record, added⟩]) ns rs := htrue
    exact hown.append_left
  · exact ⟨⟨record, added⟩, List.mem_cons_self, rfl, hcount⟩

mutual

theorem flattenType_error_isTrueOf : ∀ (t : Constraint) (path taken : List String)
    (err : BuildError), flattenType formats taken (nameAt path) t = .error err →
      err.IsTrueOf taken t.nodes (t.records formats path)
  | .node name kind elem optional fields location, path, taken, err, h => by
    have hself := Constraint.self_mem_nodes (.node name kind elem optional fields location)
    have helem : elemNodes elem ⊆ elemNodes elem ++ fieldNodes fields :=
      List.subset_append_left _ _
    have hfields : fieldNodes fields ⊆ elemNodes elem ++ fieldNodes fields :=
      List.subset_append_right _ _
    rw [Constraint.records_node]
    rcases flattenType_node_eq_error h with ⟨hs, rfl⟩ | ⟨hsome, he⟩ | ⟨rfl, hmem, rfl⟩ | ⟨rfl, hf⟩
    · exact ⟨_, hself, hs, rfl, rfl⟩
    · refine (flattenElem_error_isTrueOf elem path taken name location err he hsome).mono ?_ ?_
      · exact List.Subset.trans helem (List.subset_cons_self _ _)
      · exact (List.sublist_append_right _ _).trans (List.sublist_append_left _ _)
    · refine ⟨?_, .inl hmem⟩
      simp
    · refine ((flattenFields_blame fields path).isTrueOf hf).mono ?_ ?_
      · exact List.Subset.trans hfields (List.subset_cons_self _ _)
      · rw [if_pos rfl, List.append_assoc]
        exact (List.sublist_append_right _ _).cons_cons _

theorem flattenElem_error_isTrueOf : ∀ (elem : Option Constraint) (path taken : List String)
    (name : String) (location : Option Location) (err : BuildError),
    flattenElem formats taken (nameAt path) name location elem = .error err → elem.isSome →
      err.IsTrueOf taken (elemNodes elem) (elemRecords formats path elem)
  | none, path, taken, name, location, err, _, hsome => absurd hsome (by simp)
  | some t, path, taken, name, location, err, h, _ => flattenType_error_isTrueOf t path taken err h

theorem flattenFields_blame : ∀ (fields : List (Constraint.Field Constraint))
    (path : List String),
    MembersBlame (fun taken done => flattenFields formats taken (nameAt path) done fields)
      (nameAt path) (fields.map (objectField formats path)) (fieldNodes fields)
      (fieldRecords formats path fields)
  | [], path => membersBlame_nil
  | ⟨name, location, t⟩ :: rest, path => by
    rw [flattenFields_cons, List.map_cons, objectField_eq, Constraint.fieldRecords_cons]
    exact MembersBlame.cons (flattenType_error_isTrueOf t (path ++ [name]))
      (flattenFields_blame rest path)

end

theorem flattenVariables_blame {o : BuilderOptions} (entity : String) (vars : List Variable) :
    MembersBlame (fun taken done => flattenVariables o taken (nameAt [entity]) done vars)
      (nameAt [entity])
      ((vars.filter fun v => !o.ignores v.name).map (variableField o.topLevelFormats entity))
      ((vars.filter fun v => !o.ignores v.name).flatMap fun v => v.type.nodes)
      (variableRecords o.nestedFormats entity (vars.filter fun v => !o.ignores v.name)) := by
  induction vars with
  | nil => exact membersBlame_nil
  | cons v rest ih =>
    by_cases hv : o.ignores v.name = true
    · rw [flattenVariables_cons_ignored rest hv, List.filter_cons_of_neg (by simp [hv])]
      exact ih
    · rw [flattenVariables_cons_kept rest hv, List.filter_cons_of_pos (by simp [hv]),
        List.flatMap_cons, List.map_cons, variableField_eq, variableRecords_cons]
      exact MembersBlame.cons (flattenType_error_isTrueOf v.type [entity, v.name]) ih

end Record

namespace Entity

/-- The nodes of the types of the kept variables. -/
def nodes (o : BuilderOptions) (e : Entity) : List Constraint :=
  (e.kept o).flatMap fun v => v.type.nodes

lemma kept_areShapely_iff {o : BuilderOptions} {e : Entity} :
    (∀ v ∈ e.kept o, v.type.IsShapely) ↔ ∀ t ∈ e.nodes o, t.SuitsKind := by
  simp only [Constraint.isShapely_iff, nodes, List.mem_flatMap]
  constructor
  · rintro h t ⟨v, hv, ht⟩
    exact h v hv t ht
  · intro h v hv t ht
    exact h t ⟨v, hv, ht⟩

end Entity

namespace Record

/-- An entity is refused for a fault of its own or for a name that is taken. -/
theorem flattenEntity_error_isTrueOf {o : BuilderOptions} {taken : List String} {e : Entity}
    {err : BuildError} (h : flattenEntity o taken e = .error err) :
    err.IsTrueOf taken (e.nodes o) (e.flattening o) := by
  rw [flattenEntity, ← nameAt_singleton] at h
  simp only [bind_eq_error, pure_ne_error, and_false, exists_false, or_false] at h
  rw [e.flattening_eq]
  rcases h with h | ⟨_, -, h⟩
  · obtain ⟨hmem, rfl⟩ := reserveName_eq_error h
    exact ⟨by simp, .inl hmem⟩
  · exact (flattenVariables_blame e.name e.vars).isTrueOf h

end Record

namespace RecordBuilder

lemma addEntity_eq_error_iff {b : RecordBuilder} {e : Entity} {err : BuildError} :
    b.addEntity e = .error err ↔ Record.flattenEntity b.options b.taken e = .error err := by
  simp only [addEntity, bind_eq_error, pure_ne_error, and_false, exists_false, or_false]

lemma offerAll_options (b : RecordBuilder) (es : List Entity) :
    (b.offerAll es).options = b.options := by
  induction es generalizing b with
  | nil => rfl
  | cons e es ih =>
    rw [offerAll_cons, ih, offer_options]

/-- After any run, an entity is taken just when all of its nodes suit their kinds, its records have
names that are new and distinct, and the fields of each record have distinct names. Otherwise the
error is true of the entity. -/
theorem offerAll_addEntity_iff (o : BuilderOptions) (es : List Entity) (e : Entity) :
    let b := offerAll { options := o } es
    ((∃ b', b.addEntity e = .ok b') ↔
      (∀ t ∈ e.nodes o, t.SuitsKind) ∧
        ((Record.names (e.flattening o)).Nodup ∧
          ∀ n ∈ Record.names (e.flattening o), n ∉ Record.names b.records) ∧
        ∀ r ∈ e.flattening o, (r.fields.map Record.Field.name).Nodup) ∧
    ∀ err, b.addEntity e = .error err →
      err.IsTrueOf (Record.names b.records) (e.nodes o) (e.flattening o) := by
  intro b
  have hb : b.Consistent := (consistent_empty o).offerAll es
  have ho : b.options = o := offerAll_options _ es
  constructor
  · simp only [addEntity_eq_ok_iff, ho, Entity.kept_areShapely_iff, exists_and_left, exists_eq,
      and_true]
    refine and_congr_right fun _ => ⟨?_, ?_⟩
    · rintro ⟨hnodup, hdisjoint, hfields⟩
      exact ⟨⟨hnodup, fun n hn hheld => hdisjoint n hn ((hb.taken n).mpr hheld)⟩, hfields⟩
    · rintro ⟨⟨hnodup, hdisjoint⟩, hfields⟩
      exact ⟨hnodup, fun n hn htaken => hdisjoint n hn ((hb.taken n).mp htaken), hfields⟩
  · intro err h
    have htrue := Record.flattenEntity_error_isTrueOf (addEntity_eq_error_iff.mp h)
    rw [ho] at htrue
    exact htrue.of_subset fun n => (hb.taken n).mp

/-- After `x` with its object `config`, the name `XConfig` is held. -/
theorem offerAll_addEntity_iff_held :
    let b := offerAll { options := {} } [⟨"x", [⟨"config", "", true, .object []⟩]⟩]
    let e : Entity := ⟨"x_config", [⟨"id", "", true, .scalar "any" .any⟩]⟩
    b.addEntity e = .error (.duplicateRecord "XConfig") ∧
      "XConfig" ∈ Record.names (e.flattening {}) ∧
        ("XConfig" ∈ Record.names b.records ∨
          2 ≤ (Record.names (e.flattening {})).count "XConfig") := by
  intro b e
  have h : b.addEntity e = .error (.duplicateRecord "XConfig") :=
    addEntity_eq_error_iff.mpr (by decide +kernel)
  exact ⟨h, (offerAll_addEntity_iff {} _ e).2 _ h⟩

end RecordBuilder

end ModuleBindings
