import ModuleBindings.Proofs.Independence
import Mathlib.Data.List.Pairwise

/-!
# Variables that are ignored

Building with some names ignored is building entities that never had the variables of these names.
What a variable adds to the records is its field and the records of the objects in its type, and all
of that goes when the variable is ignored, too, and nothing else.
-/

namespace ModuleBindings

open Proofs

/-- The entity without the variables that have one of the names, whatever the case of their
letters. -/
def Entity.without (ignore : List String) (e : Entity) : Entity :=
  { e with vars := e.vars.filter fun v => Text.lowercase v.name ∉ ignore.map Text.lowercase }

lemma BuilderOptions.ignores_iff {o : BuilderOptions} {name : String} :
    o.ignores name = true ↔ Text.lowercase name ∈ o.ignore.map Text.lowercase := by
  rw [ignores, List.contains_iff_mem]

lemma Entity.vars_without (e : Entity) (o : BuilderOptions) :
    (e.without o.ignore).vars = e.kept o := by
  refine List.filter_congr fun v _ => ?_
  rw [Bool.eq_iff_iff, Bool.not_eq_true', ← Bool.not_eq_true, BuilderOptions.ignores_iff,
    decide_eq_true_eq]

namespace Record

variable {o : BuilderOptions}

lemma flattenVariables_kept (taken : List String) (path : String) (done : List Field)
    (vars : List Variable) :
    flattenVariables o taken path done vars =
      flattenVariables { o with ignore := [] } taken path done
        (vars.filter fun v => !o.ignores v.name) := by
  induction vars generalizing taken done with
  | nil => rfl
  | cons v rest ih =>
    by_cases hv : o.ignores v.name = true
    · rw [flattenVariables, if_pos hv, List.filter_cons_of_neg (by simp [hv])]
      exact ih taken done
    · have hnone : ¬({ o with ignore := [] } : BuilderOptions).ignores v.name = true := by
        simp [BuilderOptions.ignores_iff]
      rw [List.filter_cons_of_pos (by simp [hv]), flattenVariables, if_neg hv, flattenVariables,
        if_neg hnone]
      simp only [ih]

lemma flattenEntity_without (taken : List String) (e : Entity) :
    flattenEntity { o with ignore := [] } taken (e.without o.ignore) =
      flattenEntity o taken e := by
  rw [flattenEntity, flattenEntity, e.vars_without, flattenVariables_kept (o := o)]
  rfl

end Record

namespace RecordBuilder

/-- The same builder with nothing ignored. -/
def ignoringNone (b : RecordBuilder) : RecordBuilder :=
  { b with options := { b.options with ignore := [] } }

lemma addEntity_without (b : RecordBuilder) (e : Entity) :
    b.ignoringNone.addEntity (e.without b.options.ignore) =
      (b.addEntity e).map ignoringNone := by
  have hflatten := Record.flattenEntity_without (o := b.options) b.taken e
  rw [addEntity, addEntity, ← hflatten]
  simp only [ignoringNone]
  cases Record.flattenEntity { b.options with ignore := [] } b.taken
    (e.without b.options.ignore) with
  | error err => rfl
  | ok rs => rfl

lemma foldlM_addEntity_without (b : RecordBuilder) (es : List Entity) :
    (es.map (·.without b.options.ignore)).foldlM addEntity b.ignoringNone =
      (es.foldlM addEntity b).map ignoringNone := by
  induction es generalizing b with
  | nil => rfl
  | cons e es ih =>
    rw [List.map_cons, List.foldlM_cons, List.foldlM_cons, addEntity_without]
    cases h : b.addEntity e with
    | error err => rfl
    | ok b' =>
      have hoptions : b'.options = b.options := by
        rw [← offer_of_ok h, offer_options]
      rw [← hoptions]
      exact ih b'

end RecordBuilder

lemma buildRecords_without (es : List Entity) (ignore : List String) :
    buildRecords (es.map (·.without ignore)) [] = buildRecords es ignore := by
  have hrun := RecordBuilder.foldlM_addEntity_without { options := { ignore } } es
  simp only [RecordBuilder.ignoringNone] at hrun
  rw [buildRecords, buildRecords, hrun]
  cases es.foldlM RecordBuilder.addEntity { options := { ignore } } with
  | error err => rfl
  | ok b => rfl

/-- Entities are built as if the ignored variables had never been declared: what these are like, or
whether there are any, makes no difference. Only the lower case of the ignored names counts, and
only the variables of an entity are looked at: the record of an object has all of its fields. -/
theorem buildRecords_eq_filtered (es : List Entity) (ignore : List String) :
    buildRecords es ignore = buildRecords (es.map (·.without ignore)) [] ∧
    (∀ es', es'.map (·.without ignore) = es.map (·.without ignore) →
      buildRecords es' ignore = buildRecords es ignore) ∧
    (∀ ignore', (∀ name, name ∈ ignore'.map Text.lowercase ↔ name ∈ ignore.map Text.lowercase) →
      buildRecords es ignore' = buildRecords es ignore) ∧
    ∀ rs, buildRecords es ignore = .ok rs → ∀ e ∈ es, ∀ v ∈ (e.without ignore).vars,
      ∀ n ∈ v.type.objects, ∃ r ∈ rs, r.name = Record.nameAt (e.name :: v.name :: n.steps) ∧
        r.fields.map Record.Field.name = n.fields.map fun f => Text.pascal f.name := by
  refine ⟨(buildRecords_without es ignore).symm, ?_, ?_, ?_⟩
  · intro es' hes
    rw [← buildRecords_without, hes, buildRecords_without]
  · intro ignore' hsame
    have hwithout : Entity.without ignore' = Entity.without ignore := by
      funext e
      simp only [Entity.without, hsame]
    rw [← buildRecords_without, hwithout, buildRecords_without]
  · intro rs hrs e he v hv n hn
    obtain ⟨-, -, rfl⟩ := buildRecords_iff_fresh.mp hrs
    let o : BuilderOptions := { ignore }
    have hobject : n.within v.name ∈ e.objects o := by
      rw [e.vars_without o] at hv
      exact List.mem_flatMap.mpr ⟨v, hv, List.mem_map_of_mem hn⟩
    refine ⟨Record.ofObject o.nestedFormats [e.name] (n.within v.name), ?_, rfl, ?_⟩
    · refine List.mem_flatMap.mpr ⟨e, he, List.mem_cons_of_mem _ ?_⟩
      exact List.mem_map_of_mem hobject
    · rw [Record.ofObject, List.map_map]
      rfl

/-- A list without an element is no fault in a variable that is ignored, and a field that is named
like the variable stays in its object. -/
theorem buildRecords_eq_filtered_tags :
    let settings : Variable :=
      ⟨"settings", "", true, .object [⟨"tags", none, .scalar "string" .string⟩]⟩
    let e : Entity := ⟨"m", [settings]⟩
    let e' : Entity := ⟨"m", [⟨"Tags", "", true, .scalar "list" .list⟩, settings]⟩
    let rs : List Record :=
      [⟨"M", [⟨"Settings", "", .record "MSettings",
          [("json", "settings"), ("yaml", "settings"), ("hcl", "settings")]⟩]⟩,
        ⟨"MSettings", [⟨"Tags", "", .primitive .string,
          [("json", "tags"), ("yaml", "tags"), ("cty", "tags")]⟩]⟩]
    buildRecords [e'] [] = .error (.unsupportedType "list" none) ∧
      [e'].map (·.without ["TAGS"]) = [e].map (·.without ["TAGS"]) ∧
      buildRecords [e'] ["TAGS"] = .ok rs ∧
      (∀ name, name ∈ ["tags", "Tags"].map Text.lowercase ↔ name ∈ ["TAGS"].map Text.lowercase) ∧
      buildRecords [e'] ["tags", "Tags"] = .ok rs ∧
      ∃ r ∈ rs, r.name = "MSettings" ∧ r.fields.map Record.Field.name = ["Tags"] := by
  intro settings e e' rs
  have hignored : Text.lowercase "Tags" ∈ ["TAGS"].map Text.lowercase := by
    decide +kernel
  have hsame : [e'].map (·.without ["TAGS"]) = [e].map (·.without ["TAGS"]) := by
    rw [List.map_singleton, List.map_singleton, Entity.without,
      List.filter_cons_of_neg (by rwa [decide_eq_true_eq, not_not])]
    rfl
  have hrs : buildRecords [e'] ["TAGS"] = .ok rs := by
    rw [(buildRecords_eq_filtered [e] ["TAGS"]).2.1 [e'] hsame]
    decide +kernel
  have hnames : ["tags", "Tags"].map Text.lowercase = ["tags", "tags"] ∧
      ["TAGS"].map Text.lowercase = ["tags"] := by
    decide +kernel
  have hsets : ∀ name,
      name ∈ ["tags", "Tags"].map Text.lowercase ↔ name ∈ ["TAGS"].map Text.lowercase := by
    rw [hnames.1, hnames.2]
    simp
  refine ⟨by decide +kernel, hsame, hrs, hsets, ?_, ?_⟩
  · rw [(buildRecords_eq_filtered [e'] ["TAGS"]).2.2.1 _ hsets, hrs]
  · have hkept : settings ∈ (e'.without ["TAGS"]).vars :=
      List.mem_filter.mpr ⟨List.mem_cons_of_mem _ (List.mem_singleton_self _), by decide +kernel⟩
    have hobject : (⟨[], [⟨"tags", none, .scalar "string" .string⟩]⟩ : Constraint.ObjectNode) ∈
        settings.type.objects := List.mem_cons_self
    obtain ⟨r, hr, hname, hfields⟩ := (buildRecords_eq_filtered [e'] ["TAGS"]).2.2.2 rs hrs e'
      (List.mem_singleton_self _) settings hkept _ hobject
    have hpascal : Record.nameAt ["m", "settings"] = "MSettings" ∧ Text.pascal "tags" = "Tags" := by
      decide +kernel
    refine ⟨r, hr, hname.trans hpascal.1, ?_⟩
    rw [hfields, List.map_singleton, hpascal.2]

namespace Record

/-- The names of the records of the objects in the type of a variable of `entity`. -/
def objectNames (entity : String) (v : Variable) : List String :=
  v.type.objects.map fun n => nameAt (entity :: v.name :: n.steps)

/-- What is left of some records when variables, each given with the name of its entity, go: the
records of the objects in their types go, and so do the fields for them. -/
def withoutVariables (gone : List (String × Variable)) (rs : List Record) : List Record :=
  (rs.filter fun r => r.name ∉ gone.flatMap fun p => objectNames p.1 p.2).map fun r =>
    { r with fields := r.fields.filter fun f =>
        (r.name, f.name) ∉ gone.map fun p => (Text.pascal p.1, Text.pascal p.2.name) }

lemma names_records (formats : List String) (entity : String) (v : Variable) :
    names (v.type.records formats [entity, v.name]) = objectNames entity v := by
  rw [Constraint.records, names, List.map_map]
  rfl

lemma names_flattening (o : BuilderOptions) (e : Entity) :
    names (e.flattening o) = Text.pascal e.name :: (e.kept o).flatMap (objectNames e.name) := by
  rw [e.flattening_eq, names_cons, nameAt_singleton, variableRecords, names, List.map_flatMap]
  exact congrArg _ (List.flatMap_congr fun v _ => names_records _ _ v)

section

variable {gone : List (String × Variable)} {rs : List Record}

lemma withoutVariables_flatMap {α : Type} (as : List α) (f : α → List Record) :
    withoutVariables gone (as.flatMap f) = as.flatMap fun a => withoutVariables gone (f a) := by
  rw [withoutVariables, List.filter_flatMap, List.map_flatMap]
  rfl

lemma names_withoutVariables_sublist :
    (names (withoutVariables gone rs)).Sublist (names rs) := by
  rw [names, withoutVariables, List.map_map]
  exact List.filter_sublist.map Record.name

lemma Fresh.withoutVariables {taken : List String} (h : Fresh taken rs) :
    Fresh taken (withoutVariables gone rs) := by
  refine ⟨h.nodup.sublist names_withoutVariables_sublist, fun n hn => ?_, fun r hr => ?_⟩
  · exact h.disjoint n (names_withoutVariables_sublist.subset hn)
  · obtain ⟨s, hs, rfl⟩ := List.mem_map.mp hr
    exact (h.fields s (List.mem_of_mem_filter hs)).sublist (List.filter_sublist.map Field.name)

lemma withoutVariables_cons {r : Record} (hr : ∀ p ∈ gone, r.name ∉ objectNames p.1 p.2) :
    withoutVariables gone (r :: rs) =
      { r with fields := r.fields.filter fun f =>
          (r.name, f.name) ∉ gone.map fun p => (Text.pascal p.1, Text.pascal p.2.name) } ::
        withoutVariables gone rs := by
  have hkept : r.name ∉ gone.flatMap fun p => objectNames p.1 p.2 := by
    rw [List.mem_flatMap]
    rintro ⟨p, hp, h⟩
    exact hr p hp h
  rw [withoutVariables, List.filter_cons_of_pos (by rwa [decide_eq_true_eq]), List.map_cons]
  rfl

lemma withoutVariables_eq_nil {p : String × Variable} (hp : p ∈ gone)
    (h : ∀ r ∈ rs, r.name ∈ objectNames p.1 p.2) : withoutVariables gone rs = [] := by
  rw [withoutVariables, List.map_eq_nil_iff, List.filter_eq_nil_iff]
  intro r hr
  rw [decide_eq_true_eq, not_not, List.mem_flatMap]
  exact ⟨p, hp, h r hr⟩

/-- Records that no variable in `gone` has to do with stay as they are. -/
lemma withoutVariables_eq_self (hobjects : ∀ r ∈ rs, ∀ p ∈ gone, r.name ∉ objectNames p.1 p.2)
    (hown : ∀ r ∈ rs, ∀ p ∈ gone, r.name ≠ Text.pascal p.1) :
    withoutVariables gone rs = rs := by
  induction rs with
  | nil => rfl
  | cons r rs ih =>
    rw [List.forall_mem_cons] at hobjects hown
    have hfields : ∀ f ∈ r.fields,
        (r.name, f.name) ∉ gone.map fun p => (Text.pascal p.1, Text.pascal p.2.name) := by
      intro f _ h
      obtain ⟨p, hp, heq⟩ := List.mem_map.mp h
      exact hown.1 p hp (Prod.mk.inj heq).1.symm
    rw [withoutVariables_cons hobjects.1, ih hobjects.2 hown.2,
      List.filter_eq_self.mpr fun f hf => decide_eq_true (hfields f hf)]

end

end Record

/-- Blocks that are distinct as a whole have nothing in common. -/
lemma eq_of_mem_of_nodup_flatMap {α β : Type} {f : α → List β} {as : List α}
    (h : (as.flatMap f).Nodup) {a a' : α} (ha : a ∈ as) (ha' : a' ∈ as) {b : β} (hb : b ∈ f a)
    (hb' : b ∈ f a') : a = a' := by
  have hsymm : Std.Symm (Function.onFun List.Disjoint f) := ⟨fun _ _ h => List.disjoint_symm h⟩
  by_contra hne
  exact (List.nodup_flatMap.mp h).2.forall ha ha' hne hb hb'

lemma flatMap_filter {α β : Type} (p : α → Bool) (f : α → List β) (as : List α) :
    (as.filter p).flatMap f = as.flatMap fun a => if p a then f a else [] := by
  induction as with
  | nil => rfl
  | cons a as ih => cases h : p a <;> simp [h, ih]

namespace Entity

open Record (names objectNames names_flattening)

variable {o : BuilderOptions} {es : List Entity} {e e' : Entity} {v v' : Variable} {n : String}

lemma kept_without (o : BuilderOptions) (more : List String) (e : Entity) :
    (e.without more).kept o =
      (e.kept o).filter fun v => Text.lowercase v.name ∉ more.map Text.lowercase :=
  List.filter_comm _ _ _

lemma pascal_mem_names_flattening (e : Entity) (o : BuilderOptions) :
    Text.pascal e.name ∈ names (e.flattening o) := by
  rw [names_flattening]
  exact List.mem_cons_self

lemma mem_names_flattening (hv : v ∈ e.kept o) (hn : n ∈ objectNames e.name v) :
    n ∈ names (e.flattening o) := by
  rw [names_flattening]
  exact List.mem_cons_of_mem _ (List.mem_flatMap.mpr ⟨v, hv, hn⟩)

section Distinct

variable (hnodup : (names (es.flatMap (·.flattening o))).Nodup) (he : e ∈ es) (he' : e' ∈ es)

include hnodup he

lemma nodup_names_flattening :
    Text.pascal e.name ∉ (e.kept o).flatMap (objectNames e.name) ∧
      ((e.kept o).flatMap (objectNames e.name)).Nodup := by
  rw [names, List.map_flatMap] at hnodup
  have hblock : (names (e.flattening o)).Nodup := (List.nodup_flatMap.mp hnodup).1 e he
  rwa [names_flattening, List.nodup_cons] at hblock

include he'

/-- The name of a record tells its entity. -/
lemma eq_of_mem_names (hn : n ∈ names (e.flattening o)) (hn' : n ∈ names (e'.flattening o)) :
    e = e' := by
  rw [names, List.map_flatMap] at hnodup
  exact eq_of_mem_of_nodup_flatMap hnodup he he' hn hn'

lemma eq_of_pascal_eq (h : Text.pascal e.name = Text.pascal e'.name) : e = e' := by
  have hown := e.pascal_mem_names_flattening o
  have hown' := e'.pascal_mem_names_flattening o
  rw [← h] at hown'
  exact eq_of_mem_names hnodup he he' hown hown'

/-- The name of the record of an object tells its variable. -/
lemma eq_of_mem_objectNames (hv : v ∈ e.kept o) (hv' : v' ∈ e'.kept o)
    (hn : n ∈ objectNames e.name v) (hn' : n ∈ objectNames e'.name v') : v = v' := by
  obtain rfl := eq_of_mem_names hnodup he he' (mem_names_flattening hv hn)
    (mem_names_flattening hv' hn')
  exact eq_of_mem_of_nodup_flatMap (nodup_names_flattening hnodup he).2 hv hv' hn hn'

lemma pascal_not_mem_objectNames (hv' : v' ∈ e'.kept o) :
    Text.pascal e.name ∉ objectNames e'.name v' := by
  intro hn
  obtain rfl := eq_of_mem_names hnodup he he' (e.pascal_mem_names_flattening o)
    (mem_names_flattening hv' hn)
  exact (nodup_names_flattening hnodup he).1 (List.mem_flatMap.mpr ⟨v', hv', hn⟩)

end Distinct

/-- The variables of some entities that are kept, but would not be if more names were ignored, each
with the name of its entity. -/
def newlyIgnored (o : BuilderOptions) (more : List String) (es : List Entity) :
    List (String × Variable) :=
  es.flatMap fun e =>
    ((e.kept o).filter fun v => Text.lowercase v.name ∈ more.map Text.lowercase).map (e.name, ·)

lemma mem_newlyIgnored_iff {more : List String} {p : String × Variable} :
    p ∈ newlyIgnored o more es ↔ ∃ e ∈ es, ∃ v ∈ e.kept o,
      Text.lowercase v.name ∈ more.map Text.lowercase ∧ (e.name, v) = p := by
  simp only [newlyIgnored, List.mem_flatMap, List.mem_map, List.mem_filter, decide_eq_true_eq,
    and_assoc]

section Fresh

open Record (Fresh withoutVariables variableField variableRecords)

variable (hfresh : Fresh [] (es.flatMap (·.flattening o))) (he : e ∈ es) (more : List String)

include hfresh he

lemma fields_withoutVariables :
    ((e.kept o).map (variableField o.topLevelFormats e.name)).filter (fun f =>
        (Text.pascal e.name, f.name) ∉
          (newlyIgnored o more es).map fun p => (Text.pascal p.1, Text.pascal p.2.name)) =
      ((e.without more).kept o).map (variableField o.topLevelFormats e.name) := by
  rw [kept_without, List.filter_map]
  refine congrArg _ (List.filter_congr fun v hv => decide_eq_decide.mpr (not_congr ?_))
  rw [List.mem_map]
  constructor
  · -- the two names tell the entity and then the variable, so a pair with these names is `v`
    rintro ⟨p, hp, heq⟩
    obtain ⟨e', he', v', hv', hmore, rfl⟩ := mem_newlyIgnored_iff.mp hp
    obtain ⟨hentity, hname⟩ := Prod.mk.inj heq
    obtain rfl := eq_of_pascal_eq hfresh.nodup he' he hentity
    have hown : (((e'.kept o).map (variableField o.topLevelFormats e'.name)).map
        Record.Field.name).Nodup :=
      hfresh.fields _ (List.mem_flatMap.mpr ⟨e', he, List.mem_cons_self⟩)
    rw [List.map_map] at hown
    obtain rfl := List.inj_on_of_nodup_map hown hv' hv hname
    exact hmore
  · intro hmore
    exact ⟨_, mem_newlyIgnored_iff.mpr ⟨e, he, v, hv, hmore, rfl⟩, rfl⟩

lemma records_withoutVariables :
    withoutVariables (newlyIgnored o more es)
        (variableRecords o.nestedFormats e.name (e.kept o)) =
      variableRecords o.nestedFormats e.name ((e.without more).kept o) := by
  rw [variableRecords, Record.withoutVariables_flatMap, variableRecords, kept_without,
    flatMap_filter]
  refine List.flatMap_congr fun v hv => ?_
  have hnames : ∀ r ∈ v.type.records o.nestedFormats [e.name, v.name],
      r.name ∈ objectNames e.name v := by
    intro r hr
    rw [← Record.names_records o.nestedFormats]
    exact List.mem_map_of_mem hr
  by_cases hmore : Text.lowercase v.name ∈ more.map Text.lowercase
  · rw [if_neg (by simpa using hmore)]
    exact Record.withoutVariables_eq_nil (mem_newlyIgnored_iff.mpr ⟨e, he, v, hv, hmore, rfl⟩)
      hnames
  · rw [if_pos (by simpa using hmore)]
    refine Record.withoutVariables_eq_self ?_ ?_
    · intro r hr p hp hn
      obtain ⟨e', he', v', hv', hmore', rfl⟩ := mem_newlyIgnored_iff.mp hp
      obtain rfl := eq_of_mem_objectNames hfresh.nodup he he' hv hv' (hnames r hr) hn
      exact hmore hmore'
    · intro r hr p hp hn
      obtain ⟨e', he', v', hv', hmore', rfl⟩ := mem_newlyIgnored_iff.mp hp
      refine pascal_not_mem_objectNames hfresh.nodup he' he hv ?_
      rw [← hn]
      exact hnames r hr

lemma withoutVariables_flattening :
    withoutVariables (newlyIgnored o more es) (e.flattening o) = (e.without more).flattening o := by
  have hown : ∀ p ∈ newlyIgnored o more es, Text.pascal e.name ∉ objectNames p.1 p.2 := by
    intro p hp
    obtain ⟨e', he', v', hv', -, rfl⟩ := mem_newlyIgnored_iff.mp hp
    exact pascal_not_mem_objectNames hfresh.nodup he he' hv'
  rw [flattening_eq, flattening_eq, Record.nameAt_singleton, Record.withoutVariables_cons hown,
    records_withoutVariables hfresh he, fields_withoutVariables hfresh he]
  rfl

end Fresh

lemma without_without {ignore more : List String}
    (hmore : ∀ name ∈ ignore, Text.lowercase name ∈ more.map Text.lowercase) (e : Entity) :
    (e.without more).without ignore = e.without more := by
  have hsub : ignore.map Text.lowercase ⊆ more.map Text.lowercase := by
    intro n hn
    obtain ⟨name, hname, rfl⟩ := List.mem_map.mp hn
    exact hmore name hname
  have hvars : (e.without more).vars.filter (fun v =>
      Text.lowercase v.name ∉ ignore.map Text.lowercase) = (e.without more).vars := by
    refine List.filter_eq_self.mpr fun v hv => decide_eq_true fun hignore => ?_
    have hkept := List.of_mem_filter hv
    rw [decide_eq_true_eq] at hkept
    exact hkept (hsub hignore)
  rw [without, hvars]

end Entity

open Entity (newlyIgnored mem_newlyIgnored_iff)

/-- When more names are ignored, entities that could be built still can. Their records are what they
were without the records of the objects in the types of the newly ignored variables, and without the
fields for these variables in the records of their entities. The names tell which these are: each of
them is there, once. -/
theorem buildRecords_ignore_more {es : List Entity} {ignore more : List String} {rs : List Record}
    (hmore : ∀ name ∈ ignore, Text.lowercase name ∈ more.map Text.lowercase)
    (hrs : buildRecords es ignore = .ok rs) :
    let gone := es.flatMap fun e => ((e.without ignore).vars.filter fun v =>
      Text.lowercase v.name ∈ more.map Text.lowercase).map (e.name, ·)
    buildRecords es more = .ok (Record.withoutVariables gone rs) ∧
      (Record.names rs).Nodup ∧ (∀ r ∈ rs, (r.fields.map Record.Field.name).Nodup) ∧
      ∀ p ∈ gone, (∀ n ∈ Record.objectNames p.1 p.2, n ∈ Record.names rs) ∧
        ∃ r ∈ rs, r.name = Text.pascal p.1 ∧
          Text.pascal p.2.name ∈ r.fields.map Record.Field.name := by
  intro gone
  let o : BuilderOptions := { ignore }
  have hgone : gone = newlyIgnored o more es :=
    List.flatMap_congr fun e _ => by rw [← e.vars_without o]
  obtain ⟨hs, hfresh, rfl⟩ := buildRecords_iff_fresh.mp hrs
  refine ⟨?_, hfresh.nodup, hfresh.fields, ?_⟩
  · -- what `more` leaves holds nothing to ignore, so both runs may keep the options `o`
    have hboth : (es.map (·.without more)).map (·.without ignore) = es.map (·.without more) := by
      simp only [List.map_map, Function.comp_def, Entity.without_without hmore]
    rw [← buildRecords_without, ← hboth, buildRecords_without, buildRecords_iff_fresh]
    refine ⟨?_, hfresh.withoutVariables, ?_⟩
    · rw [List.forall_mem_map]
      intro e he v hv
      rw [Entity.kept_without] at hv
      exact hs e he v (List.mem_of_mem_filter hv)
    · rw [hgone, Record.withoutVariables_flatMap, List.flatMap_map]
      exact List.flatMap_congr fun e he => Entity.withoutVariables_flattening hfresh he more
  · rw [hgone]
    intro p hp
    obtain ⟨e, he, v, hv, -, rfl⟩ := mem_newlyIgnored_iff.mp hp
    constructor
    · intro n hn
      rw [Record.names, List.map_flatMap]
      exact List.mem_flatMap.mpr ⟨e, he, Entity.mem_names_flattening hv hn⟩
    · refine ⟨_, List.mem_flatMap.mpr ⟨e, he, List.mem_cons_self⟩, rfl, ?_⟩
      rw [List.map_map]
      exact List.mem_map_of_mem hv

/-- The list `tags` goes with the record of the objects in it, and the field `tags` of the object
`settings` stays. -/
theorem buildRecords_ignore_more_tags :
    let e : Entity := ⟨"my_queue", [⟨"name", "", true, .scalar "string" .string⟩,
      ⟨"tags", "", true, .list (.object [])⟩,
      ⟨"settings", "", true, .object [⟨"tags", none, .object []⟩]⟩]⟩
    (∀ name ∈ ["Name"], Text.lowercase name ∈ ["TAGS", "name"].map Text.lowercase) ∧
    (∃ rs, buildRecords [e] ["Name"] = .ok rs ∧
      Record.names rs = ["MyQueue", "MyQueueTags", "MyQueueSettings", "MyQueueSettingsTags"]) ∧
    buildRecords [e] ["TAGS", "name"] = .ok
      [⟨"MyQueue", [⟨"Settings", "", .record "MyQueueSettings",
          [("json", "settings"), ("yaml", "settings"), ("hcl", "settings")]⟩]⟩,
        ⟨"MyQueueSettings", [⟨"Tags", "", .record "MyQueueSettingsTags",
          [("json", "tags"), ("yaml", "tags"), ("cty", "tags")]⟩]⟩,
        ⟨"MyQueueSettingsTags", []⟩] := by
  intro e
  have hmore : ∀ name ∈ ["Name"], Text.lowercase name ∈ ["TAGS", "name"].map Text.lowercase := by
    decide +kernel
  have hrs : buildRecords [e] ["Name"] = .ok
      [⟨"MyQueue", [⟨"Tags", "", .list (.record "MyQueueTags"),
            [("json", "tags"), ("yaml", "tags"), ("hcl", "tags")]⟩,
          ⟨"Settings", "", .record "MyQueueSettings",
            [("json", "settings"), ("yaml", "settings"), ("hcl", "settings")]⟩]⟩,
        ⟨"MyQueueTags", []⟩,
        ⟨"MyQueueSettings", [⟨"Tags", "", .record "MyQueueSettingsTags",
          [("json", "tags"), ("yaml", "tags"), ("cty", "tags")]⟩]⟩,
        ⟨"MyQueueSettingsTags", []⟩] := by
    decide +kernel
  refine ⟨hmore, ⟨_, hrs, rfl⟩, ?_⟩
  rw [(buildRecords_ignore_more hmore hrs).1]
  decide +kernel

end ModuleBindings
