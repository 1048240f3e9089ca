import ModuleBindings.Proofs.BuilderRuns
import Mathlib.Data.List.Flatten

/-!
# References between records

The records of a type, of an entity and of a whole run form a forest: every reference leads to a
later record, and every record but the roots has one reference that leads to it.
-/

namespace ModuleBindings

namespace TypeExpr

@[simp] lemma references_orNull (t : TypeExpr) : t.orNull.references = t.references := by
  unfold orNull
  by_cases h : t.isNullable = true
  · rw [if_pos h]
  · rw [if_neg h, references]

lemma nodup_references (t : TypeExpr) : t.references.Nodup := by
  induction t with
  | primitive => exact List.nodup_nil
  | record name => exact List.nodup_singleton name
  | map t ih | list t ih | nullable t ih => exact ih

end TypeExpr

namespace Record

/-- The names of the records that some fields refer to, one for every reference. -/
def fieldReferences (fs : List Field) : List String :=
  fs.flatMap fun f => f.type.references

def references (rs : List Record) : List String :=
  rs.flatMap fun r => fieldReferences r.fields

/-- How many fields of some records refer to the record of that name. -/
def referrers (rs : List Record) (name : String) : Nat :=
  (rs.flatMap Record.fields).countP fun f => name ∈ f.type.references

/-- Whatever a field refers to stands behind the record of the field. -/
def RefersForward : List Record → Prop
  | [] => True
  | r :: rest => (∀ n ∈ fieldReferences r.fields, n ∈ names rest) ∧ RefersForward rest

/-- Records that refer forward, each of them by one reference or, a root, by none. -/
structure Forest (roots : List String) (rs : List Record) : Prop where
  forward : RefersForward rs
  perm : (names rs).Perm (roots ++ references rs)

variable {roots more : List String} {rs ss : List Record} {r : Record}

lemma references_append (rs ss : List Record) :
    references (rs ++ ss) = references rs ++ references ss :=
  List.flatMap_append

lemma references_eq_fieldReferences (rs : List Record) :
    references rs = fieldReferences (rs.flatMap Record.fields) := by
  rw [references, fieldReferences, List.flatMap_assoc]
  rfl

/-- No type refers to a record twice, so references can be counted by fields. -/
lemma count_references (rs : List Record) (name : String) :
    (references rs).count name = referrers rs name := by
  rw [references_eq_fieldReferences, referrers]
  induction rs.flatMap Record.fields with
  | nil => rfl
  | cons f fs ih =>
    have hf : f.type.references.count name = if name ∈ f.type.references then 1 else 0 :=
      f.type.nodup_references.count
    rw [fieldReferences, List.flatMap_cons, List.count_append, ← fieldReferences, ih, hf,
      List.countP_cons, Nat.add_comm]
    simp

lemma RefersForward.append (hr : RefersForward rs) (hs : RefersForward ss) :
    RefersForward (rs ++ ss) := by
  induction rs with
  | nil => exact hs
  | cons r rs ih =>
    rw [List.cons_append, RefersForward]
    refine ⟨?_, ih hr.2⟩
    intro n hn
    rw [names_append, List.mem_append]
    exact .inl (hr.1 n hn)

lemma RefersForward.mem_names_of_eq {pre post : List Record} (h : RefersForward rs)
    (hrs : rs = pre ++ r :: post) {f : Field} (hf : f ∈ r.fields) {n : String}
    (hn : n ∈ f.type.references) : n ∈ names post := by
  subst hrs
  induction pre with
  | nil => exact h.1 n (List.mem_flatMap.mpr ⟨f, hf, hn⟩)
  | cons _ pre ih => exact ih h.2

lemma forest_nil : Forest [] [] :=
  ⟨trivial, List.Perm.refl []⟩

lemma Forest.append (hr : Forest roots rs) (hs : Forest more ss) :
    Forest (roots ++ more) (rs ++ ss) := by
  refine ⟨hr.forward.append hs.forward, ?_⟩
  rw [names_append, references_append]
  refine (hr.perm.append hs.perm).trans ?_
  simp only [List.append_assoc]
  exact (List.perm_append_comm_assoc _ _ _).append_left roots

/-- A record in front of the forest whose roots it refers to becomes the only root. -/
lemma Forest.cons {name : String} {fs : List Field} (h : Forest (fieldReferences fs) rs) :
    Forest [name] (⟨name, fs⟩ :: rs) := by
  refine ⟨⟨?_, h.forward⟩, ?_⟩
  · intro n hn
    exact h.perm.mem_iff.mpr (List.mem_append_left _ hn)
  · rw [names_cons, references, List.flatMap_cons]
    exact h.perm.cons name

/-- When no two records share a name, no field refers to a root. -/
lemma Forest.referrers_root (h : Forest roots rs) (hn : (names rs).Nodup) {name : String}
    (hname : name ∈ roots) : referrers rs name = 0 := by
  have hdisjoint := (List.nodup_append'.mp (h.perm.nodup hn)).2.2
  rw [← count_references, List.count_eq_zero]
  exact hdisjoint hname

/-- When no two records share a name, one field refers to a record behind the only root, and so
it is in a larger forest. -/
lemma Forest.referrers_of_mem (h : Forest roots rs) (hn : (names rs).Nodup)
    {part : List Record} (hr : Forest [r.name] (r :: part)) (hsub : (r :: part).Sublist rs)
    {s : Record} (hs : s ∈ part) : referrers rs s.name = 1 := by
  have hmem : s.name ∈ names part := List.mem_map_of_mem hs
  have hne : s.name ≠ r.name := by
    intro heq
    have hpart : (names (r :: part)).Nodup := hn.sublist (hsub.map Record.name)
    rw [names_cons, List.nodup_cons, ← heq] at hpart
    exact hpart.1 hmem
  have hperm := hr.perm.mem_iff.mp (List.mem_cons_of_mem _ hmem)
  rw [List.singleton_append, List.mem_cons] at hperm
  have hrefs : s.name ∈ references rs := (hsub.flatMap _).subset (hperm.resolve_left hne)
  rw [← count_references]
  exact List.count_eq_one_of_mem (h.perm.nodup hn).of_append_right hrefs

lemma forest_flatMap {α : Type} {f : α → List String} {g : α → List Record} {as : List α}
    (h : ∀ a ∈ as, Forest (f a) (g a)) : Forest (as.flatMap f) (as.flatMap g) := by
  induction as with
  | nil => exact forest_nil
  | cons a as ih =>
    rw [List.forall_mem_cons] at h
    rw [List.flatMap_cons, List.flatMap_cons]
    exact h.1.append (ih h.2)

end Record

namespace Constraint

open Record

variable {formats path : List String}

lemma references_typeExpr {name : String} {kind : Kind} {elem : Option Constraint} {opt : Bool}
    {fields : List (Field Constraint)} {location : Option Location} :
    ((node name kind elem opt fields location).typeExpr path).references =
      if kind.wraps then (elemExpr path elem).references
      else if kind = .object then [nameAt path] else [] := by
  cases opt <;> cases kind <;>
    simp [typeExpr, TypeExpr.references, Kind.wraps]

mutual

/-- The records of a well-formed type form a forest below what the type refers to. -/
theorem forest_records : ∀ (t : Constraint) {path : List String}, t.IsShapely →
    Forest (t.typeExpr path).references (t.records formats path)
  | node name kind elem opt fields location, path, hs => by
    rw [references_typeExpr]
    cases kind
    case string | boolean | number | null | any =>
      obtain ⟨rfl, rfl⟩ := (isShapely_scalar rfl).mp hs
      exact forest_nil
    case list | map =>
      obtain ⟨-, helem, rfl⟩ := (isShapely_wrapper rfl).mp hs
      rw [records_wrapper rfl]
      exact forest_elemRecords elem helem
    case object =>
      obtain ⟨rfl, hfields⟩ := isShapely_object.mp hs
      rw [records_object]
      exact (forest_fieldRecords fields hfields).cons

theorem forest_elemRecords : ∀ (elem : Option Constraint) {path : List String},
    IsShapelyElem elem → Forest (elemExpr path elem).references (elemRecords formats path elem)
  | none, _, _ => forest_nil
  | some t, _, hs => forest_records t hs

theorem forest_fieldRecords : ∀ (fields : List (Field Constraint)) {path : List String},
    AreShapely fields → Forest (fieldReferences (fields.map (objectField formats path)))
      (fieldRecords formats path fields)
  | [], _, _ => forest_nil
  | ⟨name, location, t⟩ :: rest, path, hs => by
    rw [fieldRecords_cons]
    exact (forest_records t hs.1).append (forest_fieldRecords rest hs.2)

end

end Constraint

namespace Entity

open Record

variable {o : BuilderOptions}

lemma references_variableField {formats : List String} {entity : String} {v : Variable} :
    (variableField formats entity v).type.references =
      (v.type.typeExpr [entity, v.name]).references := by
  unfold variableField
  by_cases h : v.required = true
  · simp [h]
  · simp [h]

/-- The record of the entity itself is the root of all of its records. -/
theorem forest_flattening (e : Entity) (hs : ∀ v ∈ e.kept o, v.type.IsShapely) :
    Forest [Text.pascal e.name] (e.flattening o) := by
  have hvars : Forest
      (fieldReferences ((e.kept o).map (variableField o.topLevelFormats e.name)))
      (variableRecords o.nestedFormats e.name (e.kept o)) := by
    rw [fieldReferences, List.flatMap_map, variableRecords]
    refine forest_flatMap fun v hv => ?_
    rw [references_variableField]
    exact Constraint.forest_records v.type (hs v hv)
  rw [flattening_eq, ← nameAt_singleton]
  exact hvars.cons

end Entity

namespace RecordBuilder

open Record (Forest referrers)

/-- The name of the first record of a batch. -/
def batchRoots (p : Entity × List Record) : List String :=
  (p.2.head?.map Record.name).toList

variable {b : RecordBuilder} {es : List Entity} {p : Entity × List Record}

lemma forest_of_mem_batches (hp : p ∈ b.batches es) : Forest (batchRoots p) p.2 := by
  rcases eq_nil_or_flattening_of_mem_batches hp with h | ⟨hs, h⟩
  · rw [batchRoots, h]
    exact Record.forest_nil
  · rw [batchRoots, h]
    exact p.1.forest_flattening hs

lemma name_of_mem_batches (hp : p ∈ b.batches es) {own : Record} {rest : List Record}
    (h : p.2 = own :: rest) : own.name = Text.pascal p.1.name := by
  rcases eq_nil_or_flattening_of_mem_batches hp with hnil | ⟨-, hflat⟩
  · rw [hnil] at h
    cases h
  · rw [hflat, Entity.flattening, List.cons.injEq] at h
    rw [← h.1]

/-- References lead to one later record of the same batch. Every record is referred to by one
field, but the first of a batch, the entity's own, by none. -/
theorem offerAll_references_closed (o : BuilderOptions) (es : List Entity) :
    let rs := (offerAll { options := o } es).records
    let calls := batches { options := o } es
    calls.map Prod.fst = es ∧ rs = calls.flatMap Prod.snd ∧ ∀ p ∈ calls,
      (∀ pre r post, p.2 = pre ++ r :: post → ∀ f ∈ r.fields, ∀ n ∈ f.type.references,
        n ∈ Record.names post ∧ (Record.names rs).count n = 1) ∧
      (∀ own rest, p.2 = own :: rest → own.name = Text.pascal p.1.name ∧
        referrers rs own.name = 0 ∧ ∀ r ∈ rest, referrers rs r.name = 1) := by
  intro rs calls
  have hrs : rs = calls.flatMap Prod.snd := offerAll_records _ es
  have hnodup : (Record.names rs).Nodup := ((consistent_empty o).offerAll es).nodup
  have hforest : Forest (calls.flatMap batchRoots) rs := by
    rw [hrs]
    exact Record.forest_flatMap fun p hp => forest_of_mem_batches hp
  refine ⟨map_fst_batches _ es, hrs, fun p hp => ?_⟩
  have hbatch : Forest (batchRoots p) p.2 := forest_of_mem_batches hp
  have hsub : p.2.Sublist rs := by
    rw [hrs, List.flatMap_def]
    exact List.sublist_flatten_of_mem (List.mem_map_of_mem hp)
  constructor
  · intro pre r post hsplit f hf n hn
    have hpost := hbatch.forward.mem_names_of_eq hsplit hf hn
    refine ⟨hpost, List.count_eq_one_of_mem hnodup ((hsub.map Record.name).subset ?_)⟩
    rw [hsplit, List.map_append, List.map_cons]
    exact List.mem_append_right _ (List.mem_cons_of_mem _ hpost)
  · intro own rest hsplit
    have hroots : batchRoots p = [own.name] := by simp [batchRoots, hsplit]
    have hown : own.name ∈ calls.flatMap batchRoots :=
      List.mem_flatMap.mpr ⟨p, hp, by simp [hroots]⟩
    rw [hroots, hsplit] at hbatch
    rw [hsplit] at hsub
    refine ⟨name_of_mem_batches hp hsplit, hforest.referrers_root hnodup hown, ?_⟩
    intro r hr
    exact hforest.referrers_of_mem hnodup hbatch hsub hr

end RecordBuilder

end ModuleBindings
