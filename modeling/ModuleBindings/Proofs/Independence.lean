import ModuleBindings.Proofs.Failures
import Mathlib.Data.List.Forall2

/-!
# Entities are flattened independently

The names of earlier entities decide whether an entity is taken, but never what it becomes. So a
list of entities is built just when each of them can be built alone and no two of them make records
of one name, and the order of the entities is only that of their blocks of records.
-/

namespace ModuleBindings

open Proofs

namespace Record

/-- No record of the one list is named like a record of the other. -/
def Apart (rs ss : List Record) : Prop :=
  (names rs).Disjoint (names ss)

lemma Apart.symm {rs ss : List Record} (h : Apart rs ss) : Apart ss rs :=
  fun _ hs hr => h hr hs

lemma names_flatten (blocks : List (List Record)) :
    names blocks.flatten = (blocks.map names).flatten :=
  List.map_flatten

/-- Nothing is taken at first: blocks are fresh when each is, and no two of them share a name. -/
lemma fresh_flatten_iff {blocks : List (List Record)} :
    Fresh [] blocks.flatten ↔ (∀ block ∈ blocks, Fresh [] block) ∧ blocks.Pairwise Apart := by
  have hnodup : (names blocks.flatten).Nodup ↔
      (∀ block ∈ blocks, (names block).Nodup) ∧ blocks.Pairwise Apart := by
    rw [names_flatten, List.nodup_flatten, List.forall_mem_map, List.pairwise_map]
    rfl
  constructor
  · rintro ⟨hn, -, hf⟩
    obtain ⟨hblocks, hapart⟩ := hnodup.mp hn
    refine ⟨fun block hb => ⟨hblocks block hb, by simp, fun r hr => ?_⟩, hapart⟩
    exact hf r (List.mem_flatten_of_mem hb hr)
  · rintro ⟨hblocks, hapart⟩
    refine ⟨hnodup.mpr ⟨fun block hb => (hblocks block hb).nodup, hapart⟩, by simp, ?_⟩
    intro r hr
    obtain ⟨block, hb, hr⟩ := List.mem_flatten.mp hr
    exact (hblocks block hb).fields r hr

end Record

namespace Entity

/-- The entity can be built when nothing else is: its types are well-formed, and neither its records
nor the fields of one of them share a name. -/
structure Buildable (o : BuilderOptions) (e : Entity) : Prop where
  shapely : ∀ v ∈ e.kept o, v.type.IsShapely
  fresh : Record.Fresh [] (e.flattening o)

end Entity

namespace RecordBuilder

/-- A run without failures flattens every entity as if it were alone. -/
lemma foldlM_addEntity_flattening {b b' : RecordBuilder} {es : List Entity} :
    es.foldlM addEntity b = .ok b' ↔
      (∀ e ∈ es, ∀ v ∈ e.kept b.options, v.type.IsShapely) ∧
        Record.Fresh b.taken (es.flatMap (·.flattening b.options)) ∧
        b' = { b with
          records := b.records ++ es.flatMap (·.flattening b.options)
          taken := b.taken ++ Record.names (es.flatMap (·.flattening b.options)) } := by
  induction es generalizing b with
  | nil =>
    rw [List.foldlM_nil, pure_eq_ok, eq_comm]
    simp [Record.fresh_nil]
  | cons e es ih =>
    rw [List.foldlM_cons, bind_eq_ok, List.forall_mem_cons, List.flatMap_cons,
      Record.fresh_append_iff]
    simp only [addEntity_eq_ok_iff, ih]
    constructor
    · rintro ⟨_, ⟨he, hfresh, rfl⟩, hes, hfresh', rfl⟩
      refine ⟨⟨he, hes⟩, ⟨hfresh, hfresh'⟩, ?_⟩
      simp
    · rintro ⟨⟨he, hes⟩, ⟨hfresh, hfresh'⟩, rfl⟩
      refine ⟨_, ⟨he, hfresh, rfl⟩, hes, hfresh', ?_⟩
      simp

end RecordBuilder

variable {es es' : List Entity} {ignore : List String} {rs rs' : List Record}

/-- The records of some entities are their flattenings, if these are fresh as a whole. -/
lemma buildRecords_iff_fresh :
    buildRecords es ignore = .ok rs ↔
      (∀ e ∈ es, ∀ v ∈ e.kept { ignore }, v.type.IsShapely) ∧ Record.Fresh [] rs ∧
        rs = es.flatMap (·.flattening { ignore }) := by
  simp only [buildRecords_eq_ok, RecordBuilder.foldlM_addEntity_flattening, List.nil_append]
  constructor
  · rintro ⟨_, ⟨hs, hfresh, rfl⟩, rfl⟩
    exact ⟨hs, hfresh, rfl⟩
  · rintro ⟨hs, hfresh, rfl⟩
    exact ⟨_, ⟨hs, hfresh, rfl⟩, rfl⟩

lemma buildRecords_iff_flattening :
    buildRecords es ignore = .ok rs ↔
      (∀ e ∈ es, e.Buildable { ignore }) ∧
        (es.map (·.flattening { ignore })).Pairwise Record.Apart ∧
        rs = (es.map (·.flattening { ignore })).flatten := by
  rw [buildRecords_iff_fresh, List.flatMap_def]
  constructor
  · rintro ⟨hs, hfresh, rfl⟩
    rw [Record.fresh_flatten_iff, List.forall_mem_map] at hfresh
    exact ⟨fun e he => ⟨hs e he, hfresh.1 e he⟩, hfresh.2, rfl⟩
  · rintro ⟨hes, hapart, rfl⟩
    rw [Record.fresh_flatten_iff, List.forall_mem_map]
    exact ⟨fun e he => (hes e he).shapely, ⟨fun e he => (hes e he).fresh, hapart⟩, rfl⟩

lemma buildRecords_singleton {e : Entity} :
    buildRecords [e] ignore = .ok rs ↔
      e.Buildable { ignore } ∧ rs = e.flattening { ignore } := by
  simp [buildRecords_iff_flattening]

/-- The results of the entities alone are their flattenings. -/
lemma forall₂_buildRecords_iff {blocks : List (List Record)} :
    List.Forall₂ (fun e block => buildRecords [e] ignore = .ok block) es blocks ↔
      (∀ e ∈ es, e.Buildable { ignore }) ∧ blocks = es.map (·.flattening { ignore }) := by
  simp only [buildRecords_singleton]
  induction es generalizing blocks with
  | nil => simp
  | cons e es ih =>
    rw [List.forall₂_cons_left_iff, List.forall_mem_cons, List.map_cons]
    simp only [ih]
    constructor
    · rintro ⟨block, rest, ⟨he, rfl⟩, ⟨hes, rfl⟩, rfl⟩
      exact ⟨⟨he, hes⟩, rfl⟩
    · rintro ⟨⟨he, hes⟩, rfl⟩
      exact ⟨_, _, ⟨he, rfl⟩, ⟨hes, rfl⟩, rfl⟩

lemma exists_buildRecords_iff :
    (∃ rs, buildRecords es ignore = .ok rs) ↔
      (∀ e ∈ es, e.Buildable { ignore }) ∧
        es.Pairwise fun e f =>
          Record.Apart (e.flattening { ignore }) (f.flattening { ignore }) := by
  simp only [buildRecords_iff_flattening, exists_and_left, exists_eq, and_true, List.pairwise_map]

lemma exists_buildRecords_of_perm (h : es.Perm es') :
    (∃ rs, buildRecords es ignore = .ok rs) ↔ ∃ rs', buildRecords es' ignore = .ok rs' := by
  have happly : ∀ e, e ∈ es ↔ e ∈ es' := fun e => h.mem_iff
  rw [exists_buildRecords_iff, exists_buildRecords_iff, h.pairwise_iff Record.Apart.symm]
  simp only [happly]

/-- Entities are built together just when each can be built alone and no two results share a record
name; the records are then the results of the entities one behind the other. In another order the
same entities are built or not built alike, and only their blocks of records change places. -/
theorem buildRecords_eq_blocks (es : List Entity) (ignore : List String) :
    (∀ rs, buildRecords es ignore = .ok rs ↔
      ∃ blocks : List (List Record),
        List.Forall₂ (fun e block => buildRecords [e] ignore = .ok block) es blocks ∧
        blocks.Pairwise (fun rs ss => (Record.names rs).Disjoint (Record.names ss)) ∧
        rs = blocks.flatten) ∧
    ∀ es', es.Perm es' →
      ((∃ rs, buildRecords es ignore = .ok rs) ↔ ∃ rs', buildRecords es' ignore = .ok rs') ∧
      ∀ rs rs', buildRecords es ignore = .ok rs → buildRecords es' ignore = .ok rs' →
        ∃ calls calls' : List (Entity × List Record), calls.Perm calls' ∧
          calls.map Prod.fst = es ∧ calls'.map Prod.fst = es' ∧
          (∀ p ∈ calls, buildRecords [p.1] ignore = .ok p.2) ∧
          rs = calls.flatMap Prod.snd ∧ rs' = calls'.flatMap Prod.snd := by
  constructor
  · intro rs
    rw [buildRecords_iff_flattening]
    simp only [forall₂_buildRecords_iff]
    constructor
    · rintro ⟨hes, hapart, rfl⟩
      exact ⟨_, ⟨hes, rfl⟩, hapart, rfl⟩
    · rintro ⟨_, ⟨hes, rfl⟩, hapart, rfl⟩
      exact ⟨hes, hapart, rfl⟩
  · intro es' hperm
    refine ⟨exists_buildRecords_of_perm hperm, fun rs rs' hrs hrs' => ?_⟩
    obtain ⟨hes, -, rfl⟩ := buildRecords_iff_flattening.mp hrs
    obtain ⟨-, -, rfl⟩ := buildRecords_iff_flattening.mp hrs'
    -- Paired with its flattening, an entity takes its block along to wherever it is moved.
    let call := fun e : Entity => (e, e.flattening { ignore })
    refine ⟨es.map call, es'.map call, hperm.map call, ?_, ?_, ?_, ?_, ?_⟩
    · simp [call, Function.comp_def]
    · simp [call, Function.comp_def]
    · rw [List.forall_mem_map]
      exact fun e he => buildRecords_singleton.mpr ⟨hes e he, rfl⟩
    · rw [List.flatMap_map, List.flatMap_def]
    · rw [List.flatMap_map, List.flatMap_def]

/-- Both entities have an object `config`, but their records are named by their paths. -/
theorem buildRecords_eq_blocks_swap :
    let alpha : Entity := ⟨"alpha", [⟨"config", "", true, .object []⟩]⟩
    let beta : Entity := ⟨"beta", [⟨"config", "", false, .list (.object [])⟩]⟩
    ∃ rs rs', buildRecords [alpha, beta] [] = .ok rs ∧ buildRecords [beta, alpha] [] = .ok rs' ∧
      [alpha, beta].Perm [beta, alpha] ∧
      Record.names rs' = ["Beta", "BetaConfig", "Alpha", "AlphaConfig"] ∧
      ∃ calls calls' : List (Entity × List Record), calls.Perm calls' ∧
        calls.map Prod.fst = [alpha, beta] ∧ calls'.map Prod.fst = [beta, alpha] ∧
        (∀ p ∈ calls, buildRecords [p.1] [] = .ok p.2) ∧
        rs = calls.flatMap Prod.snd ∧ rs' = calls'.flatMap Prod.snd := by
  dsimp only
  refine ⟨_, _, rfl, rfl, .swap _ _ [], ?_, ?_⟩
  · decide +kernel
  · exact ((buildRecords_eq_blocks _ []).2 _ (.swap _ _ [])).2 _ _ rfl rfl

end ModuleBindings
