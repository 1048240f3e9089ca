import ModuleBindings.Proofs.Flattening

/-!
# Runs of a record builder

A builder is offered one entity after another and keeps or refuses each of them as a whole.
-/

namespace ModuleBindings.RecordBuilder

variable {b b' : RecordBuilder} {e : Entity}

/-- The builder after some entities were offered to it, one after another. -/
def offerAll (b : RecordBuilder) (es : List Entity) : RecordBuilder :=
  es.foldl offer b

/-- What each of some entities adds to the records when they are offered one after another. -/
def batches (b : RecordBuilder) : List Entity → List (Entity × List Record)
  | [] => []
  | e :: es => (e, (b.offer e).records.drop b.records.length) :: (b.offer e).batches es

/-- Exactly the records of the flattening are held behind those that were there. -/
theorem addEntity_appends_flattening (h : b.addEntity e = .ok b') :
    b'.options = b.options ∧ b'.records = b.records ++ e.flattening b.options := by
  obtain ⟨-, -, rfl⟩ := addEntity_eq_ok_iff.mp h
  exact ⟨rfl, rfl⟩

/-- An object behind a list, another one behind a field of it, and a variable that is ignored. -/
theorem addEntity_appends_flattening_listeners :
    ∃ b', addEntity ⟨{ ignore := ["ID"] }, [⟨"Held", []⟩], ["Held"]⟩ ⟨"web_server",
        [⟨"id", "", true, .scalar "any" .any⟩,
          ⟨"listeners", "Where to listen.", true, .list (.object
            [⟨"port", none, .scalar "number" .number⟩,
              ⟨"tls", none, (Constraint.object []).withOptional true⟩])⟩]⟩ = .ok b' ∧
      b'.records =
        [⟨"Held", []⟩,
          ⟨"WebServer", [⟨"Listeners", "Where to listen.", .list (.record "WebServerListeners"),
            [("json", "listeners"), ("yaml", "listeners"), ("hcl", "listeners")]⟩]⟩,
          ⟨"WebServerListeners",
            [⟨"Port", "", .primitive .string,
                [("json", "port"), ("yaml", "port"), ("cty", "port")]⟩,
              ⟨"Tls", "", .nullable (.record "WebServerListenersTls"),
                [("json", "tls"), ("yaml", "tls"), ("cty", "tls")]⟩]⟩,
          ⟨"WebServerListenersTls", []⟩] := by
  refine Exists.imp (fun b' h => ⟨h, ?_⟩) ⟨_, rfl⟩
  rw [(addEntity_appends_flattening h).2]
  decide +kernel

/-- A call succeeds and leads to the next builder, or it fails and the builder stays as it was. -/
lemma addEntity_eq_ok_or (b : RecordBuilder) (e : Entity) :
    b.addEntity e = .ok (b.offer e) ∨ (∃ err, b.addEntity e = .error err) ∧ b.offer e = b := by
  unfold offer
  cases b.addEntity e with
  | error err => exact .inr ⟨⟨err, rfl⟩, rfl⟩
  | ok b' => exact .inl rfl

lemma offer_of_ok (h : b.addEntity e = .ok b') : b.offer e = b' := by
  unfold offer
  rw [h]

lemma offer_of_error {err : BuildError} (h : b.addEntity e = .error err) : b.offer e = b := by
  unfold offer
  rw [h]

lemma offer_options (b : RecordBuilder) (e : Entity) : (b.offer e).options = b.options := by
  rcases b.addEntity_eq_ok_or e with h | ⟨-, h⟩
  · obtain ⟨-, -, h⟩ := addEntity_eq_ok_iff.mp h
    rw [h]
  · rw [h]

/-- An entity adds nothing, or its types are well-formed and it adds its flattening. -/
lemma offer_records (b : RecordBuilder) (e : Entity) :
    (b.offer e).records = b.records ∨
      (∀ v ∈ e.kept b.options, v.type.IsShapely) ∧
        (b.offer e).records = b.records ++ e.flattening b.options := by
  rcases b.addEntity_eq_ok_or e with h | ⟨-, h⟩
  · obtain ⟨hs, -, h⟩ := addEntity_eq_ok_iff.mp h
    rw [h]
    exact .inr ⟨hs, rfl⟩
  · rw [h]
    exact .inl rfl

lemma offerAll_cons (b : RecordBuilder) (e : Entity) (es : List Entity) :
    b.offerAll (e :: es) = (b.offer e).offerAll es := rfl

/-- No two records share a name, and just the names of records are taken. -/
structure Consistent (b : RecordBuilder) : Prop where
  nodup : (Record.names b.records).Nodup
  taken : ∀ n, n ∈ b.taken ↔ n ∈ Record.names b.records

lemma consistent_empty (o : BuilderOptions) : Consistent { options := o } :=
  ⟨List.nodup_nil, fun _ => Iff.rfl⟩

lemma Consistent.addEntity (hb : b.Consistent) (h : b.addEntity e = .ok b') : b'.Consistent := by
  obtain ⟨-, hfresh, rfl⟩ := addEntity_eq_ok_iff.mp h
  constructor
  · rw [Record.names_append]
    refine hb.nodup.append hfresh.nodup ?_
    intro n hn hnew
    exact hfresh.disjoint n hnew ((hb.taken n).mpr hn)
  · intro n
    rw [Record.names_append, List.mem_append, List.mem_append, hb.taken n]

lemma Consistent.offer (hb : b.Consistent) (e : Entity) : (b.offer e).Consistent := by
  rcases b.addEntity_eq_ok_or e with h | ⟨-, h⟩
  · exact hb.addEntity h
  · rw [h]
    exact hb

lemma Consistent.offerAll (hb : b.Consistent) (es : List Entity) :
    (b.offerAll es).Consistent := by
  induction es generalizing b with
  | nil => exact hb
  | cons e es ih => exact ih (hb.offer e)

/-- Record names stay distinct whatever is offered, and just these names are taken. -/
theorem offerAll_names_nodup (o : BuilderOptions) (es : List Entity) :
    let b := offerAll { options := o } es
    (Record.names b.records).Nodup ∧ ∀ n, n ∈ b.taken ↔ n ∈ Record.names b.records := by
  have hb := (consistent_empty o).offerAll es
  exact ⟨hb.nodup, hb.taken⟩

lemma drop_offer_records (b : RecordBuilder) (e : Entity) :
    b.records ++ (b.offer e).records.drop b.records.length = (b.offer e).records := by
  rcases b.offer_records e with h | ⟨-, h⟩
  · rw [h, List.drop_length, List.append_nil]
  · rw [h, List.drop_left]

lemma map_fst_batches (b : RecordBuilder) (es : List Entity) :
    (b.batches es).map Prod.fst = es := by
  induction es generalizing b with
  | nil => rfl
  | cons e es ih => rw [batches, List.map_cons, ih]

/-- The records are those of all batches in their order. -/
lemma offerAll_records (b : RecordBuilder) (es : List Entity) :
    (b.offerAll es).records = b.records ++ (b.batches es).flatMap Prod.snd := by
  induction es generalizing b with
  | nil => rw [batches, List.flatMap_nil, List.append_nil, offerAll, List.foldl_nil]
  | cons e es ih =>
    rw [offerAll_cons, ih, batches, List.flatMap_cons, ← List.append_assoc, drop_offer_records]

lemma eq_nil_or_flattening_of_mem_batches {es : List Entity} {p : Entity × List Record}
    (hp : p ∈ b.batches es) :
    p.2 = [] ∨ (∀ v ∈ p.1.kept b.options, v.type.IsShapely) ∧ p.2 = p.1.flattening b.options := by
  induction es generalizing b with
  | nil => simp [batches] at hp
  | cons e es ih =>
    rw [batches, List.mem_cons] at hp
    rcases hp with rfl | hp
    · rcases b.offer_records e with h | ⟨hs, h⟩
      · exact .inl (by rw [h, List.drop_length])
      · exact .inr ⟨hs, by rw [h, List.drop_left]⟩
    · rw [← b.offer_options e]
      exact ih hp

end ModuleBindings.RecordBuilder
