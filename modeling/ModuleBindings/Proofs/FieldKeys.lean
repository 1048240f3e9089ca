import ModuleBindings.Proofs.BuilderRuns

/-!
# Names and keys within a record

All tags of a field carry one key, and the name of the field is that key in Pascal case. No two
fields of a record share a name, so they share no key in any format.
-/

namespace ModuleBindings

lemma Tags.eq_of_mem_uniform {formats : List String} {key : String} {tag : String × String}
    (h : tag ∈ uniform formats key) : tag.2 = key := by
  obtain ⟨format, -, rfl⟩ := List.mem_map.mp h
  rfl

namespace Record

/-- The tags of the field carry one key, which the field is named after. -/
def Field.IsNamedByKey (f : Field) : Prop :=
  ∃ key, Text.pascal key = f.name ∧ ∀ tag ∈ f.tags, tag.2 = key

lemma Field.IsNamedByKey.pascal_of_mem {f : Field} (h : f.IsNamedByKey) {tag : String × String}
    (htag : tag ∈ f.tags) : Text.pascal tag.2 = f.name := by
  obtain ⟨key, hname, htags⟩ := h
  rw [htags tag htag]
  exact hname

/-- The fields have names of their own, each after the key that its tags carry. -/
structure IsKeyed (r : Record) : Prop where
  nodup : (r.fields.map Field.name).Nodup
  named : ∀ f ∈ r.fields, f.IsNamedByKey

/-- A key leads back to the name of its field, so fields that shared a key would share a name. -/
lemma IsKeyed.pairwise_disjoint_tags {r : Record} (h : r.IsKeyed) :
    r.fields.Pairwise fun f g => f.tags.Disjoint g.tags := by
  have hnames : r.fields.Pairwise fun f g => f.name ≠ g.name := List.pairwise_map.mp h.nodup
  refine hnames.imp_of_mem fun {f g} hf hg hne tag htf htg => hne ?_
  calc f.name = Text.pascal tag.2 := ((h.named f hf).pascal_of_mem htf).symm
    _ = g.name := (h.named g hg).pascal_of_mem htg

end Record

lemma Entity.isNamedByKey_of_mem_flattening {e : Entity} {o : BuilderOptions} {r : Record}
    (hr : r ∈ e.flattening o) : ∀ f ∈ r.fields, f.IsNamedByKey := by
  intro f hf
  rcases field_of_mem_flattening hr hf with ⟨v, -, -, rfl⟩ | ⟨n, -, field, -, rfl⟩
  · exact ⟨v.name, rfl, fun tag htag => Tags.eq_of_mem_uniform htag⟩
  · exact ⟨field.name, rfl, fun tag htag => Tags.eq_of_mem_uniform htag⟩

namespace RecordBuilder

variable {b : RecordBuilder}

lemma offer_isKeyed (h : ∀ r ∈ b.records, r.IsKeyed) (e : Entity) :
    ∀ r ∈ (b.offer e).records, r.IsKeyed := by
  rcases b.addEntity_eq_ok_or e with hok | ⟨-, hfailed⟩
  · obtain ⟨-, hfresh, hoffer⟩ := addEntity_eq_ok_iff.mp hok
    rw [hoffer, List.forall_mem_append]
    refine ⟨h, fun r hr => ?_⟩
    exact ⟨hfresh.fields r hr, Entity.isNamedByKey_of_mem_flattening hr⟩
  · rw [hfailed]
    exact h

lemma offerAll_isKeyed (h : ∀ r ∈ b.records, r.IsKeyed) (es : List Entity) :
    ∀ r ∈ (b.offerAll es).records, r.IsKeyed := by
  induction es generalizing b with
  | nil => exact h
  | cons e es ih => exact ih (offer_isKeyed h e)

/-- Whatever is offered, the fields of each record that is held have names of their own, every tag
of a field carries the one key that the field is named after, and no two fields carry the same key
in the same format. -/
theorem offerAll_keys_distinct (o : BuilderOptions) (es : List Entity) :
    ∀ r ∈ (offerAll { options := o } es).records,
      (r.fields.map Record.Field.name).Nodup ∧
      (∀ f ∈ r.fields, ∃ key, Text.pascal key = f.name ∧ ∀ tag ∈ f.tags, tag.2 = key) ∧
      r.fields.Pairwise fun f g =>
        ∀ format key, (format, key) ∈ f.tags → (format, key) ∉ g.tags := by
  intro r hr
  have hempty : ∀ r ∈ ({ options := o } : RecordBuilder).records, r.IsKeyed := by simp
  have hkeyed := offerAll_isKeyed hempty es r hr
  refine ⟨hkeyed.nodup, hkeyed.named, ?_⟩
  exact hkeyed.pairwise_disjoint_tags.imp fun hdisjoint format key hf hg => hdisjoint hf hg

/-- `a_b` and `aB` would both be named `AB`, so an entity with both is refused. One with `a-b` and
`c` is held. -/
theorem offerAll_keys_distinct_refused :
    let any : Constraint := .scalar "any" .any
    let es : List Entity := [⟨"m", [⟨"a_b", "", true, any⟩, ⟨"aB", "", true, any⟩]⟩,
      ⟨"m", [⟨"a-b", "", true, any⟩, ⟨"c", "", true, any⟩]⟩]
    let r : Record := ⟨"M",
      [⟨"AB", "", .primitive .any, [("json", "a-b"), ("yaml", "a-b"), ("hcl", "a-b")]⟩,
        ⟨"C", "", .primitive .any, [("json", "c"), ("yaml", "c"), ("hcl", "c")]⟩]⟩
    (offerAll { options := {} } es).records = [r] ∧
      (∀ f ∈ r.fields, ∃ key, Text.pascal key = f.name ∧ ∀ tag ∈ f.tags, tag.2 = key) ∧
      r.fields.Pairwise fun f g =>
        ∀ format key, (format, key) ∈ f.tags → (format, key) ∉ g.tags := by
  intro any es r
  have hrecords : (offerAll { options := {} } es).records = [r] := by
    decide +kernel
  have hmem : r ∈ (offerAll { options := {} } es).records := by
    rw [hrecords]
    exact List.mem_singleton_self r
  exact ⟨hrecords, (offerAll_keys_distinct {} es r hmem).2⟩

end RecordBuilder

end ModuleBindings
