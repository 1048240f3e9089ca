import ModuleBindings.Module.JsonManifest
import ModuleBindings.Proofs.Independence
import ModuleBindings.Proofs.ParsedTypes
import ModuleBindings.Proofs.StructTags
import ModuleBindings.Proofs.Tokenization

/-!
# Where the keys of tags come from

The key of a field is the name of a variable or of a field of an object. The lexer only reads names
that are plain. Nothing is asked of the name of a variable, so its tags can be read just when it
happens to be plain.
-/

namespace ModuleBindings

namespace Constraint

lemma Reading.isName {source : String} {past rest : List Char} {s : Lexer.Stream}
    (h : Reading source past rest s) : ∀ t ∈ s.tokens, t.kind = .name → IsName t.value := by
  induction h with
  | done hblanks => simp
  | stray hblanks hc => simp
  | lexeme hblanks hword hrest ih =>
    rw [List.forall_mem_cons]
    refine ⟨fun hkind => ?_, ih⟩
    obtain ⟨hne, hchars, -⟩ := hword.of_name hkind
    exact ⟨fun h => hne (by simpa using h), by simpa using hchars⟩

/-- The names of all fields in a tree. -/
def fieldNames (t : Constraint) : List String :=
  t.nodes.flatMap fun u => u.fields.map Field.name

lemma fieldNames_withOptional (flag : Bool) (t : Constraint) :
    (t.withOptional flag).fieldNames = t.fieldNames := by
  cases t
  rfl

lemma map_name_eraseFields (fs : List (Field Constraint)) :
    (eraseFields fs).map Field.name = fs.map Field.name := by
  induction fs with
  | nil => rfl
  | cons f fs ih => rw [eraseFields, List.map_cons, List.map_cons, ih]

lemma fieldNames_erase (t : Constraint) : t.erase.fieldNames = t.fieldNames := by
  have hfields : ∀ u : Constraint, u.erase.fields.map Field.name = u.fields.map Field.name := by
    rintro ⟨name, kind, elem, optional, fs, location⟩
    exact map_name_eraseFields fs
  rw [fieldNames, nodes_erase, List.flatMap_map]
  simp only [hfields]
  rfl

namespace Derivation

mutual

/-- The name of a field is a word of the text. -/
lemma word_mem_symbols : ∀ (d : Derivation), ∀ name ∈ d.tree.fieldNames, .word name ∈ d.symbols
  | optional d => by
    have hd := word_mem_symbols d
    rw [tree, fieldNames_withOptional]
    intro name hname
    simp [symbols, hd name hname]
  | scalar kind hk => by simp [tree, fieldNames, nodes, elemNodes, fieldNodes, Constraint.fields]
  | wrapper kind hk d => by
    have hd := word_mem_symbols d
    intro name hname
    have hname' : name ∈ d.tree.fieldNames := by
      simpa [tree, fieldNames, nodes, elemNodes, fieldNodes, Constraint.fields] using hname
    simp [symbols, hd name hname']
  | object ds => by
    have hds := word_mem_fieldSymbols ds
    intro name hname
    have hname' : name ∈ (fieldTrees ds).map Field.name ++
        (fieldNodes (fieldTrees ds)).flatMap fun u => u.fields.map Field.name := by
      simpa [tree, fieldNames, nodes, elemNodes, Constraint.fields] using hname
    simp [symbols, hds name hname']

lemma word_mem_fieldSymbols : ∀ (ds : List (String × Derivation)),
    ∀ name ∈ (fieldTrees ds).map Field.name ++
      (fieldNodes (fieldTrees ds)).flatMap (fun u => u.fields.map Field.name),
    .word name ∈ fieldSymbols ds
  | [] => by simp [fieldTrees, fieldNodes]
  | (field, d) :: ds => by
    have hd := word_mem_symbols d
    have hds := word_mem_fieldSymbols ds
    intro name hname
    have hname' : name = field ∨ name ∈ d.tree.fieldNames ∨
        name ∈ (fieldTrees ds).map Field.name ++
          (fieldNodes (fieldTrees ds)).flatMap (fun u => u.fields.map Field.name) := by
      simpa [fieldTrees, fieldNodes, fieldNames, or_left_comm] using hname
    rw [fieldSymbols]
    rcases hname' with rfl | hname | hname
    · exact List.mem_cons_self
    · simp [hd name hname]
    · simp [hds name hname]

end

end Derivation

/-- What is parsed only has names that the lexer reads. -/
lemma isName_of_mem_fieldNames {src : Source} {t : Constraint} (h : parse src = .ok t) :
    ∀ name ∈ t.fieldNames, IsName name := by
  obtain ⟨-, d, hsymbols, -, hd⟩ := Parser.parseStream_iff_derivation.mp ⟨t, h, rfl⟩
  intro name hname
  rw [← fieldNames_erase, ← hd] at hname
  have hword := d.word_mem_symbols name hname
  rw [← hsymbols] at hword
  obtain ⟨token, htoken, hsymbol⟩ := List.mem_map.mp hword
  obtain ⟨hkind, rfl⟩ := Token.symbol_eq_word_iff.mp hsymbol
  exact (reading_stream _ [] _).isName token htoken hkind

mutual

lemma exists_node_of_mem_objects : ∀ (t : Constraint), ∀ n ∈ t.objects, ∃ u ∈ t.nodes,
    u.fields = n.fields
  | node name kind elem opt fs location => by
    have helem := exists_node_of_mem_elemObjects elem
    have hfields := exists_node_of_mem_fieldObjects fs
    intro n hn
    rw [objects, List.mem_append, List.mem_append] at hn
    rw [nodes]
    rcases hn with (hself | hn) | hn
    · split_ifs at hself
      · rw [List.mem_singleton] at hself
        exact ⟨_, List.mem_cons_self, by rw [hself]; rfl⟩
      · cases hself
    · obtain ⟨u, hu, h⟩ := helem n hn
      exact ⟨u, List.mem_cons_of_mem _ (List.mem_append_left _ hu), h⟩
    · obtain ⟨u, hu, h⟩ := hfields n hn
      exact ⟨u, List.mem_cons_of_mem _ (List.mem_append_right _ hu), h⟩

lemma exists_node_of_mem_elemObjects : ∀ (elem : Option Constraint), ∀ n ∈ elemObjects elem,
    ∃ u ∈ elemNodes elem, u.fields = n.fields
  | none => by simp [elemObjects]
  | some t => exists_node_of_mem_objects t

lemma exists_node_of_mem_fieldObjects : ∀ (fs : List (Field Constraint)),
    ∀ n ∈ fieldObjects fs, ∃ u ∈ fieldNodes fs, u.fields = n.fields
  | [] => by simp [fieldObjects]
  | ⟨_, _, t⟩ :: fs => by
    have ht := exists_node_of_mem_objects t
    have hfs := exists_node_of_mem_fieldObjects fs
    intro n hn
    rw [fieldObjects, List.mem_append, List.mem_map] at hn
    rw [fieldNodes]
    rcases hn with ⟨n, hn, rfl⟩ | hn
    · obtain ⟨u, hu, h⟩ := ht n hn
      exact ⟨u, List.mem_append_left _ hu, h⟩
    · obtain ⟨u, hu, h⟩ := hfs n hn
      exact ⟨u, List.mem_append_right _ hu, h⟩

end

lemma isName_of_mem_objects {src : Source} {t : Constraint} (h : parse src = .ok t)
    {n : ObjectNode} (hn : n ∈ t.objects) : ∀ f ∈ n.fields, IsName f.name := by
  intro f hf
  obtain ⟨u, hu, hfields⟩ := exists_node_of_mem_objects t n hn
  refine isName_of_mem_fieldNames h f.name (List.mem_flatMap.mpr ⟨u, hu, ?_⟩)
  rw [hfields]
  exact List.mem_map_of_mem hf

end Constraint

open Constraint (IsName)

/-- The fields of the records of an entity: those for its variables and those for names in their
types. -/
lemma Entity.tags_of_mem_flattening {e : Entity} {o : BuilderOptions} (he : e.IsParsed)
    {r : Record} (hr : r ∈ e.flattening o) {f : Record.Field} (hf : f ∈ r.fields) :
    (∃ v ∈ e.vars, r.name = Text.pascal e.name ∧ f.name = Text.pascal v.name ∧
      f.tags = Tags.uniform o.topLevelFormats v.name) ∨
    ∃ key, IsName key ∧ f.name = Text.pascal key ∧ f.tags = Tags.uniform o.nestedFormats key := by
  rcases field_of_mem_flattening hr hf with ⟨v, hv, hrecord, rfl⟩ | ⟨n, hn, field, hfield, rfl⟩
  · exact .inl ⟨v, List.mem_of_mem_filter hv, hrecord, rfl, rfl⟩
  · obtain ⟨v, hv, hn⟩ := List.mem_flatMap.mp hn
    obtain ⟨object, hobject, rfl⟩ := List.mem_map.mp hn
    obtain ⟨src, hsrc⟩ := he v (List.mem_of_mem_filter hv)
    have hname := Constraint.isName_of_mem_objects hsrc hobject field hfield
    exact .inr ⟨field.name, hname, rfl, rfl⟩

lemma Go.isReadable_uniform_iff {formats : List String} (hne : formats ≠ [])
    (hformats : ∀ format ∈ formats, IsFormat format) (key : String) :
    IsReadable (Tags.uniform formats key) ↔ IsPlain key := by
  have hmem : ∀ p, p ∈ Tags.uniform formats key ↔ p.1 ∈ formats ∧ p.2 = key := by
    rintro ⟨format, key'⟩
    simp [Tags.uniform, eq_comm]
  rw [isReadable_iff fun p hp => hformats p.1 ((hmem p).mp hp).1]
  constructor
  · intro h
    obtain ⟨format, hformat⟩ := List.exists_mem_of_ne_nil formats hne
    exact h (format, key) ((hmem _).mpr ⟨hformat, rfl⟩)
  · intro h p hp
    rwa [((hmem p).mp hp).2]

lemma Module.entity_eq_ok {m : Module} {e : Entity} (h : m.entity = .ok e) :
    e.name = m.name ∧ ∀ v ∈ e.vars, ∃ declared ∈ m.vars, v.name = declared.name ∧
      Constraint.parse declared.source = .ok v.type := by
  obtain ⟨vars, hvars, h⟩ := Proofs.bind_eq_ok.mp h
  obtain rfl := Proofs.pure_eq_ok.mp h
  refine ⟨rfl, fun v hv => ?_⟩
  obtain ⟨declared, hdeclared, h⟩ := Proofs.exists_of_mem_mapM hvars v hv
  obtain ⟨t, ht, h⟩ := Proofs.bind_eq_ok.mp h
  obtain rfl := Proofs.pure_eq_ok.mp h
  exact ⟨declared, hdeclared, rfl, ht⟩

/-- Every field of the records of some modules comes from a variable or from a name in a type. The
tags of the latter can be read, those of the former just when the name of the variable is plain. -/
theorem tags_isReadable_iff {modules : List Module} {es : List Entity} {ignore : List String}
    {rs : List Record} (hes : modules.mapM Module.entity = .ok es)
    (hrs : buildRecords es ignore = .ok rs) {r : Record} (hr : r ∈ rs) {f : Record.Field}
    (hf : f ∈ r.fields) :
    (∃ m ∈ modules, ∃ v ∈ m.vars, r.name = Text.pascal m.name ∧ f.name = Text.pascal v.name ∧
      f.tags = [("json", v.name), ("yaml", v.name), ("hcl", v.name)] ∧
      (Go.IsReadable f.tags ↔ Go.IsPlain v.name)) ∨
    ∃ key, IsName key ∧ f.name = Text.pascal key ∧
      f.tags = [("json", key), ("yaml", key), ("cty", key)] ∧ Go.IsReadable f.tags := by
  obtain ⟨-, -, rfl⟩ := buildRecords_iff_flattening.mp hrs
  obtain ⟨_, hblock, hr⟩ := List.mem_flatten.mp hr
  obtain ⟨e, he, rfl⟩ := List.mem_map.mp hblock
  obtain ⟨m, hm, hentity⟩ := Proofs.exists_of_mem_mapM hes e he
  obtain ⟨hname, hvars⟩ := Module.entity_eq_ok hentity
  have hparsed : e.IsParsed := fun v hv =>
    let ⟨declared, _, _, ht⟩ := hvars v hv
    ⟨declared.source, ht⟩
  have htop : ∀ format ∈ ["json", "yaml", "hcl"], Go.IsFormat format := by decide
  have hnested : ∀ format ∈ ["json", "yaml", "cty"], Go.IsFormat format := by decide
  rcases Entity.tags_of_mem_flattening hparsed hr hf with ⟨v, hv, hrecord, hfield, htags⟩ |
    ⟨key, hkey, hfield, htags⟩
  · obtain ⟨declared, hdeclared, hvar, -⟩ := hvars v hv
    rw [hname] at hrecord
    rw [hvar] at hfield htags
    refine .inl ⟨m, hm, declared, hdeclared, hrecord, hfield, by rw [htags]; rfl, ?_⟩
    rw [htags]
    exact Go.isReadable_uniform_iff (by simp) htop declared.name
  · refine .inr ⟨key, hkey, hfield, by rw [htags]; rfl, ?_⟩
    rw [htags]
    exact (Go.isReadable_uniform_iff (by simp) hnested key).mpr (Go.isPlain_of_isName hkey)

/-- A module with one variable, a list of objects. -/
def rulesModule : Module :=
  ⟨"net", [⟨"rules", ⟨"net.rules", "list(object(\x7b id = string \x7d))"⟩, "", true⟩]⟩

theorem tags_isReadable_iff_rules :
    ∃ es rs, [rulesModule].mapM Module.entity = .ok es ∧ buildRecords es [] = .ok rs ∧
      rs.map Record.name = ["Net", "NetRules"] ∧
      ∀ r ∈ rs, ∀ f ∈ r.fields, Go.IsReadable f.tags := by
  let id : Constraint := .node "string" .string none false [] (some ⟨"net.rules", 19, 25, 1, 20⟩)
  let object : Constraint := .node "object" .object none false
    [⟨"id", some ⟨"net.rules", 14, 16, 1, 15⟩, id⟩] (some ⟨"net.rules", 5, 11, 1, 6⟩)
  let e : Entity := ⟨"net", [⟨"rules", "", true,
    .node "list" .list (some object) false [] (some ⟨"net.rules", 0, 4, 1, 1⟩)⟩]⟩
  let rs : List Record :=
    [⟨"Net", [⟨"Rules", "", .list (.record "NetRules"),
      [("json", "rules"), ("yaml", "rules"), ("hcl", "rules")]⟩]⟩,
    ⟨"NetRules", [⟨"Id", "", .primitive .string,
      [("json", "id"), ("yaml", "id"), ("cty", "id")]⟩]⟩]
  have hes : [rulesModule].mapM Module.entity = .ok [e] := by
    unfold rulesModule
    cbv
  have hrs : buildRecords [e] [] = .ok rs := by
    cbv
  refine ⟨_, rs, hes, hrs, rfl, fun r hr f hf => ?_⟩
  rcases tags_isReadable_iff hes hrs hr hf with ⟨m, hm, v, hv, -, -, -, hiff⟩ | ⟨-, -, -, -, h⟩
  · obtain rfl := List.mem_singleton.mp hm
    obtain rfl := List.mem_singleton.mp hv
    exact hiff.mpr (by decide)
  · exact h

lemma buildRecords_of_scalar {entity : String} {v : Variable} (hshapely : v.type.IsShapely)
    (hobjects : v.type.objects = []) :
    buildRecords [⟨entity, [v]⟩] [] = .ok [⟨Text.pascal entity,
      [Record.variableField ["json", "yaml", "hcl"] entity v]⟩] := by
  have hkept : (⟨entity, [v]⟩ : Entity).kept {} = [v] := by
    simp [Entity.kept, BuilderOptions.ignores]
  have hflattening : (⟨entity, [v]⟩ : Entity).flattening {} =
      [⟨Text.pascal entity, [Record.variableField ["json", "yaml", "hcl"] entity v]⟩] := by
    simp [Entity.flattening, Entity.objects, hkept, hobjects]
  rw [buildRecords_singleton, hflattening]
  refine ⟨⟨?_, ?_⟩, rfl⟩
  · rw [hkept, List.forall_mem_singleton]
    exact hshapely
  · rw [hflattening]
    exact ⟨by simp, by simp, by simp⟩

/-- A manifest with a variable that has a quotation mark in its name. -/
def quotedManifest : String :=
  "\x7b\"variables\": \x7b\"a\\\"b\": \x7b\"type\": \"string\"\x7d\x7d\x7d"

lemma ofText_quotedManifest :
    JsonManifest.ofText quotedManifest =
      .ok ⟨none, [("a\"b", ⟨some "string", "", false, none⟩)]⟩ := by
  unfold quotedManifest
  cbv

/-- Not all names of variables are plain. -/
theorem exists_not_isReadable :
    ∃ manifest es rs, JsonManifest.ofText quotedManifest = .ok manifest ∧
      [manifest.toModule "m"].mapM Module.entity = .ok es ∧ buildRecords es [] = .ok rs ∧
      ∃ r ∈ rs, ∃ f ∈ r.fields, ¬ Go.IsReadable f.tags := by
  let v : Variable :=
    ⟨"a\"b", "", true, .node "string" .string none false [] (some ⟨"m.a\"b", 0, 6, 1, 1⟩)⟩
  have hentity : [(⟨"m", [⟨"a\"b", ⟨"m.a\"b", "string"⟩, "", true⟩]⟩ : Module)].mapM
      Module.entity = .ok [⟨"m", [v]⟩] := by
    cbv
  have hshapely : v.type.IsShapely := Constraint.isShapely_scalar rfl |>.mpr ⟨rfl, rfl⟩
  have hunread : ¬ Go.IsReadable (Record.variableField ["json", "yaml", "hcl"] "m" v).tags := by
    rw [Record.variableField, Go.isReadable_uniform_iff (by simp) (by decide)]
    decide
  exact ⟨_, _, _, ofText_quotedManifest, hentity, buildRecords_of_scalar hshapely rfl,
    _, List.mem_singleton_self _, _, List.mem_singleton_self _, hunread⟩

end ModuleBindings
