import ModuleBindings.Proofs.Except
import ModuleBindings.Proofs.Grammar

/-!
# The parser and the grammar

What the parser accepts is what the grammar derives within the bounds, and what it answers is the
tree of the derivation. `typeAt_optional_iff` and the lemmas beside it open the parser, once for
each way to write a type; the two inductions read them in the two directions.
-/

namespace ModuleBindings.Constraint

open Proofs

namespace Keyword

/-- The name that a keyword is written with. -/
def spelling : Keyword → String
  | optional => "optional"
  | scalar kind | wrapper kind => kind.keyword
  | object => "object"

/-- The kind of a keyword fits what it says about the rest of the type. -/
def IsProper : Keyword → Prop
  | scalar kind => kind.isScalar = true
  | wrapper kind => kind.wraps = true
  | optional | object => True

lemma ofName?_eq_some_iff {name : String} {k : Keyword} :
    ofName? name = some k ↔ name = k.spelling ∧ k.IsProper := by
  constructor
  · intro h
    unfold ofName? at h
    repeat' split at h
    all_goals first
      | contradiction
      | (obtain rfl := Option.some.inj h
         subst_vars
         exact ⟨rfl, by simp [IsProper, Kind.isScalar, Kind.wraps]⟩)
  · rintro ⟨rfl, hk⟩
    cases k with
    | optional => rfl
    | object => rfl
    | scalar kind => cases kind <;> first | rfl | cases hk
    | wrapper kind => cases kind <;> first | rfl | cases hk

lemma ofToken?_eq_some_iff {t : Token} {k : Keyword} :
    ofToken? t = some k ↔ t.symbol = .word k.spelling ∧ k.IsProper := by
  unfold ofToken? Token.symbol
  by_cases ht : t.kind = .name
  · simp only [if_pos ht, ofName?_eq_some_iff, Symbol.word.injEq]
  · simp [if_neg ht]

lemma value_of_ofToken? {t : Token} {k : Keyword} (h : ofToken? t = some k) :
    t.value = k.spelling :=
  (Token.symbol_eq_word_iff.mp (ofToken?_eq_some_iff.mp h).1).2

end Keyword

namespace Parser

/-- A type may begin at that level. -/
def Bounds.Admits (b : Bounds) (level : Nat) : Prop :=
  ∀ l ∈ b.limit, level ≤ l

lemma Bounds.tooDeep_eq_false {b : Bounds} {level : Nat} :
    b.tooDeep level = false ↔ b.Admits level := by
  unfold tooDeep Admits
  cases b.limit <;> simp

lemma Bounds.Admits.mono {b : Bounds} {m n : Nat} (h : b.Admits n) (hmn : m ≤ n) : b.Admits m :=
  fun l hl => Nat.le_trans hmn (h l hl)

lemma Bounds.Admits.max {b : Bounds} {m n : Nat} (hm : b.Admits m) (hn : b.Admits n) :
    b.Admits (max m n) :=
  fun l hl => Nat.max_le.mpr ⟨hm l hl, hn l hl⟩

lemma expect_eq_ok_iff {b : Bounds} {kind : TokenKind} (hk : kind ≠ .name) {ts : List Token}
    {r : ProperRest ts} :
    expect b kind ts = .ok r ↔ ∃ t, ts = t :: r.val ∧ t.symbol = .mark kind := by
  obtain ⟨rest, hr⟩ := r
  cases ts with
  | nil => simp [expect]
  | cons t ts =>
    by_cases ht : t.kind = kind
    · have hs : t.symbol = .mark kind := (Token.symbol_eq_mark_iff hk).mpr ht
      simp only [expect, if_pos ht, Except.ok.injEq, Subtype.mk.injEq, List.cons.injEq]
      constructor
      · intro h
        exact ⟨t, ⟨rfl, h⟩, hs⟩
      · rintro ⟨_, ⟨-, h⟩, -⟩
        exact h
    · simp [expect, Token.symbol_eq_mark_iff hk, ht]

section Steps

variable {b : Bounds} {depth : Nat} {flagged : Bool} {t : Token} {ts : List Token}
  {u : Constraint} {r : ProperRest (t :: ts)}

lemma typeAt_scalar_iff {kind : Kind} (hd : b.tooDeep depth = false)
    (hk : Keyword.ofToken? t = some (.scalar kind)) :
    typeAt b depth flagged (t :: ts) = .ok (u, r) ↔
      u = node t.value kind none flagged [] (some t.location) ∧ r.val = ts := by
  obtain ⟨rest, hrest⟩ := r
  simp only [typeAt, hd, hk, Bool.false_eq_true, if_false, Except.ok.injEq, Prod.mk.injEq,
    Subtype.mk.injEq, eq_comm]

/-- A type in parentheses is read at that level, and `rest` is what stands behind them. -/
def Enclosed (b : Bounds) (depth : Nat) (flagged : Bool) (ts : List Token) (v : Constraint)
    (rest : List Token) : Prop :=
  ∃ (left right : Token) (inner : List Token) (r : ProperRest inner),
    ts = left :: inner ∧ left.symbol = .mark .parenL ∧
      typeAt b depth flagged inner = .ok (v, r) ∧
      r.val = right :: rest ∧ right.symbol = .mark .parenR

lemma length_lt_cons_of_lt {r₁ r₂ r₃ : List Token} (h₁ : r₁.length < ts.length)
    (h₂ : r₂.length < r₁.length) (h₃ : r₃.length < r₂.length) : r₃.length < (t :: ts).length := by
  rw [List.length_cons]
  omega

-- Both `optional` and the wrappers read a type in parentheses and make something of it.
lemma enclosed_iff (f : Constraint → Constraint) :
    (do
      let ⟨r₁, h₁⟩ ← expect b .parenL ts
      let (v, ⟨r₂, h₂⟩) ← typeAt b depth flagged r₁
      let ⟨r₃, h₃⟩ ← expect b .parenR r₂
      return (f v, (⟨r₃, length_lt_cons_of_lt h₁ h₂ h₃⟩ : ProperRest (t :: ts)))) = .ok (u, r) ↔
      ∃ v, Enclosed b depth flagged ts v r.val ∧ u = f v := by
  obtain ⟨rest, hrest⟩ := r
  simp (disch := decide) only [bind_eq_ok, pure_eq_ok, expect_eq_ok_iff, Prod.mk.injEq,
    Subtype.mk.injEq]
  constructor
  · rintro ⟨⟨inner, _⟩, ⟨left, hts, hl⟩, ⟨v, r'⟩, hv, _, ⟨right, hr', hr⟩, rfl, rfl⟩
    exact ⟨v, ⟨left, right, inner, r', hts, hl, hv, hr', hr⟩, rfl⟩
  · rintro ⟨v, ⟨left, right, inner, r', rfl, hl, hv, hr', hr⟩, rfl⟩
    exact ⟨⟨inner, by simp⟩, ⟨left, rfl, hl⟩, (v, r'), hv, ⟨rest, by simp [hr']⟩,
      ⟨right, hr', hr⟩, rfl, rfl⟩

lemma typeAt_optional_iff (hd : b.tooDeep depth = false)
    (hk : Keyword.ofToken? t = some .optional) :
    typeAt b depth flagged (t :: ts) = .ok (u, r) ↔
      Enclosed b (depth + 1) true ts u r.val := by
  simp only [typeAt, hd, hk, Bool.false_eq_true, if_false]
  rw [enclosed_iff fun v => v]
  simp

lemma typeAt_wrapper_iff {kind : Kind} (hd : b.tooDeep depth = false)
    (hk : Keyword.ofToken? t = some (.wrapper kind)) :
    typeAt b depth flagged (t :: ts) = .ok (u, r) ↔
      ∃ v, Enclosed b (depth + 1) false ts v r.val ∧
        u = node kind.keyword kind (some v) flagged [] (some t.location) := by
  simp only [typeAt, hd, hk, Bool.false_eq_true, if_false]
  exact enclosed_iff fun v => node kind.keyword kind (some v) flagged [] (some t.location)

lemma typeAt_object_iff (hd : b.tooDeep depth = false)
    (hk : Keyword.ofToken? t = some .object) :
    typeAt b depth flagged (t :: ts) = .ok (u, r) ↔
      ∃ (left brace right : Token) (inner : List Token) (fs : List (Field Constraint))
        (r' : ProperRest inner),
        ts = left :: brace :: inner ∧ left.symbol = .mark .parenL ∧
        brace.symbol = .mark .braceL ∧ fieldsAt b depth inner = .ok (fs, r') ∧
        r'.val = right :: r.val ∧ right.symbol = .mark .parenR ∧
        u = node Kind.object.keyword .object none flagged fs (some t.location) := by
  obtain ⟨rest, hrest⟩ := r
  simp (disch := decide) only [typeAt, hd, hk, Bool.false_eq_true, if_false, bind_eq_ok,
    pure_eq_ok, expect_eq_ok_iff, Prod.mk.injEq, Subtype.mk.injEq]
  constructor
  · rintro ⟨⟨r₁, _⟩, ⟨left, hts, hl⟩, ⟨inner, _⟩, ⟨brace, hr₁, hb⟩, ⟨fs, r'⟩, hfs, r₄,
      ⟨right, hr', hr⟩, rfl, rfl⟩
    exact ⟨left, brace, right, inner, fs, r', hts.trans (congrArg _ hr₁), hl, hb, hfs, hr', hr, rfl⟩
  · rintro ⟨left, brace, right, inner, fs, r', rfl, hl, hb, hfs, hr', hr, rfl⟩
    exact ⟨⟨brace :: inner, by simp⟩, ⟨left, rfl, hl⟩, ⟨inner, by simp⟩, ⟨brace, rfl, hb⟩,
      (fs, r'), hfs, ⟨rest, by simp [hr']⟩, ⟨right, hr', hr⟩, rfl, rfl⟩

lemma fieldsAt_name_iff {fs : List (Field Constraint)} (ht : t.kind = .name) :
    fieldsAt b depth (t :: ts) = .ok (fs, r) ↔
      ∃ (equals : Token) (inner : List Token) (v : Constraint) (r' : ProperRest inner)
        (more : List (Field Constraint)) (r'' : ProperRest r'.val),
        ts = equals :: inner ∧ equals.symbol = .mark .equals ∧
        typeAt b (depth + 1) false inner = .ok (v, r') ∧
        fieldsAt b depth r'.val = .ok (more, r'') ∧ r''.val = r.val ∧
        fs = ⟨t.value, some t.location, v⟩ :: more := by
  obtain ⟨rest, hrest⟩ := r
  simp (disch := decide) only [fieldsAt, ht, bind_eq_ok, pure_eq_ok, expect_eq_ok_iff,
    Prod.mk.injEq, Subtype.mk.injEq]
  constructor
  · rintro ⟨⟨inner, _⟩, ⟨equals, hts, he⟩, ⟨v, r'⟩, hv, ⟨more, r''⟩, hm, rfl, hr⟩
    exact ⟨equals, inner, v, r', more, r'', hts, he, hv, hm, hr, rfl⟩
  · rintro ⟨equals, inner, v, r', more, r'', rfl, he, hv, hm, hr, rfl⟩
    exact ⟨⟨inner, by simp⟩, ⟨equals, rfl, he⟩, (v, r'), hv, (more, r''), hm, rfl, hr⟩

/-- What is neither the name of a field nor the closing brace is refused. -/
lemma fieldsAt_other (hclose : t.kind ≠ .braceR) (hname : t.kind ≠ .name) :
    fieldsAt b depth (t :: ts) = .error (.unexpected t .fieldOrClose) := by
  rw [fieldsAt]
  split <;> simp_all

end Steps

/-- Marks a type that an `optional` stands directly around. -/
def flag (flagged : Bool) (t : Constraint) : Constraint :=
  if flagged then t.withOptional true else t

@[simp] lemma flag_false (t : Constraint) : flag false t = t := rfl

@[simp] lemma flag_true (t : Constraint) : flag true t = t.withOptional true := rfl

lemma flag_withOptional (flagged : Bool) (t : Constraint) :
    flag flagged (t.withOptional true) = t.withOptional true := by
  cases t
  cases flagged <;> rfl

@[simp] lemma flag_node (flagged : Bool) (name : String) (kind : Kind) (elem : Option Constraint)
    (fields : List (Field Constraint)) :
    flag flagged (node name kind elem false fields none) =
      node name kind elem flagged fields none := by
  cases flagged <;> rfl

open Constraint.Derivation

/-- The tokens of `ts` before `rest` spell a derivation tree that writes `u`. If it begins at that
level, none of its types begins deeper than the bounds admit. -/
def Derives (b : Bounds) (depth : Nat) (flagged : Bool) (ts : List Token) (u : Constraint)
    (rest : List Token) : Prop :=
  ∃ d : Derivation, ts.map Token.symbol = d.symbols ++ rest.map Token.symbol ∧
    u.erase = flag flagged d.tree ∧ b.Admits (depth + d.depth - 1)

lemma Enclosed.derives {b : Bounds} {depth : Nat} {flagged : Bool} {ts rest : List Token}
    {u : Constraint} (h : Enclosed b depth flagged ts u rest)
    (ih : ∀ inner, inner.length < ts.length → ∀ v (r : ProperRest inner),
      typeAt b depth flagged inner = .ok (v, r) → Derives b depth flagged inner v r.val) :
    ∃ d : Derivation, ts.map Token.symbol =
        .mark .parenL :: (d.symbols ++ .mark .parenR :: rest.map Token.symbol) ∧
      u.erase = flag flagged d.tree ∧ b.Admits (depth + d.depth - 1) := by
  obtain ⟨left, right, inner, r, rfl, hl, hu, hr, hright⟩ := h
  obtain ⟨d, hsym, htree, hdeep⟩ := ih inner (by simp) u r hu
  refine ⟨d, ?_, htree, hdeep⟩
  rw [List.map_cons, hl, hsym, hr, List.map_cons, hright]

/-- What the parser takes is derived by the grammar. -/
theorem typeAt_sound (b : Bounds) :
    (∀ depth flagged ts, ∀ u (r : ProperRest ts), typeAt b depth flagged ts = .ok (u, r) →
      Derives b depth flagged ts u r.val) ∧
    (∀ depth ts, ∀ fs (r : ProperRest ts), fieldsAt b depth ts = .ok (fs, r) → b.Admits depth →
      ∃ ds : List (String × Derivation), ts.map Token.symbol =
          fieldSymbols ds ++ .mark .braceR :: r.val.map Token.symbol ∧
        eraseFields fs = fieldTrees ds ∧ b.Admits (depth + fieldDepth ds)) := by
  apply typeAt.mutual_induct b
  case case1 =>
    intro depth flagged u r h
    simp [typeAt] at h
  case case2 =>
    intro depth flagged t ts hd u r h
    simp [typeAt, hd] at h
  case case3 =>
    intro depth flagged t ts hd hk u r h
    simp [typeAt, hd, hk] at h
  case case4 =>
    intro depth flagged t ts hd kind hk u r h
    rw [Bool.not_eq_true] at hd
    obtain ⟨rfl, hr⟩ := (typeAt_scalar_iff hd hk).mp h
    obtain ⟨hs, hp⟩ := Keyword.ofToken?_eq_some_iff.mp hk
    have hv : t.value = kind.keyword := (Token.symbol_eq_word_iff.mp hs).2
    refine ⟨.scalar kind hp, ?_, ?_, ?_⟩
    · simp [symbols, hs, hr, Keyword.spelling]
    · simp [erase, eraseElem, eraseFields, tree, hv]
    · exact Bounds.tooDeep_eq_false.mp hd
  case case5 =>
    intro depth flagged t ts hd hk ih u r h
    rw [Bool.not_eq_true] at hd
    obtain ⟨d, hsym, htree, hdeep⟩ := ((typeAt_optional_iff hd hk).mp h).derives ih
    obtain ⟨hs, -⟩ := Keyword.ofToken?_eq_some_iff.mp hk
    refine ⟨.optional d, ?_, ?_, ?_⟩
    · simp [symbols, hs, hsym, Keyword.spelling]
    · rw [htree, tree, flag_withOptional, flag_true]
    · rw [Derivation.depth]
      exact hdeep.mono (by omega)
  case case6 =>
    intro depth flagged t ts hd kind hk ih u r h
    rw [Bool.not_eq_true] at hd
    obtain ⟨v, hv, rfl⟩ := (typeAt_wrapper_iff hd hk).mp h
    obtain ⟨d, hsym, htree, hdeep⟩ := hv.derives ih
    obtain ⟨hs, hp⟩ := Keyword.ofToken?_eq_some_iff.mp hk
    change kind.wraps = true at hp
    refine ⟨.wrapper kind hp d, ?_, ?_, ?_⟩
    · simp [symbols, hs, hsym, Keyword.spelling]
    · simp [erase, eraseElem, eraseFields, tree, htree]
    · rw [Derivation.depth]
      exact hdeep.mono (by omega)
  case case7 =>
    intro depth flagged t ts hd hk ih u r h
    rw [Bool.not_eq_true] at hd
    obtain ⟨left, brace, right, inner, fs, r', rfl, hl, hb, hfs, hr', hr, rfl⟩ :=
      (typeAt_object_iff hd hk).mp h
    obtain ⟨ds, hsym, htrees, hdeep⟩ :=
      ih (brace :: inner) (by simp) inner (by simp) fs r' hfs (Bounds.tooDeep_eq_false.mp hd)
    obtain ⟨hs, -⟩ := Keyword.ofToken?_eq_some_iff.mp hk
    refine ⟨.object ds, ?_, ?_, ?_⟩
    · simp [symbols, hs, hl, hb, hsym, hr', hr, Keyword.spelling]
    · simp [erase, eraseElem, tree, htrees, Kind.keyword]
    · exact hdeep
  case case8 =>
    intro depth fs r h
    simp [fieldsAt] at h
  case case9 =>
    intro depth t ts ht fs r h ha
    simp only [fieldsAt, ht, Except.ok.injEq, Prod.mk.injEq] at h
    obtain ⟨rfl, rfl⟩ := h
    have hs : t.symbol = .mark .braceR := (Token.symbol_eq_mark_iff (by decide)).mpr ht
    exact ⟨[], by simp [fieldSymbols, hs], rfl, ha⟩
  case case10 =>
    intro depth t ts ht ihType ihFields fs r h ha
    obtain ⟨equals, inner, v, r', more, r'', rfl, he, hv, hm, hr, rfl⟩ :=
      (fieldsAt_name_iff ht).mp h
    have hlen : inner.length < (equals :: inner).length := by simp
    obtain ⟨d, hsym, htree, hdeep⟩ := ihType inner hlen v r' hv
    obtain ⟨ds, hsyms, htrees, hdeeps⟩ := ihFields inner hlen r'.val r'.property more r'' hm ha
    have hs : t.symbol = .word t.value := Token.symbol_eq_word_iff.mpr ⟨ht, rfl⟩
    refine ⟨(t.value, d) :: ds, ?_, ?_, ?_⟩
    · simp [fieldSymbols, hs, he, hsym, hsyms, hr]
    · simp [eraseFields, fieldTrees, htree, htrees]
    · rw [fieldDepth]
      exact (hdeep.max hdeeps).mono (by omega)
  case case11 =>
    intro depth t ts hclose hname fs r h
    rw [fieldsAt_other hclose hname] at h
    cases h

lemma enclosed_of_symbols {b : Bounds} {depth : Nat} {flagged : Bool} {ts : List Token}
    {d : Derivation} (hts : ts.map Token.symbol = .mark .parenL :: (d.symbols ++ [.mark .parenR]))
    (rest : List Token)
    (h : ∀ inner more, inner.map Token.symbol = d.symbols →
      ∃ u r, typeAt b depth flagged (inner ++ more) = .ok (u, r) ∧ r.val = more ∧
        u.erase = flag flagged d.tree) :
    ∃ u, Enclosed b depth flagged (ts ++ rest) u rest ∧ u.erase = flag flagged d.tree := by
  simp only [List.map_eq_cons_iff, List.map_eq_append_iff, List.map_eq_nil_iff] at hts
  obtain ⟨left, _, rfl, hl, inner, _, rfl, hi, right, _, rfl, hr, rfl⟩ := hts
  obtain ⟨u, r, hu, hr', he⟩ := h inner (right :: rest) hi
  exact ⟨u, ⟨left, right, inner ++ right :: rest, r, by simp, hl, hu, hr', hr⟩, he⟩

lemma length_lt_cons_append (t : Token) (ts rest : List Token) :
    rest.length < (t :: ts ++ rest).length := by
  rw [List.length_append, List.length_cons]
  omega

mutual

/-- What the grammar derives within the bounds is taken, whatever follows it. -/
theorem typeAt_complete {b : Bounds} : ∀ (d : Derivation) {depth : Nat} (flagged : Bool)
    {ts : List Token} (rest : List Token), ts.map Token.symbol = d.symbols →
    b.Admits (depth + d.depth - 1) →
    ∃ u r, typeAt b depth flagged (ts ++ rest) = .ok (u, r) ∧ r.val = rest ∧
      u.erase = flag flagged d.tree
  | .scalar kind hp, depth, flagged, ts, rest, hts, ha => by
    obtain ⟨t, rfl, hs⟩ := List.map_eq_singleton_iff.mp hts
    have hd : b.tooDeep depth = false := Bounds.tooDeep_eq_false.mpr ha
    have hk : Keyword.ofToken? t = some (.scalar kind) :=
      Keyword.ofToken?_eq_some_iff.mpr ⟨hs, hp⟩
    have hv : t.value = kind.keyword := (Token.symbol_eq_word_iff.mp hs).2
    refine ⟨_, ⟨rest, by simp⟩, (typeAt_scalar_iff hd hk).mpr ⟨rfl, rfl⟩, rfl, ?_⟩
    simp [erase, eraseElem, eraseFields, tree, hv]
  | .optional d, depth, flagged, ts, rest, hts, ha => by
    obtain ⟨t, ts, rfl, hs, hts⟩ := List.map_eq_cons_iff.mp hts
    rw [Derivation.depth] at ha
    have hd : b.tooDeep depth = false := Bounds.tooDeep_eq_false.mpr (ha.mono (by omega))
    have hk : Keyword.ofToken? t = some .optional :=
      Keyword.ofToken?_eq_some_iff.mpr ⟨hs, trivial⟩
    have had : b.Admits (depth + 1 + d.depth - 1) := ha.mono (by omega)
    obtain ⟨u, hu, he⟩ := enclosed_of_symbols hts rest fun inner more hi =>
      typeAt_complete d true more hi had
    refine ⟨u, ⟨rest, length_lt_cons_append t ts rest⟩, (typeAt_optional_iff hd hk).mpr hu, rfl,
      ?_⟩
    rw [he, tree, flag_withOptional, flag_true]
  | .wrapper kind hp d, depth, flagged, ts, rest, hts, ha => by
    obtain ⟨t, ts, rfl, hs, hts⟩ := List.map_eq_cons_iff.mp hts
    rw [Derivation.depth] at ha
    have hd : b.tooDeep depth = false := Bounds.tooDeep_eq_false.mpr (ha.mono (by omega))
    have hk : Keyword.ofToken? t = some (.wrapper kind) :=
      Keyword.ofToken?_eq_some_iff.mpr ⟨hs, hp⟩
    have had : b.Admits (depth + 1 + d.depth - 1) := ha.mono (by omega)
    obtain ⟨v, hv, he⟩ := enclosed_of_symbols hts rest fun inner more hi =>
      typeAt_complete d false more hi had
    refine ⟨_, ⟨rest, length_lt_cons_append t ts rest⟩,
      (typeAt_wrapper_iff hd hk).mpr ⟨v, hv, rfl⟩, rfl, ?_⟩
    simp [erase, eraseElem, eraseFields, tree, he]
  | .object ds, depth, flagged, ts, rest, hts, ha => by
    simp only [symbols, List.map_eq_cons_iff, List.map_eq_append_iff, List.map_eq_nil_iff] at hts
    obtain ⟨t, _, rfl, hs, left, _, rfl, hl, brace, _, rfl, hb, inner, _, rfl, hi, close, _, rfl,
      hc, right, _, rfl, hr, rfl⟩ := hts
    rw [Derivation.depth] at ha
    have hd : b.tooDeep depth = false := Bounds.tooDeep_eq_false.mpr (ha.mono (by omega))
    have hk : Keyword.ofToken? t = some .object :=
      Keyword.ofToken?_eq_some_iff.mpr ⟨hs, trivial⟩
    obtain ⟨fs, r, hfs, hr', he⟩ := fieldsAt_complete ds (right :: rest) hi hc ha
    refine ⟨node Kind.object.keyword .object none flagged fs (some t.location),
      ⟨rest, length_lt_cons_append t _ rest⟩, (typeAt_object_iff hd hk).mpr ?_, rfl, ?_⟩
    · exact ⟨left, brace, right, inner ++ close :: right :: rest, fs, r, by simp, hl, hb, hfs, hr',
        hr, rfl⟩
    · simp [erase, eraseElem, tree, he, Kind.keyword]

theorem fieldsAt_complete {b : Bounds} : ∀ (ds : List (String × Derivation)) {depth : Nat}
    {ts : List Token} {close : Token} (rest : List Token),
    ts.map Token.symbol = fieldSymbols ds → close.symbol = .mark .braceR →
    b.Admits (depth + fieldDepth ds) →
    ∃ fs r, fieldsAt b depth (ts ++ close :: rest) = .ok (fs, r) ∧ r.val = rest ∧
      eraseFields fs = fieldTrees ds
  | [], depth, ts, close, rest, hts, hc, ha => by
    obtain rfl := List.map_eq_nil_iff.mp hts
    have hk : close.kind = .braceR := (Token.symbol_eq_mark_iff (by decide)).mp hc
    exact ⟨[], ⟨rest, by simp⟩, by simp [fieldsAt, hk], rfl, rfl⟩
  | (name, d) :: ds, depth, ts, close, rest, hts, hc, ha => by
    simp only [fieldSymbols, List.map_eq_cons_iff, List.map_eq_append_iff] at hts
    obtain ⟨t, _, rfl, hs, equals, _, rfl, heq, inner, more, rfl, hi, hm⟩ := hts
    rw [fieldDepth] at ha
    obtain ⟨hk, hv⟩ := Token.symbol_eq_word_iff.mp hs
    have had : b.Admits (depth + 1 + d.depth - 1) := ha.mono (by omega)
    have hads : b.Admits (depth + fieldDepth ds) := ha.mono (by omega)
    obtain ⟨u, ⟨_, hlen⟩, hu, rfl, he⟩ := typeAt_complete d false (more ++ close :: rest) hi had
    obtain ⟨fs, r, hfs, hr, hes⟩ := fieldsAt_complete ds rest hm hc hads
    have hrest := Nat.lt_of_succ_lt (length_lt_cons_append t (equals :: (inner ++ more))
      (close :: rest))
    refine ⟨⟨t.value, some t.location, u⟩ :: fs, ⟨rest, hrest⟩, (fieldsAt_name_iff hk).mpr ?_, rfl,
      ?_⟩
    · exact ⟨equals, inner ++ (more ++ close :: rest), u, ⟨_, hlen⟩, fs, r, by simp, heq, hu, hfs,
        hr, rfl⟩
    · simp [eraseFields, fieldTrees, hv, he, hes]

end

lemma parseStream_eq_ok_iff {limit : Option Nat} {s : Lexer.Stream} {t : Constraint} :
    parseStream limit s = .ok t ↔
      (∃ eof, s.ending = .ok eof) ∧
        ∃ r, typeAt ⟨limit, s.ending⟩ 1 false s.tokens = .ok (t, r) ∧ r.val = [] := by
  simp only [parseStream, bind_eq_ok]
  constructor
  · rintro ⟨⟨u, ⟨rest, hlen⟩⟩, hu, h⟩
    split at h
    · next eof hrest hend =>
      obtain rfl := pure_eq_ok.mp h
      exact ⟨⟨eof, hend⟩, ⟨rest, hlen⟩, hu, hrest⟩
    · exact absurd h throw_ne_ok
  · rintro ⟨⟨eof, hend⟩, ⟨_, hlen⟩, hu, rfl⟩
    refine ⟨_, hu, ?_⟩
    simp [hend, pure_eq_ok]

/-- A stream is parsed just when it ends well and its tokens spell a derivation tree that is no
deeper than the limit, and then into the tree that is written. -/
theorem parseStream_iff_derivation {limit : Option Nat} {s : Lexer.Stream} {u : Constraint} :
    (∃ t, parseStream limit s = .ok t ∧ t.erase = u) ↔
      (∃ eof, s.ending = .ok eof) ∧
        ∃ d : Derivation, s.tokens.map Token.symbol = d.symbols ∧ (∀ l ∈ limit, d.depth ≤ l) ∧
          d.tree = u := by
  simp only [parseStream_eq_ok_iff]
  constructor
  · rintro ⟨t, ⟨hend, r, ht, hr⟩, rfl⟩
    obtain ⟨d, hsym, htree, hdeep⟩ := (typeAt_sound _).1 _ _ _ _ _ ht
    have hdepth : ∀ l ∈ limit, d.depth ≤ l := fun l hl => by
      have := hdeep l hl
      omega
    exact ⟨hend, d, by simpa [hr] using hsym, hdepth, htree.symm⟩
  · rintro ⟨hend, d, hsym, hdepth, rfl⟩
    have ha : (⟨limit, s.ending⟩ : Bounds).Admits (1 + d.depth - 1) := fun l hl => by
      have := hdepth l hl
      omega
    have hparse := typeAt_complete d false [] hsym ha
    rw [List.append_nil] at hparse
    obtain ⟨t, r, ht, hr, he⟩ := hparse
    exact ⟨t, ⟨hend, r, ht, hr⟩, he⟩

end Parser

/-- A text is parsed just when the lexer reads all of it as the symbols of a derivation tree with
at most 256 levels. The answer is the tree that is written, places aside. -/
theorem parse_ok_iff_derivation (s : Source) (u : Constraint) :
    (∃ t, parse s = .ok t ∧ t.erase = u) ↔
      ∃ d : Derivation, (Lexer.ofSource s).Spells d.symbols ∧ d.depth ≤ 256 ∧ d.tree = u := by
  unfold parse
  rw [Parser.parseStream_iff_derivation]
  constructor
  · rintro ⟨hend, d, hsym, hdepth, htree⟩
    exact ⟨d, ⟨hend, hsym⟩, hdepth 256 rfl, htree⟩
  · rintro ⟨d, ⟨hend, hsym⟩, hdepth, htree⟩
    exact ⟨hend, d, hsym, fun l hl => (Option.some.inj hl).subst hdepth, htree⟩

end ModuleBindings.Constraint
