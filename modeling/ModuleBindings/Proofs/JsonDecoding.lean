import ModuleBindings.Proofs.JsonValues

/-!
# Decoders and what follows a value

A decoder reads the tokens of one value and gives the same result whatever follows them, and
wherever the value stands. This passes from the decoders of single values to those of maps and
structures.
-/

namespace ModuleBindings.Json.Decoder

open Proofs

/-- Exactly these tokens are read, with the same result whatever follows them. -/
def Reads {α : Type} (d : Decoder α) (a : α) (front : List Token) : Prop :=
  ∀ (s : Site) {rest all : List Token}, all = front ++ rest → ∃ h, d s all = .ok (a, ⟨rest, h⟩)

/-- A decoder reads one value and does not look at what follows. -/
def IsLocal {α : Type} (d : Decoder α) : Prop :=
  ∀ ⦃s : Site⦄ ⦃ts : List Token⦄ ⦃a : α⦄ ⦃r : ProperRest ts⦄, d s ts = .ok (a, r) →
    ∃ front, IsValue front ∧ ts = front ++ r.val ∧ Reads d a front

lemma string_isLocal : IsLocal string := by
  intro s ts a r h
  rw [string.eq_def] at h
  split at h
  · cases h
    refine ⟨[_], .scalar rfl, rfl, fun s rest all hall => ?_⟩
    subst hall
    exact ⟨_, rfl⟩
  · exact absurd h failType_ne_ok

lemma boolean_isLocal : IsLocal boolean := by
  intro s ts a r h
  rw [boolean.eq_def] at h
  split at h
  · cases h
    refine ⟨[_], .scalar rfl, rfl, fun s rest all hall => ?_⟩
    subst hall
    exact ⟨_, rfl⟩
  · exact absurd h failType_ne_ok

section Combinators

variable {α β : Type} {d : Decoder α}

lemma map_isLocal (f : α → β) (hd : IsLocal d) : IsLocal (map f d) := by
  intro s ts b r h
  obtain ⟨⟨a, r'⟩, hread, h⟩ := bind_eq_ok.mp h
  cases h
  obtain ⟨front, hvalue, hts, hreads⟩ := hd hread
  refine ⟨front, hvalue, hts, fun s rest all hall => ?_⟩
  obtain ⟨hlt, hread⟩ := hreads s hall
  refine ⟨hlt, ?_⟩
  rw [map, hread]
  rfl

lemma optional_of_not_null {t : Token} (s : Site) (h : t.lexeme ≠ .null) (rest : List Token) :
    optional d s (t :: rest) = map some d s (t :: rest) := by
  obtain ⟨lexeme, start, stop⟩ := t
  cases lexeme with
  | null => exact absurd rfl h
  | _ => rfl

lemma optional_isLocal (hd : IsLocal d) : IsLocal (optional d) := by
  intro s ts a r h
  cases ts with
  | nil => exact absurd r.property (Nat.not_lt_zero _)
  | cons t rest =>
    by_cases hnull : t.lexeme = .null
    · obtain ⟨lexeme, start, stop⟩ := t
      cases hnull
      cases h
      refine ⟨[_], .scalar rfl, rfl, fun s rest all hall => ?_⟩
      subst hall
      exact ⟨_, rfl⟩
    · rw [optional_of_not_null s hnull] at h
      obtain ⟨front, hvalue, hts, hreads⟩ := map_isLocal some hd h
      obtain ⟨front, rfl⟩ := exists_eq_cons hts r.property
      refine ⟨_, hvalue, hts, fun s rest all hall => ?_⟩
      obtain ⟨hlt, hread⟩ := hreads s hall
      subst hall
      exact ⟨hlt, (optional_of_not_null s hnull _).trans hread⟩

end Combinators

section Nulls

variable {levels n : Nat} {s : Site} {t : Token} {ts rest left : List Token} {first null : Bool}

lemma isNull_scalar (h : t.lexeme.isScalar = true) {r : ProperRest (t :: rest)}
    (hnull : isNull levels s (t :: rest) = .ok (null, r)) :
    r.val = rest ∧ ∀ (s : Site) (rest : List Token),
      isNull levels s (t :: rest) = .ok (null, ⟨rest, Nat.lt_succ_self _⟩) := by
  obtain ⟨lexeme, start, stop⟩ := t
  rw [isNull.eq_def] at hnull
  cases lexeme with
  | null =>
    cases hnull
    refine ⟨rfl, fun s rest => ?_⟩
    rw [isNull.eq_def]
  | boolean b =>
    cases hnull
    refine ⟨rfl, fun s rest => ?_⟩
    rw [isNull.eq_def]
  | number value =>
    cases value with
    | error flaw => cases hnull
    | ok number =>
      cases hnull
      refine ⟨rfl, fun s rest => ?_⟩
      rw [isNull.eq_def]
  | text value =>
    cases value with
    | error flaw => cases hnull
    | ok said =>
      cases hnull
      refine ⟨rfl, fun s rest => ?_⟩
      rw [isNull.eq_def]
  | _ => cases h

lemma isNull_items (ht : t.lexeme = .openList) (hlevels : levels ≠ 0)
    {h : left.length < rest.length} (hitems : items (levels - 1) s 0 rest = .ok ⟨left, h⟩) :
    isNull levels s (t :: rest) = .ok (false, ⟨left, Nat.lt_succ_of_lt h⟩) := by
  rw [isNull.eq_def]
  dsimp only
  rw [ht]
  dsimp only
  rw [if_neg hlevels, hitems]
  rfl

lemma isNull_members (ht : t.lexeme = .openObject) (hlevels : levels ≠ 0)
    {h : left.length < rest.length} (hmembers : members (levels - 1) s true rest = .ok ⟨left, h⟩) :
    isNull levels s (t :: rest) = .ok (false, ⟨left, Nat.lt_succ_of_lt h⟩) := by
  rw [isNull.eq_def]
  dsimp only
  rw [ht]
  dsimp only
  rw [if_neg hlevels, hmembers]
  rfl

lemma items_close {r : ProperRest ts} (h : nextItem s (n = 0) ts = .ok (.inl r)) :
    items levels s n ts = .ok r := by
  rw [items, h]
  rfl

lemma items_item {next : List Token} {h₁ : rest.length ≤ ts.length}
    {h₂ : next.length < rest.length} {h₃ : left.length < next.length}
    (h : nextItem s (n = 0) ts = .ok (.inr ⟨rest, h₁⟩))
    (hitem : isNull levels (s.inside (.index n)) rest = .ok (null, ⟨next, h₂⟩))
    (hitems : items levels s (n + 1) next = .ok ⟨left, h₃⟩) :
    items levels s n ts = .ok ⟨left, (h₃.trans h₂).trans_le h₁⟩ := by
  rw [items, h]
  dsimp only [Bind.bind, Except.bind]
  rw [hitem]
  dsimp only
  rw [hitems]
  rfl

lemma members_close {r : ProperRest ts} (h : nextKey s first ts = .ok (none, r)) :
    members levels s first ts = .ok r := by
  rw [members, h]
  rfl

lemma members_member {name : String} {colon : Token} {value next : List Token}
    {h₁ : (colon :: value).length < ts.length} {h₂ : next.length < value.length}
    {h₃ : left.length < next.length}
    (h : nextKey s first ts = .ok (some name, ⟨colon :: value, h₁⟩))
    (hcolon : colon.lexeme = .colon)
    (hvalue : isNull levels (s.inside (.key name)) value = .ok (null, ⟨next, h₂⟩))
    (hmembers : members levels s false next = .ok ⟨left, h₃⟩) :
    members levels s first ts = .ok ⟨left, (h₃.trans h₂).trans (Nat.lt_of_succ_lt h₁)⟩ := by
  rw [members, h]
  dsimp only [Bind.bind, Except.bind]
  rw [colon_of_lexeme s hcolon]
  dsimp only
  rw [hvalue]
  dsimp only
  rw [hmembers]
  rfl

end Nulls

mutual

lemma isNull_isLocal {levels : Nat} {s : Site} {ts : List Token} {null : Bool} {r : ProperRest ts}
    (h : isNull levels s ts = .ok (null, r)) :
    ∃ front, IsValue front ∧ ts = front ++ r.val ∧ Reads (isNull levels) null front := by
  cases ts with
  | nil => exact absurd r.property (Nat.not_lt_zero _)
  | cons t rest =>
    by_cases hscalar : t.lexeme.isScalar = true
    · obtain ⟨hrest, hall⟩ := isNull_scalar hscalar h
      refine ⟨[t], .scalar hscalar, by rw [hrest]; rfl, fun s rest all h => ?_⟩
      subst h
      exact ⟨_, hall s rest⟩
    rw [isNull.eq_def] at h
    dsimp only at h
    split at h
    case h_5 hopen =>
      split_ifs at h with hlevels
      · cases h
      obtain ⟨r', hitems, h⟩ := bind_eq_ok.mp h
      cases h
      obtain ⟨front, hends, hrest, hskips⟩ := items_isLocal hitems
      refine ⟨t :: front, .list hopen hends, congrArg (List.cons t) hrest,
        fun s rest all hall => ?_⟩
      subst hall
      obtain ⟨_, hitems⟩ := hskips s rfl
      exact ⟨_, isNull_items hopen hlevels hitems⟩
    case h_6 hopen =>
      split_ifs at h with hlevels
      · cases h
      obtain ⟨r', hmembers, h⟩ := bind_eq_ok.mp h
      cases h
      obtain ⟨front, hends, hrest, hskips⟩ := members_isLocal hmembers
      refine ⟨t :: front, .object hopen hends, congrArg (List.cons t) hrest,
        fun s rest all hall => ?_⟩
      subst hall
      obtain ⟨_, hmembers⟩ := hskips s rfl
      exact ⟨_, isNull_members hopen hlevels hmembers⟩
    all_goals simp_all [Lexeme.isScalar, Site.failWith, Site.fail]
termination_by 2 * ts.length

lemma items_isLocal {levels n : Nat} {s : Site} {ts : List Token} {r : ProperRest ts}
    (h : items levels s n ts = .ok r) :
    ∃ front, EndsList (n = 0) front ∧ ts = front ++ r.val ∧
      Skips (fun s ts => items levels s n ts) front := by
  rw [items] at h
  obtain ⟨found, hnext, h⟩ := bind_eq_ok.mp h
  cases found with
  | inl r' =>
    cases h
    obtain ⟨t, hts, hclose⟩ := eq_of_nextItem_inl hnext
    refine ⟨[t], .close hclose, hts, fun s rest all hall => ?_⟩
    subst hall
    exact ⟨_, items_close (nextItem_close s _ hclose rest)⟩
  | inr r' =>
    obtain ⟨⟨null, next, h₂⟩, hitem, h⟩ := bind_eq_ok.mp h
    obtain ⟨⟨left, h₃⟩, hitems, h⟩ := bind_eq_ok.mp h
    cases h
    obtain ⟨value, hvalue, hsplit, hreads⟩ := isNull_isLocal hitem
    obtain ⟨ends, hends, hnexts, hskips⟩ := items_isLocal hitems
    obtain ⟨front, hfront, hts, hall⟩ :=
      item_front hnext hvalue (by simpa using hends) hsplit hnexts
    refine ⟨front, hfront, hts, fun s rest all h => ?_⟩
    obtain ⟨_, hnext⟩ := hall s h
    obtain ⟨_, hitem⟩ := hreads (s.inside (.index n)) rfl
    obtain ⟨_, hitems⟩ := hskips s rfl
    exact ⟨_, items_item hnext hitem hitems⟩
termination_by 2 * ts.length + 1

lemma members_isLocal {levels : Nat} {s : Site} {first : Bool} {ts : List Token} {r : ProperRest ts}
    (h : members levels s first ts = .ok r) :
    ∃ front, EndsObject first front ∧ ts = front ++ r.val ∧
      Skips (fun s ts => members levels s first ts) front := by
  rw [members] at h
  obtain ⟨⟨found, r₁⟩, hnext, h⟩ := bind_eq_ok.mp h
  cases found with
  | none =>
    cases h
    obtain ⟨t, hts, hclose⟩ := eq_of_nextKey_none hnext
    refine ⟨[t], .close hclose, hts, fun s rest all hall => ?_⟩
    subst hall
    exact ⟨_, members_close (nextKey_close s first hclose rest)⟩
  | some name =>
    obtain ⟨r₂, hcolon, h⟩ := bind_eq_ok.mp h
    obtain ⟨⟨null, next, h₃⟩, hvalue, h⟩ := bind_eq_ok.mp h
    obtain ⟨⟨left, h₄⟩, hmembers, h⟩ := bind_eq_ok.mp h
    cases h
    obtain ⟨value, hfront, hsplit, hreads⟩ := isNull_isLocal hvalue
    obtain ⟨ends, hends, hnexts, hskips⟩ := members_isLocal hmembers
    obtain ⟨front, htaken, hts, hall⟩ := member_front hnext hcolon hfront hends hsplit hnexts
    refine ⟨front, htaken, hts, fun s rest all h => ?_⟩
    obtain ⟨c, _, hc, hnext⟩ := hall s h
    obtain ⟨_, hvalue⟩ := hreads (s.inside (.key name)) rfl
    obtain ⟨_, hmembers⟩ := hskips s rfl
    exact ⟨_, members_member hnext hc hvalue hmembers⟩
termination_by 2 * ts.length + 1

end

section Maps

variable {α : Type} {d : Decoder α} {s : Site} {first : Bool} {done entries : List (String × α)}
  {ts : List Token}

lemma mapRest_close {r : ProperRest ts} (h : nextKey s first ts = .ok (none, r)) :
    mapRest d s first done ts = .ok (done, r) := by
  rw [mapRest, h]
  rfl

lemma mapRest_member {name : String} {a : α} {c : Token} {value next left : List Token}
    {h₁ : (c :: value).length < ts.length} {h₂ : next.length < value.length}
    {h₃ : left.length < next.length} (h : nextKey s first ts = .ok (some name, ⟨c :: value, h₁⟩))
    (hc : c.lexeme = .colon) (hvalue : d (s.inside (.key name)) value = .ok (a, ⟨next, h₂⟩))
    (hmembers : mapRest d s false (mapRest.put name a done) next = .ok (entries, ⟨left, h₃⟩)) :
    mapRest d s first done ts =
      .ok (entries, ⟨left, (h₃.trans h₂).trans (Nat.lt_of_succ_lt h₁)⟩) := by
  rw [mapRest, h]
  dsimp only [Bind.bind, Except.bind]
  rw [colon_of_lexeme s hc]
  dsimp only
  rw [hvalue]
  dsimp only
  rw [hmembers]
  rfl

lemma mapRest_isLocal {α : Type} {d : Decoder α} (hd : IsLocal d) {s : Site} {first : Bool}
    {done entries : List (String × α)} {ts : List Token} {r : ProperRest ts}
    (h : mapRest d s first done ts = .ok (entries, r)) :
    ∃ front, EndsObject first front ∧ ts = front ++ r.val ∧
      Reads (fun s ts => mapRest d s first done ts) entries front := by
  rw [mapRest] at h
  obtain ⟨⟨found, r₁⟩, hnext, h⟩ := bind_eq_ok.mp h
  cases found with
  | none =>
    cases h
    obtain ⟨t, hts, hclose⟩ := eq_of_nextKey_none hnext
    refine ⟨[t], .close hclose, hts, fun s rest all hall => ?_⟩
    subst hall
    exact ⟨_, mapRest_close (nextKey_close s first hclose rest)⟩
  | some name =>
    obtain ⟨r₂, hcolon, h⟩ := bind_eq_ok.mp h
    obtain ⟨⟨a, next, h₃⟩, hvalue, h⟩ := bind_eq_ok.mp h
    obtain ⟨⟨entries', left, h₄⟩, hmembers, h⟩ := bind_eq_ok.mp h
    cases h
    obtain ⟨value, hfront, hsplit, hreads⟩ := hd hvalue
    obtain ⟨ends, hends, hnexts, hreads'⟩ := mapRest_isLocal hd hmembers
    obtain ⟨front, htaken, hts, hall⟩ := member_front hnext hcolon hfront hends hsplit hnexts
    refine ⟨front, htaken, hts, fun s rest all h => ?_⟩
    obtain ⟨c, _, hc, hnext⟩ := hall s h
    obtain ⟨_, hvalue⟩ := hreads (s.inside (.key name)) rfl
    obtain ⟨_, hmembers⟩ := hreads' s rfl
    exact ⟨_, mapRest_member hnext hc hvalue hmembers⟩
termination_by ts.length

lemma mapOf_members {start stop : Mark} {rest left : List Token} {h : left.length < rest.length}
    (hmembers : mapRest d s true [] rest = .ok (entries, ⟨left, h⟩)) :
    mapOf d s (⟨.openObject, start, stop⟩ :: rest) =
      .ok (entries, ⟨left, Nat.lt_succ_of_lt h⟩) := by
  rw [mapOf, hmembers]
  rfl

lemma mapOf_isLocal (hd : IsLocal d) : IsLocal (mapOf d) := by
  intro s ts entries r h
  rw [mapOf.eq_def] at h
  split at h
  · obtain ⟨⟨entries', r'⟩, hmembers, h⟩ := bind_eq_ok.mp h
    cases h
    obtain ⟨front, hends, hrest, hreads⟩ := mapRest_isLocal hd hmembers
    refine ⟨_ :: front, .object rfl hends, congrArg (List.cons _) hrest, fun s rest all hall => ?_⟩
    subst hall
    obtain ⟨_, hmembers⟩ := hreads s rfl
    exact ⟨_, mapOf_members hmembers⟩
  · exact absurd h failType_ne_ok

end Maps

section Structures

variable {σ : Type} {fields : List (Field σ)} {s : Site} {first : Bool} {seen : List String}
  {state final : σ} {ts next left : List Token}

lemma structMembers_close {r : ProperRest ts} (h : nextKey s first ts = .ok (none, r)) :
    structMembers fields s first seen state ts = .ok (state, r) := by
  rw [structMembers, h]
  rfl

section Members

variable {name : String} {c : Token} {value : List Token} {h₁ : (c :: value).length < ts.length}
  {h₂ : next.length < value.length} {h₃ : left.length < next.length}

lemma structMembers_ignored (h : nextKey s first ts = .ok (some name, ⟨c :: value, h₁⟩))
    (hfield : fields.find? (·.name = name) = none) (hc : c.lexeme = .colon)
    (hvalue : ignored (s.inside (.key name)) value = .ok ⟨next, h₂⟩)
    (hmembers : structMembers fields s false seen state next = .ok (final, ⟨left, h₃⟩)) :
    structMembers fields s first seen state ts =
      .ok (final, ⟨left, (h₃.trans h₂).trans (Nat.lt_of_succ_lt h₁)⟩) := by
  rw [structMembers, h]
  dsimp only [Bind.bind, Except.bind]
  rw [hfield]
  dsimp only
  rw [colon_of_lexeme s hc]
  dsimp only
  rw [hvalue]
  dsimp only
  rw [hmembers]
  rfl

lemma structMembers_field {f : Field σ} {change : σ → σ}
    (h : nextKey s first ts = .ok (some name, ⟨c :: value, h₁⟩))
    (hfield : fields.find? (·.name = name) = some f) (hseen : seen.contains name = false)
    (hc : c.lexeme = .colon)
    (hvalue : f.decode (s.inside (.key name)) value = .ok (change, ⟨next, h₂⟩))
    (hmembers : structMembers fields s false (name :: seen) (change state) next =
      .ok (final, ⟨left, h₃⟩)) :
    structMembers fields s first seen state ts =
      .ok (final, ⟨left, (h₃.trans h₂).trans (Nat.lt_of_succ_lt h₁)⟩) := by
  rw [structMembers, h]
  dsimp only [Bind.bind, Except.bind]
  rw [hfield]
  dsimp only
  rw [hseen, if_neg Bool.false_ne_true, colon_of_lexeme s hc]
  dsimp only
  rw [hvalue]
  dsimp only
  rw [hmembers]
  rfl

end Members

lemma structMembers_isLocal {σ : Type} {fields : List (Field σ)}
    (hfields : ∀ f ∈ fields, IsLocal f.decode) {s : Site} {first : Bool} {seen : List String}
    {state final : σ} {ts : List Token} {r : ProperRest ts}
    (h : structMembers fields s first seen state ts = .ok (final, r)) :
    ∃ front, EndsObject first front ∧ ts = front ++ r.val ∧
      Reads (fun s ts => structMembers fields s first seen state ts) final front := by
  rw [structMembers] at h
  obtain ⟨⟨found, r₁⟩, hnext, h⟩ := bind_eq_ok.mp h
  cases found with
  | none =>
    cases h
    obtain ⟨t, hts, hclose⟩ := eq_of_nextKey_none hnext
    refine ⟨[t], .close hclose, hts, fun s rest all hall => ?_⟩
    subst hall
    exact ⟨_, structMembers_close (nextKey_close s first hclose rest)⟩
  | some name =>
    dsimp only at h
    split at h
    · next hfield =>
      obtain ⟨r₂, hcolon, h⟩ := bind_eq_ok.mp h
      obtain ⟨⟨next, h₃⟩, hvalue, h⟩ := bind_eq_ok.mp h
      obtain ⟨⟨final', left, h₄⟩, hmembers, h⟩ := bind_eq_ok.mp h
      cases h
      obtain ⟨value, hfront, hsplit, hskips⟩ := ignored_takes hvalue
      obtain ⟨ends, hends, hnexts, hreads⟩ := structMembers_isLocal hfields hmembers
      obtain ⟨front, htaken, hts, hall⟩ := member_front hnext hcolon hfront hends hsplit hnexts
      refine ⟨front, htaken, hts, fun s rest all h => ?_⟩
      obtain ⟨c, _, hc, hnext⟩ := hall s h
      obtain ⟨_, hvalue⟩ := hskips (s.inside (.key name)) rfl
      obtain ⟨_, hmembers⟩ := hreads s rfl
      exact ⟨_, structMembers_ignored hnext hfield hc hvalue hmembers⟩
    · next f hfield =>
      split_ifs at h with hseen
      · cases h
      obtain ⟨r₂, hcolon, h⟩ := bind_eq_ok.mp h
      obtain ⟨⟨change, next, h₃⟩, hvalue, h⟩ := bind_eq_ok.mp h
      obtain ⟨⟨final', left, h₄⟩, hmembers, h⟩ := bind_eq_ok.mp h
      cases h
      rw [Bool.not_eq_true] at hseen
      obtain ⟨value, hfront, hsplit, hreads⟩ := hfields f (List.mem_of_find?_eq_some hfield) hvalue
      obtain ⟨ends, hends, hnexts, hreads'⟩ := structMembers_isLocal hfields hmembers
      obtain ⟨front, htaken, hts, hall⟩ := member_front hnext hcolon hfront hends hsplit hnexts
      refine ⟨front, htaken, hts, fun s rest all h => ?_⟩
      obtain ⟨c, _, hc, hnext⟩ := hall s h
      obtain ⟨_, hvalue⟩ := hreads (s.inside (.key name)) rfl
      obtain ⟨_, hmembers⟩ := hreads' s rfl
      exact ⟨_, structMembers_field hnext hfield hseen hc hvalue hmembers⟩
termination_by ts.length

lemma structItems_end {n : Nat} {r : ProperRest ts} (h : endOfList s ts = .ok r) :
    structItems s n state ts [] = .ok (state, r) := by
  rw [structItems, h]
  rfl

lemma structItems_close {n : Nat} {r : ProperRest ts} (f : Field σ) (fields : List (Field σ))
    (h : nextItem s (n = 0) ts = .ok (.inl r)) :
    structItems s n state ts (f :: fields) = .ok (state, r) := by
  rw [structItems, h]
  rfl

lemma structItems_item {n : Nat} {f : Field σ} {change : σ → σ} {value : List Token}
    {h₁ : value.length ≤ ts.length} {h₂ : next.length < value.length}
    {h₃ : left.length < next.length} (h : nextItem s (n = 0) ts = .ok (.inr ⟨value, h₁⟩))
    (hitem : f.decode (s.inside (.index n)) value = .ok (change, ⟨next, h₂⟩))
    (hitems : structItems s (n + 1) (change state) next fields = .ok (final, ⟨left, h₃⟩)) :
    structItems s n state ts (f :: fields) = .ok (final, ⟨left, (h₃.trans h₂).trans_le h₁⟩) := by
  rw [structItems, h]
  dsimp only [Bind.bind, Except.bind]
  rw [hitem]
  dsimp only
  rw [hitems]
  rfl

lemma structItems_isLocal (hfields : ∀ f ∈ fields, IsLocal f.decode) {n : Nat} {r : ProperRest ts}
    (h : structItems s n state ts fields = .ok (final, r)) :
    ∃ front, EndsList (n = 0) front ∧ ts = front ++ r.val ∧
      Reads (fun s ts => structItems s n state ts fields) final front := by
  induction fields generalizing s n state ts with
  | nil =>
    rw [structItems] at h
    obtain ⟨r', hend, h⟩ := bind_eq_ok.mp h
    cases h
    obtain ⟨t, hts, hclose⟩ := eq_of_endOfList hend
    refine ⟨[t], .close hclose, hts, fun s rest all hall => ?_⟩
    subst hall
    exact ⟨_, structItems_end (endOfList_close s hclose rest)⟩
  | cons f fields ih =>
    rw [List.forall_mem_cons] at hfields
    rw [structItems] at h
    obtain ⟨found, hnext, h⟩ := bind_eq_ok.mp h
    cases found with
    | inl r' =>
      cases h
      obtain ⟨t, hts, hclose⟩ := eq_of_nextItem_inl hnext
      refine ⟨[t], .close hclose, hts, fun s rest all hall => ?_⟩
      subst hall
      exact ⟨_, structItems_close f fields (nextItem_close s _ hclose rest)⟩
    | inr r' =>
      obtain ⟨⟨change, next, h₂⟩, hitem, h⟩ := bind_eq_ok.mp h
      obtain ⟨⟨final', left, h₃⟩, hitems, h⟩ := bind_eq_ok.mp h
      cases h
      obtain ⟨value, hvalue, hsplit, hreads⟩ := hfields.1 hitem
      obtain ⟨ends, hends, hnexts, hreads'⟩ := ih hfields.2 hitems
      obtain ⟨front, hfront, hts, hall⟩ :=
        item_front hnext hvalue (by simpa using hends) hsplit hnexts
      refine ⟨front, hfront, hts, fun s rest all h => ?_⟩
      obtain ⟨_, hnext⟩ := hall s h
      obtain ⟨_, hitem⟩ := hreads (s.inside (.index n)) rfl
      obtain ⟨_, hitems⟩ := hreads' s rfl
      exact ⟨_, structItems_item hnext hitem hitems⟩

section Values

variable {expected : String} {initial : σ} {start stop : Mark} {rest : List Token}
  {h : left.length < rest.length}

lemma structOf_members
    (hmembers : structMembers fields s true [] initial rest = .ok (final, ⟨left, h⟩)) :
    structOf expected fields initial s (⟨.openObject, start, stop⟩ :: rest) =
      .ok (final, ⟨left, Nat.lt_succ_of_lt h⟩) := by
  rw [structOf, hmembers]
  rfl

lemma structOf_items (hitems : structItems s 0 initial rest fields = .ok (final, ⟨left, h⟩)) :
    structOf expected fields initial s (⟨.openList, start, stop⟩ :: rest) =
      .ok (final, ⟨left, Nat.lt_succ_of_lt h⟩) := by
  rw [structOf, hitems]
  rfl

end Values

lemma structOf_isLocal (expected : String) (initial : σ)
    (hfields : ∀ f ∈ fields, IsLocal f.decode) : IsLocal (structOf expected fields initial) := by
  intro s ts final r h
  rw [structOf.eq_def] at h
  split at h
  · obtain ⟨⟨final', r'⟩, hmembers, h⟩ := bind_eq_ok.mp h
    cases h
    obtain ⟨front, hends, hrest, hreads⟩ := structMembers_isLocal hfields hmembers
    refine ⟨_ :: front, .object rfl hends, congrArg (List.cons _) hrest, fun s rest all hall => ?_⟩
    subst hall
    obtain ⟨_, hmembers⟩ := hreads s rfl
    exact ⟨_, structOf_members hmembers⟩
  · obtain ⟨⟨final', r'⟩, hitems, h⟩ := bind_eq_ok.mp h
    cases h
    obtain ⟨front, hends, hrest, hreads⟩ := structItems_isLocal hfields hitems
    refine ⟨_ :: front, .list rfl (by simpa using hends), congrArg (List.cons _) hrest,
      fun s rest all hall => ?_⟩
    subst hall
    obtain ⟨_, hitems⟩ := hreads s rfl
    exact ⟨_, structOf_items hitems⟩
  · exact absurd h failType_ne_ok

lemma structOf_ne_ok_of_isScalar {expected : String} {initial : σ} {t : Token} {rest : List Token}
    (h : t.lexeme.isScalar = true) {x : σ × ProperRest (t :: rest)} :
    structOf expected fields initial s (t :: rest) ≠ .ok x := by
  rw [structOf]
  · exact failType_ne_ok
  all_goals
    rintro start stop rest' ⟨⟩
    cases h

end Structures

end ModuleBindings.Json.Decoder
