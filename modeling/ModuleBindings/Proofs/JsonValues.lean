import Mathlib.Tactic.SplitIfs
import ModuleBindings.Json.Decoder
import ModuleBindings.Proofs.Except
import ModuleBindings.Proofs.LexemeFronts

/-!
# Values in front of other tokens

What tokens make up a JSON value, whatever follows them. The steps that all decoders share find
keys, items and ends by their tokens alone, and a value of no interest is skipped up to its end.
-/

namespace ModuleBindings.Json

open Proofs

/-- Whether a lexeme is a value by itself. -/
def Lexeme.isScalar : Lexeme → Bool
  | .null | .boolean _ | .number _ | .text _ => true
  | _ => false

/-- What stands before an item or a member: a comma, unless it is the first one. -/
inductive Separates : Bool → List Token → Prop
  | first : Separates true []
  | comma {t : Token} : t.lexeme = .comma → Separates false [t]

mutual

/-- One value, which may be of any type. -/
inductive IsValue : List Token → Prop
  | scalar {t : Token} : t.lexeme.isScalar = true → IsValue [t]
  | list {t : Token} {ts : List Token} :
    t.lexeme = .openList → EndsList true ts → IsValue (t :: ts)
  | object {t : Token} {ts : List Token} :
    t.lexeme = .openObject → EndsObject true ts → IsValue (t :: ts)

/-- The rest of a list up to its end, `first` if no item stands before it. -/
inductive EndsList : Bool → List Token → Prop
  | close {first : Bool} {t : Token} : t.lexeme = .closeList → EndsList first [t]
  | item {first : Bool} {separator value rest : List Token} :
    Separates first separator → IsValue value → EndsList false rest →
      EndsList first (separator ++ (value ++ rest))

/-- The rest of an object up to its end, `first` if no member stands before it. -/
inductive EndsObject : Bool → List Token → Prop
  | close {first : Bool} {t : Token} : t.lexeme = .closeObject → EndsObject first [t]
  | member {first : Bool} {separator value rest : List Token} {key colon : Token}
      {name : Except Flaw String} :
    Separates first separator → key.lexeme = .text name → colon.lexeme = .colon → IsValue value →
      EndsObject false rest → EndsObject first (separator ++ key :: colon :: (value ++ rest))

end

/-- At least one item and the end of its list, whether or not items stand before. -/
def HoldsItems (ts : List Token) : Prop :=
  ∀ ⦃first : Bool⦄ ⦃separator : List Token⦄,
    Separates first separator → EndsList first (separator ++ ts)

/-- At least one member and the end of its object, whether or not members stand before. -/
def HoldsMembers (ts : List Token) : Prop :=
  ∀ ⦃first : Bool⦄ ⦃separator : List Token⦄,
    Separates first separator → EndsObject first (separator ++ ts)

variable {s : Site} {ts : List Token}

lemma IsValue.head {value : List Token} (h : IsValue value) :
    ∃ t rest, value = t :: rest ∧ t.lexeme ≠ .closeList ∧ t.lexeme ≠ .closeObject := by
  rcases h with hscalar | ⟨hopen, hrest⟩ | ⟨hopen, hrest⟩
  · refine ⟨_, _, rfl, ?_, ?_⟩ <;> intro h <;> simp [h, Lexeme.isScalar] at hscalar
  · exact ⟨_, _, rfl, by simp [hopen], by simp [hopen]⟩
  · exact ⟨_, _, rfl, by simp [hopen], by simp [hopen]⟩

lemma EndsList.closes : ∀ {first : Bool} {ts : List Token}, EndsList first ts →
    ∃ init t, ts = init ++ [t] ∧ t.lexeme.closes = true
  | _, _, .close h => ⟨[], _, rfl, by rw [h]; rfl⟩
  | _, _, .item _ _ hrest => by
    obtain ⟨init, t, rfl, ht⟩ := hrest.closes
    exact ⟨_, t, by rw [← List.append_assoc, ← List.append_assoc], ht⟩

lemma EndsObject.closes : ∀ {first : Bool} {ts : List Token}, EndsObject first ts →
    ∃ init t, ts = init ++ [t] ∧ t.lexeme.closes = true
  | _, _, .close h => ⟨[], _, rfl, by rw [h]; rfl⟩
  | _, _, .member _ _ _ _ hrest => by
    obtain ⟨init, t, rfl, ht⟩ := hrest.closes
    exact ⟨_ ++ _ :: _ :: (_ ++ init), t, by simp; rfl, ht⟩

/-- An object ends at the first brace that stands where a member could. -/
lemma EndsObject.eq_nil {first : Bool} {t : Token} (h : EndsObject first (t :: ts))
    (ht : t.lexeme = .closeObject) : ts = [] := by
  generalize hall : t :: ts = all at h
  cases h with
  | close _ => exact (List.cons.inj hall).2
  | member hseparator hkey =>
    cases hseparator with
    | first =>
      obtain ⟨rfl, -⟩ := List.cons.inj hall
      simp [ht] at hkey
    | comma hcomma =>
      obtain ⟨rfl, -⟩ := List.cons.inj hall
      simp [ht] at hcomma

lemma IsValue.closes (h : IsValue ts) :
    (∃ t, ts = [t] ∧ t.lexeme.isScalar = true) ∨
      ∃ init t, ts = init ++ [t] ∧ t.lexeme.closes = true := by
  rcases h with hscalar | ⟨-, hends⟩ | ⟨-, hends⟩
  · exact .inl ⟨_, rfl, hscalar⟩
  · obtain ⟨init, t, rfl, ht⟩ := hends.closes
    exact .inr ⟨_ :: init, t, rfl, ht⟩
  · obtain ⟨init, t, rfl, ht⟩ := hends.closes
    exact .inr ⟨_ :: init, t, rfl, ht⟩

namespace Decoder

section Steps

variable {first : Bool} {name : String} {t : Token} {rest separator : List Token}

lemma length_lt_of_eq_append (h : ts = separator ++ t :: rest) : rest.length < ts.length :=
  length_le_of_eq_append h

lemma failAhead_ne_ok {α : Type} {fault : Fault} {a : α} : s.failAhead fault ts ≠ .ok a := by
  intro h
  cases ts <;> cases h

lemma failType_ne_ok {α : Type} {expected : String} {a : α} : s.failType expected ts ≠ .ok a := by
  intro h
  cases ts with
  | nil => cases h
  | cons t ts =>
    rw [Site.failType] at h
    dsimp only at h
    split at h <;> cases h

lemma eq_of_colon {r : ProperRest ts} (h : colon s ts = .ok r) :
    ∃ t, ts = t :: r.val ∧ t.lexeme = .colon := by
  cases ts with
  | nil => cases h
  | cons t rest =>
    rw [colon] at h
    split at h
    · next hcolon =>
      cases h
      exact ⟨t, rfl, hcolon⟩
    · cases h

lemma colon_of_lexeme (s : Site) (h : t.lexeme = .colon) (rest : List Token) :
    colon s (t :: rest) = .ok ⟨rest, Nat.lt_succ_self _⟩ := by
  rw [colon, h]

lemma eq_of_key {r : ProperRest ts} (h : key s ts = .ok (name, r)) :
    ∃ t, ts = t :: r.val ∧ t.lexeme = .text (.ok name) := by
  rw [key.eq_def] at h
  split at h
  · cases h
    exact ⟨_, rfl, rfl⟩
  · cases h
  · cases h
  · cases h
  · exact absurd h failAhead_ne_ok
  · exact absurd h failAhead_ne_ok

lemma key_of_lexeme (s : Site) (h : t.lexeme = .text (.ok name)) (rest : List Token) :
    key s (t :: rest) = .ok (name, ⟨rest, Nat.lt_succ_self _⟩) := by
  obtain ⟨lexeme, start, stop⟩ := t
  cases h
  rfl

/-- Either the object ends or there is another key, behind a comma if members stand before it. -/
lemma eq_of_nextKey {found : Option String} {r : ProperRest ts}
    (h : nextKey s first ts = .ok (found, r)) :
    (found = none ∧ ∃ t, ts = t :: r.val ∧ t.lexeme = .closeObject) ∨
      ∃ name separator t, found = some name ∧ Separates first separator ∧
        ts = separator ++ t :: r.val ∧ t.lexeme = .text (.ok name) := by
  cases ts with
  | nil => cases h
  | cons t rest =>
    simp only [nextKey] at h
    split at h
    · next hclose =>
      cases h
      exact .inl ⟨rfl, t, rfl, hclose⟩
    · next hcomma =>
      split_ifs at h with hfirst
      · cases h
      · obtain ⟨⟨name, r'⟩, hkey, h⟩ := bind_eq_ok.mp h
        obtain ⟨u, hrest, hu⟩ := eq_of_key hkey
        cases h
        refine .inr ⟨name, [t], u, rfl, ?_, congrArg (List.cons t) hrest, hu⟩
        rw [Bool.not_eq_true] at hfirst
        exact hfirst ▸ .comma hcomma
    · split_ifs at h with hfirst
      · obtain ⟨⟨name, r'⟩, hkey, h⟩ := bind_eq_ok.mp h
        obtain ⟨u, hrest, hu⟩ := eq_of_key hkey
        cases h
        exact .inr ⟨name, [], u, rfl, hfirst ▸ .first, hrest, hu⟩
      · cases h

lemma eq_of_nextKey_none {r : ProperRest ts} (h : nextKey s first ts = .ok (none, r)) :
    ∃ t, ts = t :: r.val ∧ t.lexeme = .closeObject := by
  obtain ⟨-, hclose⟩ | ⟨name, separator, t, ⟨⟩, -⟩ := eq_of_nextKey h
  exact hclose

lemma nextKey_close (s : Site) (first : Bool) (h : t.lexeme = .closeObject) (rest : List Token) :
    nextKey s first (t :: rest) = .ok (none, ⟨rest, Nat.lt_succ_self _⟩) := by
  simp only [nextKey]
  rw [h]

lemma nextKey_key (s : Site) (hseparator : Separates first separator)
    (ht : t.lexeme = .text (.ok name)) (hts : ts = separator ++ t :: rest) :
    nextKey s first ts = .ok (some name, ⟨rest, length_lt_of_eq_append hts⟩) := by
  cases hseparator with
  | first =>
    rw [List.nil_append] at hts
    subst hts
    simp only [nextKey]
    rw [ht]
    simp only [if_true]
    rw [key_of_lexeme _ ht]
    rfl
  | comma hcomma =>
    rw [List.singleton_append] at hts
    subst hts
    simp only [nextKey]
    rw [hcomma]
    simp only [Bool.false_eq_true, if_false]
    rw [key_of_lexeme _ ht]
    rfl

/-- A member with the others behind it: where its key is found, it is found before anything else as
well. -/
lemma member_front {r₁ : ProperRest ts} {r₂ : ProperRest r₁.val} {value next ends left : List Token}
    (hnext : nextKey s first ts = .ok (some name, r₁)) (hcolon : colon s r₁.val = .ok r₂)
    (hvalue : IsValue value) (hends : EndsObject false ends) (hsplit : r₂.val = value ++ next)
    (hsplit' : next = ends ++ left) :
    ∃ front, EndsObject first front ∧ ts = front ++ left ∧
      ∀ (s : Site) {rest all : List Token}, all = front ++ rest →
        ∃ c h, c.lexeme = .colon ∧
          nextKey s first all = .ok (some name, ⟨c :: (value ++ (ends ++ rest)), h⟩) := by
  obtain ⟨⟨⟩, -⟩ | ⟨_, separator, t, ⟨⟩, hseparator, hts, hkey⟩ := eq_of_nextKey hnext
  obtain ⟨c, hcolons, hc⟩ := eq_of_colon hcolon
  refine ⟨separator ++ t :: c :: (value ++ ends), .member hseparator hkey hc hvalue hends, ?_,
    fun s rest all hall => ?_⟩
  · rw [hts, hcolons, hsplit, hsplit']
    simp
  · have hall' : all = separator ++ t :: c :: (value ++ (ends ++ rest)) := by simp [hall]
    exact ⟨c, _, hc, nextKey_key s hseparator hkey hall'⟩

/-- Either the list ends or there is another item, behind a comma if items stand before it. -/
lemma eq_of_nextItem {found : ProperRest ts ⊕ Rest ts} (h : nextItem s first ts = .ok found) :
    (∃ r t, found = .inl r ∧ ts = t :: r.val ∧ t.lexeme = .closeList) ∨
      ∃ r separator, found = .inr r ∧ Separates first separator ∧ ts = separator ++ r.val := by
  cases ts with
  | nil => cases h
  | cons t rest =>
    simp only [nextItem] at h
    split at h
    · next hclose =>
      cases h
      exact .inl ⟨_, t, rfl, rfl, hclose⟩
    · next hcomma =>
      split_ifs at h with hfirst
      · cases h
        exact .inr ⟨_, [], rfl, hfirst ▸ .first, rfl⟩
      · rw [Bool.not_eq_true] at hfirst
        cases rest with
        | nil => cases h
        | cons u more =>
          dsimp only at h
          split at h
          · cases h
          · cases h
            exact .inr ⟨_, [t], rfl, hfirst ▸ .comma hcomma, rfl⟩
    · split_ifs at h with hfirst
      · cases h
        exact .inr ⟨_, [], rfl, hfirst ▸ .first, rfl⟩
      · cases h

lemma nextItem_close (s : Site) (first : Bool) (h : t.lexeme = .closeList) (rest : List Token) :
    nextItem s first (t :: rest) = .ok (.inl ⟨rest, Nat.lt_succ_self _⟩) := by
  simp only [nextItem]
  rw [h]

lemma nextItem_item (s : Site) (hseparator : Separates first separator)
    (ht : t.lexeme ≠ .closeList) (hts : ts = separator ++ t :: rest) :
    nextItem s first ts = .ok (.inr ⟨t :: rest, length_le_of_eq_append hts⟩) := by
  cases hseparator with
  | first =>
    rw [List.nil_append] at hts
    subst hts
    simp only [nextItem]
    split
    · next hclose => exact absurd hclose ht
    · rfl
    · rfl
  | comma hcomma =>
    rw [List.singleton_append] at hts
    subst hts
    simp only [nextItem]
    rw [hcomma]
    simp only [Bool.false_eq_true, if_false]

/-- An item with the others behind it: where it is found, it is found before anything else as
well. -/
lemma item_front {r : Rest ts} {value next ends left : List Token}
    (hnext : nextItem s first ts = .ok (.inr r)) (hvalue : IsValue value)
    (hends : EndsList false ends) (hsplit : r.val = value ++ next) (hsplit' : next = ends ++ left) :
    ∃ front, EndsList first front ∧ ts = front ++ left ∧
      ∀ (s : Site) {rest all : List Token}, all = front ++ rest →
        ∃ h, nextItem s first all = .ok (.inr ⟨value ++ (ends ++ rest), h⟩) := by
  obtain ⟨_, _, ⟨⟩, -⟩ | ⟨_, separator, ⟨⟩, hseparator, hts⟩ := eq_of_nextItem hnext
  refine ⟨separator ++ (value ++ ends), .item hseparator hvalue hends, ?_,
    fun s rest all hall => ?_⟩
  · rw [hts, hsplit, hsplit']
    simp
  · obtain ⟨t, more, rfl, ht, -⟩ := hvalue.head
    have hall' : all = separator ++ t :: (more ++ (ends ++ rest)) := by simp [hall]
    exact ⟨_, nextItem_item s hseparator ht hall'⟩

lemma eq_of_nextItem_inl {r : ProperRest ts} (h : nextItem s first ts = .ok (.inl r)) :
    ∃ t, ts = t :: r.val ∧ t.lexeme = .closeList := by
  obtain ⟨_, t, ⟨⟩, hclose⟩ | ⟨_, _, ⟨⟩, -⟩ := eq_of_nextItem h
  exact ⟨t, hclose⟩

lemma eq_of_endOfList {r : ProperRest ts} (h : endOfList s ts = .ok r) :
    ∃ t, ts = t :: r.val ∧ t.lexeme = .closeList := by
  cases ts with
  | nil => cases h
  | cons t rest =>
    obtain ⟨lexeme, start, stop⟩ := t
    cases lexeme
    case closeList =>
      cases h
      exact ⟨_, rfl, rfl⟩
    case comma =>
      rcases rest with - | ⟨⟨next, start', stop'⟩, more⟩
      · cases h
      · cases next <;> cases h
    all_goals cases h

lemma endOfList_close (s : Site) (h : t.lexeme = .closeList) (rest : List Token) :
    endOfList s (t :: rest) = .ok ⟨rest, Nat.lt_succ_self _⟩ := by
  rw [endOfList, h]

end Steps

section Ignored

/-- Exactly these tokens are skipped, whatever follows them. -/
def Skips (skip : Site → (ts : List Token) → Except Error (ProperRest ts)) (front : List Token) :
    Prop :=
  ∀ (s : Site) {rest all : List Token}, all = front ++ rest → ∃ h, skip s all = .ok ⟨rest, h⟩

/-- The first token is taken if any is. -/
lemma exists_eq_cons {t : Token} {rest front left : List Token} (h : t :: rest = front ++ left)
    (hleft : left.length < (t :: rest).length) : ∃ front', front = t :: front' := by
  cases front with
  | nil =>
    rw [h, List.nil_append] at hleft
    exact absurd hleft (lt_irrefl _)
  | cons first front =>
    rw [List.cons_append, List.cons.injEq] at h
    rw [h.1]
    exact ⟨front, rfl⟩

section Cases

variable {t u : Token} {rest more left : List Token}

lemma ignored_scalar (s : Site) (h : t.lexeme.isScalar = true) (rest : List Token) :
    ignored s (t :: rest) = .ok ⟨rest, Nat.lt_succ_self _⟩ := by
  rw [ignored.eq_def]
  obtain ⟨lexeme, start, stop⟩ := t
  cases lexeme <;> first | rfl | cases h

lemma ignored_noItems (s : Site) (ht : t.lexeme = .openList) (hu : u.lexeme = .closeList)
    (rest : List Token) :
    ignored s (t :: u :: rest) = .ok ⟨rest, Nat.lt_succ_of_lt (Nat.lt_succ_self _)⟩ := by
  rw [ignored.eq_def]
  dsimp only
  rw [ht]
  dsimp only
  rw [hu]

lemma ignored_items (ht : t.lexeme = .openList) (hu : u.lexeme ≠ .closeList)
    {h : left.length < (u :: more).length} (hitems : ignoredItems s (u :: more) = .ok ⟨left, h⟩) :
    ignored s (t :: u :: more) = .ok ⟨left, Nat.lt_succ_of_lt h⟩ := by
  rw [ignored.eq_def]
  dsimp only
  rw [ht]
  dsimp only
  split
  · next hclose => exact absurd hclose hu
  · rw [hitems]
    rfl

lemma ignored_noMembers (s : Site) (ht : t.lexeme = .openObject) (hu : u.lexeme = .closeObject)
    (rest : List Token) :
    ignored s (t :: u :: rest) = .ok ⟨rest, Nat.lt_succ_of_lt (Nat.lt_succ_self _)⟩ := by
  rw [ignored.eq_def]
  dsimp only
  rw [ht]
  dsimp only
  rw [hu]

lemma ignored_members (ht : t.lexeme = .openObject) (hu : u.lexeme ≠ .closeObject)
    {h : left.length < (u :: more).length}
    (hmembers : ignoredMembers s (u :: more) = .ok ⟨left, h⟩) :
    ignored s (t :: u :: more) = .ok ⟨left, Nat.lt_succ_of_lt h⟩ := by
  rw [ignored.eq_def]
  dsimp only
  rw [ht]
  dsimp only
  split
  · next hclose => exact absurd hclose hu
  · rw [hmembers]
    rfl

lemma ignoredItems_last {h : (t :: rest).length < ts.length}
    (hitem : ignored s ts = .ok ⟨t :: rest, h⟩) (ht : t.lexeme = .closeList) :
    ignoredItems s ts = .ok ⟨rest, Nat.lt_of_succ_lt h⟩ := by
  rw [ignoredItems, hitem]
  dsimp only [Bind.bind, Except.bind]
  rw [ht]
  rfl

lemma ignoredItems_more {h : (t :: rest).length < ts.length}
    (hitem : ignored s ts = .ok ⟨t :: rest, h⟩) (ht : t.lexeme = .comma)
    {h' : left.length < rest.length} (hitems : ignoredItems s rest = .ok ⟨left, h'⟩) :
    ignoredItems s ts = .ok ⟨left, h'.trans (Nat.lt_of_succ_lt h)⟩ := by
  rw [ignoredItems, hitem]
  dsimp only [Bind.bind, Except.bind]
  rw [ht]
  dsimp only
  rw [hitems]
  rfl

lemma ignoredMembers_last {name : Except Flaw String} {colon : Token}
    (ht : t.lexeme = .text name) (hcolon : colon.lexeme = .colon)
    {h : (u :: more).length < rest.length}
    (hvalue : ignored s rest = .ok ⟨u :: more, h⟩) (hu : u.lexeme = .closeObject) :
    ignoredMembers s (t :: colon :: rest) =
      .ok ⟨more, Nat.lt_succ_of_lt (Nat.lt_succ_of_lt (Nat.lt_of_succ_lt h))⟩ := by
  rw [ignoredMembers.eq_def]
  dsimp only
  rw [ht]
  dsimp only
  rw [colon_of_lexeme s hcolon]
  dsimp only [Bind.bind, Except.bind]
  rw [hvalue]
  dsimp only
  rw [hu]
  rfl

lemma ignoredMembers_more {name : Except Flaw String} {colon : Token}
    (ht : t.lexeme = .text name) (hcolon : colon.lexeme = .colon)
    {h : (u :: more).length < rest.length}
    (hvalue : ignored s rest = .ok ⟨u :: more, h⟩) (hu : u.lexeme = .comma)
    {h' : left.length < more.length} (hmembers : ignoredMembers s more = .ok ⟨left, h'⟩) :
    ignoredMembers s (t :: colon :: rest) =
      .ok ⟨left, Nat.lt_succ_of_lt (Nat.lt_succ_of_lt (h'.trans (Nat.lt_of_succ_lt h)))⟩ := by
  rw [ignoredMembers.eq_def]
  dsimp only
  rw [ht]
  dsimp only
  rw [colon_of_lexeme s hcolon]
  dsimp only [Bind.bind, Except.bind]
  rw [hvalue]
  dsimp only
  rw [hu]
  dsimp only
  rw [hmembers]
  rfl

end Cases

mutual

lemma ignored_takes {s : Site} {ts : List Token} {r : ProperRest ts} (h : ignored s ts = .ok r) :
    ∃ front, IsValue front ∧ ts = front ++ r.val ∧ Skips ignored front := by
  cases ts with
  | nil => simp [ignored, Site.fail] at h
  | cons t rest =>
    by_cases hscalar : t.lexeme.isScalar = true
    · rw [ignored_scalar s hscalar] at h
      cases h
      refine ⟨[t], .scalar hscalar, rfl, fun s rest all hall => ?_⟩
      subst hall
      exact ⟨_, ignored_scalar s hscalar rest⟩
    rw [ignored.eq_def] at h
    dsimp only at h
    split at h
    case h_5 hopen =>
      split at h
      · cases h
      · next u more =>
        split at h
        · next hclose =>
          cases h
          refine ⟨[t, u], .list hopen (.close hclose), rfl, fun s rest all hall => ?_⟩
          subst hall
          exact ⟨_, ignored_noItems s hopen hclose rest⟩
        · next hmore =>
          obtain ⟨r', hitems, h⟩ := bind_eq_ok.mp h
          obtain ⟨front, hfront, hsplit, hskips⟩ := ignoredItems_takes hitems
          cases h
          obtain ⟨front, rfl⟩ := exists_eq_cons hsplit r'.property
          refine ⟨t :: u :: front, .list hopen (hfront .first), congrArg (List.cons t) hsplit,
            fun s rest all hall => ?_⟩
          subst hall
          obtain ⟨_, hrest⟩ := hskips s rfl
          exact ⟨_, ignored_items hopen hmore hrest⟩
    case h_6 hopen =>
      split at h
      · cases h
      · next u more =>
        split at h
        · next hclose =>
          cases h
          refine ⟨[t, u], .object hopen (.close hclose), rfl, fun s rest all hall => ?_⟩
          subst hall
          exact ⟨_, ignored_noMembers s hopen hclose rest⟩
        · next hmore =>
          obtain ⟨r', hmembers, h⟩ := bind_eq_ok.mp h
          obtain ⟨front, hfront, hsplit, hskips⟩ := ignoredMembers_takes hmembers
          cases h
          obtain ⟨front, rfl⟩ := exists_eq_cons hsplit r'.property
          refine ⟨t :: u :: front, .object hopen (hfront .first), congrArg (List.cons t) hsplit,
            fun s rest all hall => ?_⟩
          subst hall
          obtain ⟨_, hrest⟩ := hskips s rfl
          exact ⟨_, ignored_members hopen hmore hrest⟩
    all_goals simp_all [Lexeme.isScalar, Site.failWith, Site.fail]
termination_by 2 * ts.length

lemma ignoredItems_takes {s : Site} {ts : List Token} {r : ProperRest ts}
    (h : ignoredItems s ts = .ok r) :
    ∃ front, HoldsItems front ∧ ts = front ++ r.val ∧ Skips ignoredItems front := by
  rw [ignoredItems] at h
  obtain ⟨⟨left, hleft⟩, hitem, h⟩ := bind_eq_ok.mp h
  obtain ⟨value, hvalue, hts, hskips⟩ := ignored_takes hitem
  cases left with
  | nil => cases h
  | cons t rest =>
    have hrest : rest.length < ts.length := Nat.lt_of_succ_lt hleft
    dsimp only at h hts
    split at h
    · next hcomma =>
      obtain ⟨r', hitems, h⟩ := bind_eq_ok.mp h
      obtain ⟨front, hfront, hsplit, hskips'⟩ := ignoredItems_takes hitems
      cases h
      refine ⟨value ++ t :: front, fun first separator hseparator => ?_, ?_,
        fun s rest all hall => ?_⟩
      · exact .item hseparator hvalue (hfront (.comma hcomma))
      · rw [List.append_assoc, List.cons_append, ← hsplit]
        exact hts
      · rw [List.append_assoc] at hall
        obtain ⟨_, hitem⟩ := hskips s hall
        obtain ⟨_, hitems⟩ := hskips' s rfl
        exact ⟨_, ignoredItems_more hitem hcomma hitems⟩
    · next hclose =>
      cases h
      refine ⟨value ++ [t], fun first separator hseparator => ?_, ?_, fun s rest all hall => ?_⟩
      · exact .item hseparator hvalue (.close hclose)
      · rw [List.append_assoc]
        exact hts
      · rw [List.append_assoc] at hall
        obtain ⟨_, hitem⟩ := hskips s hall
        exact ⟨_, ignoredItems_last hitem hclose⟩
    · cases h
termination_by 2 * ts.length + 1

lemma ignoredMembers_takes {s : Site} {ts : List Token} {r : ProperRest ts}
    (h : ignoredMembers s ts = .ok r) :
    ∃ front, HoldsMembers front ∧ ts = front ++ r.val ∧ Skips ignoredMembers front := by
  cases ts with
  | nil => simp [ignoredMembers, Site.fail] at h
  | cons key rest =>
    rw [ignoredMembers.eq_def] at h
    dsimp only at h
    split at h
    · cases h
    · next name hkey =>
      obtain ⟨⟨afterColon, h₁⟩, hcolon, h⟩ := bind_eq_ok.mp h
      obtain ⟨⟨left, h₂⟩, hskipped, h⟩ := bind_eq_ok.mp h
      obtain ⟨colon, hrest, hcolon⟩ := eq_of_colon hcolon
      obtain ⟨value, hvalue, hsplit, hskips⟩ := ignored_takes hskipped
      cases left with
      | nil => cases h
      | cons u more =>
        dsimp only at h hrest hsplit
        have hmore : more.length < afterColon.length := Nat.lt_of_succ_lt h₂
        split at h
        · next hcomma =>
          obtain ⟨r', hmembers, h⟩ := bind_eq_ok.mp h
          obtain ⟨front, hfront, hsplit', hskips'⟩ := ignoredMembers_takes hmembers
          cases h
          refine ⟨key :: colon :: (value ++ u :: front), fun first separator hseparator => ?_, ?_,
            fun s rest all hall => ?_⟩
          · exact .member hseparator hkey hcolon hvalue (hfront (.comma hcomma))
          · have hmembers : afterColon = value ++ u :: (front ++ r'.val) := by
              rw [← hsplit']
              exact hsplit
            dsimp only
            rw [hrest, hmembers]
            simp
          · rw [List.cons_append, List.cons_append, List.append_assoc] at hall
            subst hall
            obtain ⟨_, hvalue⟩ := hskips s rfl
            obtain ⟨_, hmembers⟩ := hskips' s rfl
            exact ⟨_, ignoredMembers_more hkey hcolon hvalue hcomma hmembers⟩
        · next hclose =>
          cases h
          refine ⟨key :: colon :: (value ++ [u]), fun first separator hseparator => ?_, ?_,
            fun s rest all hall => ?_⟩
          · exact .member hseparator hkey hcolon hvalue (.close hclose)
          · dsimp only
            rw [hrest, hsplit]
            simp
          · rw [List.cons_append, List.cons_append, List.append_assoc] at hall
            subst hall
            obtain ⟨_, hvalue⟩ := hskips s rfl
            exact ⟨_, ignoredMembers_last hkey hcolon hvalue hclose⟩
        · cases h
    · cases h
termination_by 2 * ts.length + 1
decreasing_by
  all_goals
    subst_vars
    simp only [List.length_cons] at *
    omega

end

end Ignored

end Decoder

end ModuleBindings.Json
