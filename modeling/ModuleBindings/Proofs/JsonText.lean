import Mathlib.Data.List.Basic
import Mathlib.Tactic.Lemma
import Mathlib.Tactic.SplitIfs
import ModuleBindings.Json.Lexeme
import ModuleBindings.Record.Json

/-!
# Reading records back from their JSON text

Everything that is written into the text is a prefix code: where one value ends can be seen from
the text, whatever follows. So the text of some records determines them.
-/

namespace ModuleBindings

/-- Of a text that begins with the code of a value, the value and what follows are known. -/
def IsPrefixCode {α : Type} (code : α → List Char) : Prop :=
  ∀ ⦃a b : α⦄ ⦃r s : List Char⦄, code a ++ r = code b ++ s → a = b ∧ r = s

namespace IsPrefixCode

variable {α : Type} {code : α → List Char}

lemma injective (h : IsPrefixCode code) : Function.Injective code := by
  intro a b hab
  exact (@h a b [] [] (by rw [hab])).1

/-- A code with a left inverse that also gives what follows. -/
lemma of_read (read : List Char → Option (α × List Char))
    (h : ∀ a r, read (code a ++ r) = some (a, r)) : IsPrefixCode code := by
  intro a b r s hab
  have hread := congrArg read hab
  simpa [h] using hread

/-- Values one after another, up to a mark that begins no code. -/
lemma flatMap_mark (h : IsPrefixCode code) {mark : Char}
    (hmark : ∀ a r s, code a ++ r ≠ mark :: s) :
    IsPrefixCode fun as : List α => as.flatMap code ++ [mark] := by
  intro as bs r s hab
  induction as generalizing bs with
  | nil =>
    cases bs with
    | nil => simpa using hab
    | cons b bs => exact absurd (by simpa using hab.symm) (hmark b _ _)
  | cons a as ih =>
    cases bs with
    | nil => exact absurd (by simpa using hab) (hmark a _ _)
    | cons b bs =>
      simp only [List.flatMap_cons, List.append_assoc] at hab
      obtain ⟨rfl, hrest⟩ := h hab
      obtain ⟨rfl, rfl⟩ := ih (by simpa using hrest)
      exact ⟨rfl, rfl⟩

end IsPrefixCode

namespace Json

/-- The inverse of `escapeChar`. -/
def unescape : List Char → Option (Char × List Char)
  | '\\' :: 'u' :: '0' :: '0' :: a :: b :: r => do
    let high ← Lexeme.hexValue? a
    let low ← Lexeme.hexValue? b
    some (Char.ofNat (16 * high + low), r)
  | '\\' :: 'n' :: r => some ('\n', r)
  | '\\' :: 'r' :: r => some ('\r', r)
  | '\\' :: 't' :: r => some ('\t', r)
  | '\\' :: 'b' :: r => some ('\x08', r)
  | '\\' :: 'f' :: r => some ('\x0c', r)
  | '\\' :: c :: r => some (c, r)
  | c :: r => some (c, r)
  | [] => none

lemma hexValue?_hexDigit (n : Nat) : Lexeme.hexValue? (hexDigit n) = some (n % 16) := by
  have hall : ∀ m < 16, Lexeme.hexValue? (Nat.digitChar m) = some m := by decide
  exact hall (n % 16) (Nat.mod_lt n (by decide))

lemma unescape_escapeChar (c : Char) (r : List Char) :
    unescape (escapeChar c ++ r) = some (c, r) := by
  unfold escapeChar
  split_ifs with quoteMark backslash lineFeed carriageReturn tab backspace formFeed control
  case pos | pos | pos | pos | pos | pos | pos => subst c; rfl
  case pos =>
    -- a control without a short form
    have hvalue : 16 * (c.toNat / 16 % 16) + c.toNat % 16 = c.toNat := by omega
    simp [unescape, hexValue?_hexDigit, hvalue]
  case neg => simp [unescape, backslash]

lemma isPrefixCode_escapeChar : IsPrefixCode escapeChar :=
  .of_read unescape unescape_escapeChar

lemma escapeChar_ne_mark (c : Char) (r s : List Char) : escapeChar c ++ r ≠ '"' :: s := by
  unfold escapeChar
  split_ifs with quote <;> simp [quote]

lemma isPrefixCode_quote : IsPrefixCode quote := by
  intro a b r s hab
  have hchars := isPrefixCode_escapeChar.flatMap_mark escapeChar_ne_mark
    (by simpa [quote] using hab : a.toList.flatMap escapeChar ++ ['"'] ++ r = _)
  exact ⟨String.toList_inj.mp hchars.1, hchars.2⟩

mutual

lemma prettyChars_append_inj (level : Nat) :
    ∀ (j j' : Json) {r s : List Char},
      prettyChars level j ++ r = prettyChars level j' ++ s → j = j' ∧ r = s
  | .text a, .text b, r, s, h => by
    simpa using isPrefixCode_quote (by simpa [prettyChars] using h)
  | .list as, .list bs, r, s, h => by
    simpa using prettyItems_append_inj level true as bs (by simpa [prettyChars] using h)
  | .object as, .object bs, r, s, h => by
    simpa using prettyMembers_append_inj level true as bs (by simpa [prettyChars] using h)
  | .text _, .list _, _, _, h => by simp [prettyChars, quote] at h
  | .text _, .object _, _, _, h => by simp [prettyChars, quote] at h
  | .list _, .text _, _, _, h => by simp [prettyChars, quote] at h
  | .list _, .object _, _, _, h => by simp [prettyChars] at h
  | .object _, .text _, _, _, h => by simp [prettyChars, quote] at h
  | .object _, .list _, _, _, h => by simp [prettyChars] at h

lemma prettyItems_append_inj (level : Nat) (first : Bool) :
    ∀ (as bs : List Json) {r s : List Char},
      prettyItems level first as ++ r = prettyItems level first bs ++ s → as = bs ∧ r = s
  | [], [], r, s, h => ⟨rfl, List.append_cancel_left h⟩
  | [], _ :: _, _, _, h => by cases first <;> simp [prettyItems, newLine] at h
  | _ :: _, [], _, _, h => by cases first <;> simp [prettyItems, newLine] at h
  | a :: as, b :: bs, r, s, h => by
    simp only [prettyItems, List.append_assoc, List.append_cancel_left_eq] at h
    obtain ⟨rfl, hrest⟩ := prettyChars_append_inj (level + 1) a b h
    obtain ⟨rfl, rfl⟩ := prettyItems_append_inj level false as bs hrest
    exact ⟨rfl, rfl⟩

lemma prettyMembers_append_inj (level : Nat) (first : Bool) :
    ∀ (as bs : List (String × Json)) {r s : List Char},
      prettyMembers level first as ++ r = prettyMembers level first bs ++ s → as = bs ∧ r = s
  | [], [], r, s, h => ⟨rfl, List.append_cancel_left h⟩
  | [], _ :: _, _, _, h => by cases first <;> simp [prettyMembers, newLine] at h
  | _ :: _, [], _, _, h => by cases first <;> simp [prettyMembers, newLine] at h
  | (key, a) :: as, (key', b) :: bs, r, s, h => by
    simp only [prettyMembers, List.append_assoc, List.append_cancel_left_eq] at h
    obtain ⟨rfl, hmember⟩ := isPrefixCode_quote h
    simp only [List.cons_append, List.cons.injEq, true_and] at hmember
    obtain ⟨rfl, hrest⟩ := prettyChars_append_inj (level + 1) a b hmember
    obtain ⟨rfl, rfl⟩ := prettyMembers_append_inj level false as bs hrest
    exact ⟨rfl, rfl⟩

end

theorem isPrefixCode_prettyChars (level : Nat) : IsPrefixCode (prettyChars level) :=
  fun j j' _ _ h => prettyChars_append_inj level j j' h

theorem pretty_injective : Function.Injective pretty := by
  intro j j' h
  exact (isPrefixCode_prettyChars 0).injective (String.ofList_injective h)

end Json

lemma Primitive.text_injective : Function.Injective Primitive.text := by
  intro p q h
  cases p <;> cases q <;> simp_all [Primitive.text]

@[simp] lemma TypeExpr.tagged_inj {kind kind' : String} {j j' : Json} :
    TypeExpr.toJson.tagged kind j = TypeExpr.toJson.tagged kind' j' ↔ kind = kind' ∧ j = j' := by
  simp [TypeExpr.toJson.tagged]

lemma TypeExpr.toJson_injective : Function.Injective TypeExpr.toJson := by
  intro t u h
  induction t generalizing u with
  | primitive p => cases u <;> simp_all [toJson, Primitive.text_injective.eq_iff]
  | record name => cases u <;> simp_all [toJson]
  | map t ih =>
    cases u with
    | map u => exact congrArg map (ih (by simpa [toJson] using h))
    | _ => simp [toJson] at h
  | list t ih =>
    cases u with
    | list u => exact congrArg list (ih (by simpa [toJson] using h))
    | _ => simp [toJson] at h
  | nullable t ih =>
    cases u with
    | nullable u => exact congrArg nullable (ih (by simpa [toJson] using h))
    | _ => simp [toJson] at h

namespace Record

lemma Field.toJson_injective : Function.Injective Field.toJson := by
  rintro ⟨name, description, type, tags⟩ ⟨name', description', type', tags'⟩ h
  have hmember : Function.Injective fun p : String × String => (p.1, Json.text p.2) := by
    rintro ⟨format, key⟩ ⟨format', key'⟩ hp
    simpa using hp
  simpa [Field.toJson, TypeExpr.toJson_injective.eq_iff, hmember.list_map.eq_iff, and_left_comm]
    using h

lemma toJson_injective : Function.Injective toJson := by
  rintro ⟨name, fields⟩ ⟨name', fields'⟩ h
  simpa [toJson, Field.toJson_injective.list_map.eq_iff] using h

/-- Two lists of records that have the same JSON text are the same, whatever their names,
descriptions, types and tags are. -/
theorem jsonText_inj (rs ss : List Record) : jsonText rs = jsonText ss ↔ rs = ss := by
  refine ⟨fun h => ?_, fun h => h ▸ rfl⟩
  have hitems := Json.list.inj (Json.pretty_injective h)
  exact toJson_injective.list_map hitems

end Record

end ModuleBindings
