import ModuleBindings.Json.Lexeme
import ModuleBindings.Proofs.Except
import Mathlib.Data.List.TakeWhile
import Mathlib.Tactic.SplitIfs

/-!
# The front of a JSON text

The tokens of a text up to the end of a list or an object are settled by the characters up to
there. What follows may be anything, or nothing at all.

A scanner leaves what it does not take. The lemmas here say that it takes the same characters
with the same result before other characters as well. A numeral also looks at the character
after it, so there what follows has to begin with the same one.
-/

namespace ModuleBindings.Json

open Proofs

variable {m m' : Mark} {cs : List Char}

/-- What is left is no longer than the whole. -/
lemma length_le_of_eq_append {α : Type} {front rest all : List α} (h : all = front ++ rest) :
    rest.length ≤ all.length := by
  rw [h, List.length_append]
  exact Nat.le_add_left ..

namespace Lexeme

/-- What is read from the front is read there as well if something else follows that begins in the
same way. -/
def TakesFront (read : (cs : List Char) → Lexeme × Mark × Option (Rest cs)) : Prop :=
  ∀ ⦃cs : List Char⦄ ⦃lexeme : Lexeme⦄ ⦃stop : Mark⦄ ⦃r : Rest cs⦄,
    read cs = (lexeme, stop, some r) →
      ∃ used, cs = used ++ r.val ∧ ∀ {rest all : List Char} (hall : all = used ++ rest),
        rest.head? = r.val.head? →
          read all = (lexeme, stop, some ⟨rest, length_le_of_eq_append hall⟩)

lemma scanHex_front {n : Nat} {r : Rest cs} (h : scanHex m cs = .ok (n, m', r)) :
    ∃ used, cs = used ++ r.val ∧
      ∀ rest, scanHex m (used ++ rest) = .ok (n, m', ⟨rest, length_le_of_eq_append rfl⟩) := by
  rw [scanHex.eq_def] at h
  dsimp only at h
  split at h
  · next a b c d rest =>
    split at h
    · next ha hb hc hd =>
      cases h
      refine ⟨[a, b, c, d], rfl, fun rest' => ?_⟩
      simp only [scanHex, List.cons_append, List.nil_append, ha, hb, hc, hd]
    · cases h
  · cases h

/-- What a text says if it is read. -/
def spoken (m : Mark) (done cs : List Char) : Except Flaw String :=
  (scanText true m done cs).map Prod.fst

section Texts

variable {c : Char} {done : List Char}

lemma spoken_quote : spoken m done ('"' :: cs) = .ok (String.ofList done.reverse) := by
  simp [spoken, scanText, Except.map]

lemma spoken_escape :
    spoken m done ('\\' :: cs) =
      scanEscape true (m.advance '\\') cs >>= fun (x, m', r) =>
        spoken m' (x.toList ++ done) r.val := by
  rw [spoken, scanText, if_neg (by decide), if_pos rfl]
  cases scanEscape true (m.advance '\\') cs with
  | error f => rfl
  | ok found =>
    obtain ⟨x, m', r⟩ := found
    dsimp only [spoken, Bind.bind, Except.bind]
    cases scanText true m' (x.toList ++ done) r.val <;> rfl

lemma spoken_plain (hquote : c ≠ '"') (hescape : c ≠ '\\') (hcontrol : ¬ c.toNat < 0x20) :
    spoken m done (c :: cs) = spoken (m.advance c) (c :: done) cs := by
  rw [spoken, scanText, if_neg hquote, if_neg hescape, if_neg hcontrol, spoken]
  cases scanText true (m.advance c) (c :: done) cs <;> rfl

/-- What a text says behind an escaped first half of a surrogate pair. -/
def spokenLow (high : Nat) (m : Mark) (done cs : List Char) : Except Flaw String :=
  scanLowSurrogate high m cs >>= fun (c, m', r) => spoken m' (c :: done) r.val

/-- The characters that end a text whose opening mark stands before them, under the rules for
what is skipped. -/
inductive EndsText (stop : Mark) : Mark → List Char → Prop
  | close {m : Mark} : m.advance '"' = stop → EndsText stop m ['"']
  | plain {m : Mark} {c : Char} {cs : List Char} :
    c ≠ '"' → c ≠ '\\' → ¬ c.toNat < 0x20 → EndsText stop (m.advance c) cs →
      EndsText stop m (c :: cs)
  | simple {m : Mark} {c d : Char} {cs : List Char} :
    simpleEscape? c = some d → EndsText stop ((m.advance '\\').advance c) cs →
      EndsText stop m ('\\' :: c :: cs)
  | unicode {m m' : Mark} {n : Nat} {hex cs : List Char} :
    (∀ rest, scanHex ((m.advance '\\').advance 'u') (hex ++ rest) =
      .ok (n, m', ⟨rest, length_le_of_eq_append rfl⟩)) → EndsText stop m' cs →
      EndsText stop m ('\\' :: 'u' :: (hex ++ cs))

lemma advanceBytes_zero (m : Mark) (cs : List Char) : m.advanceBytes 0 cs = m := by
  cases cs with
  | nil => rfl
  | cons c cs =>
    rw [Mark.advanceBytes, if_neg (Nat.not_le.mpr c.utf8Size_pos)]
    rfl

/-- Only the first character tells where its first byte ends. -/
lemma ahead_cons (m : Mark) (c : Char) (cs : List Char) : m.ahead (c :: cs) = m.ahead [c] := by
  have hsize : 1 - c.utf8Size = 0 := Nat.sub_eq_zero_of_le c.utf8Size_pos
  rw [Mark.ahead, Mark.ahead, Mark.advanceBytes, Mark.advanceBytes, hsize, advanceBytes_zero,
    advanceBytes_zero]

lemma not_u_of_simpleEscape? {c d : Char} (h : simpleEscape? c = some d) : c ≠ 'u' := by
  rintro rfl
  cases h

lemma scanEscape_simple {read : Bool} {d : Char} (h : simpleEscape? c = some d) :
    scanEscape read m (c :: cs) = .ok (some d, m.advance c, Rest.tail c cs) := by
  rw [scanEscape, h]
  rintro rfl
  exact not_u_of_simpleEscape? h rfl

/-- Without a backslash there is no second half. -/
lemma spokenLow_cons (high : Nat) (h : c ≠ '\\') :
    spokenLow high m done (c :: cs) = .error ⟨.unfinishedSurrogatePair, m.ahead [c]⟩ := by
  rw [spokenLow, scanLowSurrogate, ahead_cons]
  · rfl
  all_goals simp [h]

lemma spokenLow_escape (high : Nat) (h : c ≠ 'u') :
    spokenLow high m done ('\\' :: c :: cs) =
      .error ⟨.unfinishedSurrogatePair, (m.advance '\\').ahead [c]⟩ := by
  rw [spokenLow, scanLowSurrogate, ahead_cons]
  · rfl
  all_goals simp [h]

lemma spokenLow_unicode (high : Nat) :
    spokenLow high m done ('\\' :: 'u' :: cs) =
      scanHex ((m.advance '\\').advance 'u') cs >>= fun (low, m', r) =>
        if isTrailingSurrogate low then
          spoken m' (Char.ofNat (0x10000 + (high - 0xD800) * 0x400 + (low - 0xDC00)) :: done) r.val
        else .error ⟨.loneSurrogate, m'⟩ := by
  rw [spokenLow, scanLowSurrogate]
  have hmark : (m.advance '\\').advance 'u' = ⟨m.line, m.column + 2⟩ := rfl
  rw [hmark]
  cases scanHex ⟨m.line, m.column + 2⟩ cs with
  | error f => rfl
  | ok found =>
    obtain ⟨low, m', r⟩ := found
    dsimp only [Bind.bind, Except.bind]
    split_ifs with htrailing
    · dsimp only [Pure.pure, Except.pure]
    · rfl

lemma spoken_unicode :
    spoken m done ('\\' :: 'u' :: cs) =
      scanHex ((m.advance '\\').advance 'u') cs >>= fun (n, m', r) =>
        if isTrailingSurrogate n then .error ⟨.loneSurrogate, m'⟩
        else if isLeadingSurrogate n then spokenLow n m' done r.val
        else spoken m' (Char.ofNat n :: done) r.val := by
  rw [spoken_escape, scanEscape]
  cases scanHex ((m.advance '\\').advance 'u') cs with
  | error f => rfl
  | ok found =>
    obtain ⟨n, m', r⟩ := found
    dsimp only [Bind.bind, Except.bind]
    simp only [Bool.not_true, Bool.false_eq_true, if_false]
    split_ifs with htrailing hleading
    · rfl
    · rw [spokenLow]
      cases scanLowSurrogate n m' r.val <;> rfl
    · rfl

lemma EndsText.spoken_append {stop : Mark} (h : EndsText stop m cs) :
    (∀ done rest, spoken m done (cs ++ rest) = spoken m done cs) ∧
      ∀ high done rest, spokenLow high m done (cs ++ rest) = spokenLow high m done cs := by
  induction h with
  | close hstop =>
    refine ⟨fun done rest => ?_, fun high done rest => ?_⟩
    · rw [List.singleton_append, spoken_quote, spoken_quote]
    · rw [List.singleton_append, spokenLow_cons high (by decide), spokenLow_cons high (by decide)]
  | plain hquote hescape hcontrol _ ih =>
    refine ⟨fun done rest => ?_, fun high done rest => ?_⟩
    · rw [List.cons_append, spoken_plain hquote hescape hcontrol,
        spoken_plain hquote hescape hcontrol, ih.1]
    · rw [List.cons_append, spokenLow_cons high hescape, spokenLow_cons high hescape]
  | simple hsimple _ ih =>
    refine ⟨fun done rest => ?_, fun high done rest => ?_⟩
    · rw [List.cons_append, List.cons_append, spoken_escape, spoken_escape,
        scanEscape_simple hsimple, scanEscape_simple hsimple]
      exact ih.1 ..
    · have hu := not_u_of_simpleEscape? hsimple
      rw [List.cons_append, List.cons_append, spokenLow_escape high hu, spokenLow_escape high hu]
  | unicode hhex _ ih =>
    refine ⟨fun done rest => ?_, fun high done rest => ?_⟩
    · rw [List.cons_append, List.cons_append, List.append_assoc, spoken_unicode, spoken_unicode,
        hhex, hhex]
      dsimp only [Bind.bind, Except.bind]
      rw [ih.1, ih.2]
    · rw [List.cons_append, List.cons_append, List.append_assoc, spokenLow_unicode,
        spokenLow_unicode, hhex, hhex]
      dsimp only [Bind.bind, Except.bind]
      rw [ih.1]

lemma scanEscape_unicode {n : Nat} {r : Rest cs} (h : scanHex (m.advance 'u') cs = .ok (n, m', r)) :
    scanEscape false m ('u' :: cs) = .ok (none, m', (Rest.tail 'u' cs).trans r) := by
  rw [scanEscape, h]
  rfl

lemma scanText_escape {x : Option Char} {r : Rest cs} {said : String} {stop : Mark}
    {rest : List Char} {hrest : rest.length ≤ r.val.length}
    (hescape : scanEscape false (m.advance '\\') cs = .ok (x, m', r))
    (htext : scanText false m' (x.toList ++ done) r.val = .ok (said, stop, ⟨rest, hrest⟩)) :
    scanText false m done ('\\' :: cs) =
      .ok (said, stop, ⟨rest, by have := r.property; simp; omega⟩) := by
  rw [scanText, if_neg (by decide), if_pos rfl, hescape]
  dsimp only
  rw [htext]

lemma EndsText.scanText {stop : Mark} (h : EndsText stop m cs) (done : List Char)
    {rest all : List Char} (hall : all = cs ++ rest) :
    ∃ said, scanText false m done all = .ok (said, stop, ⟨rest, length_le_of_eq_append hall⟩) := by
  induction h generalizing done all with
  | close hstop =>
    subst hall
    refine ⟨String.ofList done.reverse, ?_⟩
    change Lexeme.scanText false _ done ('"' :: rest) = _
    rw [Lexeme.scanText, if_pos rfl, hstop]
    rfl
  | plain hquote hescape hcontrol _ ih =>
    subst hall
    obtain ⟨said, hsaid⟩ := ih (_ :: done) rfl
    refine ⟨said, ?_⟩
    simp only [List.cons_append]
    rw [Lexeme.scanText, if_neg hquote, if_neg hescape, if_neg hcontrol, hsaid]
  | simple hsimple _ ih =>
    subst hall
    obtain ⟨said, hsaid⟩ := ih (_ :: done) rfl
    exact ⟨said, scanText_escape (scanEscape_simple hsimple) hsaid⟩
  | unicode hhex _ ih =>
    rw [List.cons_append, List.cons_append, List.append_assoc] at hall
    subst hall
    obtain ⟨said, hsaid⟩ := ih done rfl
    exact ⟨said, scanText_escape (scanEscape_unicode (hhex _)) hsaid⟩

/-- An escape that is skipped leads on to the end of a text. -/
lemma exists_escape {x : Option Char} {r : Rest cs}
    (h : scanEscape false (m.advance '\\') cs = .ok (x, m', r)) :
    ∃ used, cs = used ++ r.val ∧
      ∀ {stop rest}, EndsText stop m' rest → EndsText stop m ('\\' :: (used ++ rest)) := by
  rw [scanEscape.eq_def] at h
  split at h
  · cases h
  · next rest =>
    obtain ⟨⟨n, m₁, r₁⟩, hhex, h⟩ := bind_eq_ok.mp h
    cases h
    obtain ⟨hex, hrest, hhex⟩ := scanHex_front hhex
    exact ⟨'u' :: hex, congrArg (List.cons 'u') hrest, .unicode hhex⟩
  · next c rest _ =>
    split at h
    · next d hsimple =>
      cases h
      exact ⟨[c], rfl, .simple hsimple⟩
    · cases h

lemma exists_endsText {m stop : Mark} {done cs : List Char} {said : String} {r : Rest cs}
    (h : scanText false m done cs = .ok (said, stop, r)) :
    ∃ used, cs = used ++ r.val ∧ EndsText stop m used := by
  cases cs with
  | nil =>
    rw [Lexeme.scanText] at h
    cases h
  | cons c cs =>
    rw [Lexeme.scanText] at h
    split_ifs at h with hquote hescape hcontrol
    · cases h
      exact ⟨['"'], by rw [hquote]; rfl, .close (by rw [hquote])⟩
    · split at h
      · cases h
      · next x m₁ r₁ hr₁ hfound =>
        split at h
        · cases h
        · next said' m₂ r₂ hr₂ htext =>
          cases h
          obtain ⟨used₁, hused₁, hends⟩ := exists_escape (hescape ▸ hfound)
          obtain ⟨used₂, hused₂, hends₂⟩ := exists_endsText htext
          refine ⟨'\\' :: (used₁ ++ used₂), ?_, hends hends₂⟩
          dsimp only at hused₁ hused₂ ⊢
          rw [hescape, hused₁, hused₂, List.cons_append, List.append_assoc]
    · split at h
      · cases h
      · next said' m₁ r₁ hr₁ htext =>
        cases h
        obtain ⟨used, hused, hends⟩ := exists_endsText htext
        exact ⟨c :: used, congrArg (List.cons c) hused, .plain hquote hescape hcontrol hends⟩
termination_by cs.length
decreasing_by
  all_goals
    subst_vars
    simp only [List.length_cons]
    omega

/-- What a text says, or its flaw if that is read, is settled where it ends. -/
lemma EndsText.ofText {stop : Mark} {rest all : List Char} (h : EndsText stop m cs)
    (hall : all = cs ++ rest) :
    ofText m all = (.text (spoken m [] cs), stop, some ⟨rest, length_le_of_eq_append hall⟩) := by
  obtain ⟨said, hsaid⟩ := h.scanText [] hall
  have hspoken := h.spoken_append.1 [] rest
  rw [← hall] at hspoken
  rw [Lexeme.ofText, hsaid, ← hspoken, spoken]
  cases Lexeme.scanText true m [] all <;> rfl

lemma ofText_takesFront (m : Mark) : TakesFront (ofText m) := by
  intro cs lexeme stop r h
  cases hlax : Lexeme.scanText false m [] cs with
  | error f =>
    rw [Lexeme.ofText, hlax] at h
    cases hstrict : Lexeme.scanText true m [] cs <;> simp [hstrict] at h
  | ok found =>
    obtain ⟨said, stop', r'⟩ := found
    obtain ⟨used, hused, hends⟩ := exists_endsText hlax
    cases (hends.ofText hused).symm.trans h
    exact ⟨used, hused, fun hall _ => hends.ofText hall⟩

end Texts

lemma eq_append_of_scanWord {word : List Char} {r : Rest cs}
    (h : scanWord m word cs = .ok (m', r)) : cs = word ++ r.val := by
  induction word generalizing m cs with
  | nil =>
    cases h
    rfl
  | cons w word ih =>
    cases cs with
    | nil => cases h
    | cons c cs =>
      rw [scanWord] at h
      split_ifs at h with hc
      split at h
      · next m₁ r₁ hrest =>
        cases h
        exact hc ▸ congrArg (List.cons c) (ih hrest)
      · cases h

lemma scanWord_append (m : Mark) {word rest all : List Char} (hall : all = word ++ rest) :
    scanWord m word all = .ok (m.advanceAll word, ⟨rest, length_le_of_eq_append hall⟩) := by
  subst hall
  induction word generalizing m with
  | nil => rfl
  | cons w word ih =>
    change scanWord m (w :: word) (w :: (word ++ rest)) = _
    rw [scanWord, if_pos rfl, ih]
    rfl

lemma ofWord_takesFront (lexeme : Lexeme) (m : Mark) (word : List Char) :
    TakesFront (ofWord lexeme m word) := by
  intro cs found stop r h
  rw [ofWord] at h
  split at h
  · next stop' r' hword =>
    cases h
    have hcs := eq_append_of_scanWord hword
    refine ⟨word, hcs, fun hall _ => ?_⟩
    cases hword.symm.trans (scanWord_append m hcs)
    rw [ofWord, scanWord_append m hall]
  · cases h

end Lexeme

namespace Numeral

/-! ### Numerals -/

variable {ds rest all : List Char} {r : Rest cs}

lemma takeWhile_eq_nil {p : Char → Bool} (h : rest.head? = (cs.dropWhile p).head?) :
    rest.takeWhile p = [] := by
  have hnot := List.head?_dropWhile_not p cs
  rw [← h] at hnot
  cases rest with
  | nil => rfl
  | cons c rest =>
    have hc : p c = false := by simpa using hnot
    rw [List.takeWhile_cons, hc]
    rfl

lemma digits_front (h : digits m cs = (ds, m', r)) :
    cs = ds ++ r.val ∧ ∀ {rest all : List Char} (hall : all = ds ++ rest),
      rest.head? = r.val.head? → digits m all = (ds, m', ⟨rest, length_le_of_eq_append hall⟩) := by
  cases h
  refine ⟨List.takeWhile_append_dropWhile.symm, fun {rest all} hall hrest => ?_⟩
  have hdigits : ∀ c ∈ cs.takeWhile Char.isDigit, c.isDigit := fun c => List.mem_takeWhile_imp
  have hnone : rest.takeWhile Char.isDigit = [] := takeWhile_eq_nil hrest
  have htake : all.takeWhile Char.isDigit = cs.takeWhile Char.isDigit := by
    rw [hall, List.takeWhile_append_of_pos hdigits, hnone, List.append_nil]
  have hdrop : all.dropWhile Char.isDigit = rest := by
    have hrest := rest.takeWhile_append_dropWhile (p := Char.isDigit)
    rw [hnone, List.nil_append] at hrest
    rw [hall, List.dropWhile_append_of_pos hdigits, hrest]
  rw [digits, htake]
  exact congrArg (fun r => (_, _, r)) (Subtype.ext hdrop)

lemma scanWhole_front (h : scanWhole m cs = .ok (ds, m', r)) :
    ds ≠ [] ∧ cs = ds ++ r.val ∧ ∀ {rest all : List Char} (hall : all = ds ++ rest),
      rest.head? = r.val.head? →
        scanWhole m all = .ok (ds, m', ⟨rest, length_le_of_eq_append hall⟩) := by
  rw [scanWhole] at h
  split at h
  · cases h
  · cases h
  · next hnil hzero =>
    have hdigits := Except.ok.inj h
    obtain ⟨hcs, hall⟩ := digits_front hdigits
    rw [hdigits] at hnil hzero
    refine ⟨?_, hcs, fun h hrest => ?_⟩
    · rintro rfl
      exact hnil _ _ rfl
    · rw [scanWhole, hall h hrest]
      split
      · next heq =>
        cases heq
        exact absurd rfl (hnil _ _)
      · next heq =>
        cases heq
        exact absurd rfl (hzero _ _ _ _)
      · rfl

lemma scanFraction_of_not_point (m : Mark) (h : cs.head? ≠ some '.') :
    scanFraction m cs = .ok ([], m, Rest.all cs) := by
  rw [scanFraction]
  rintro cs rfl
  exact h rfl

lemma scanFraction_front (h : scanFraction m cs = .ok (ds, m', r)) :
    ∃ used, cs = used ++ r.val ∧ ∀ {rest all : List Char} (hall : all = used ++ rest),
      rest.head? = r.val.head? →
        scanFraction m all = .ok (ds, m', ⟨rest, length_le_of_eq_append hall⟩) := by
  by_cases hpoint : cs.head? = some '.'
  · obtain ⟨cs, rfl⟩ := List.head?_eq_some_iff.mp hpoint
    rw [scanFraction] at h
    split at h
    · cases h
    · next m₁ r₁ hne hdigits =>
      cases h
      obtain ⟨hcs, hall⟩ := digits_front hdigits
      refine ⟨'.' :: ds, congrArg (List.cons '.') hcs, fun h hrest => ?_⟩
      rw [List.cons_append] at h
      subst h
      rw [scanFraction, hall rfl hrest]
      split
      · next heq =>
        cases heq
        exact absurd rfl hne
      · next heq =>
        cases heq
        rfl
  · rw [scanFraction_of_not_point m hpoint] at h
    cases h
    refine ⟨[], rfl, fun {rest all} hall hrest => ?_⟩
    rw [List.nil_append] at hall
    subst hall
    exact scanFraction_of_not_point m (hrest ▸ hpoint)

lemma scanSign_of_not_sign (m : Mark) (hplus : cs.head? ≠ some '+') (hminus : cs.head? ≠ some '-') :
    scanSign m cs = (false, m, Rest.all cs) := by
  rw [scanSign]
  · rintro cs rfl
    exact hplus rfl
  · rintro cs rfl
    exact hminus rfl

lemma scanSign_front {negative : Bool} (h : scanSign m cs = (negative, m', r)) :
    ∃ used, cs = used ++ r.val ∧ ∀ {rest all : List Char} (hall : all = used ++ rest),
      rest.head? = r.val.head? →
        scanSign m all = (negative, m', ⟨rest, length_le_of_eq_append hall⟩) := by
  by_cases hplus : cs.head? = some '+'
  · obtain ⟨cs, rfl⟩ := List.head?_eq_some_iff.mp hplus
    cases h
    refine ⟨['+'], rfl, fun hall _ => ?_⟩
    subst hall
    rfl
  by_cases hminus : cs.head? = some '-'
  · obtain ⟨cs, rfl⟩ := List.head?_eq_some_iff.mp hminus
    cases h
    refine ⟨['-'], rfl, fun hall _ => ?_⟩
    subst hall
    rfl
  · rw [scanSign_of_not_sign m hplus hminus] at h
    cases h
    refine ⟨[], rfl, fun {rest all} hall hrest => ?_⟩
    rw [List.nil_append] at hall
    subst hall
    exact scanSign_of_not_sign m (hrest ▸ hplus) (hrest ▸ hminus)

/-- What is left looks the same if what is left behind it does. -/
lemma head?_append_congr {used : List Char} {r rest : List Char} (h : rest.head? = r.head?) :
    (used ++ rest).head? = (used ++ r).head? := by
  rw [List.head?_append, List.head?_append, h]

lemma scanExponent_of_not_e (m : Mark) (h : ∀ c ∈ cs.head?, c ≠ 'e' ∧ c ≠ 'E') :
    scanExponent m cs = .ok (none, m, m, Rest.all cs) := by
  cases cs with
  | nil => rfl
  | cons c cs =>
    have hc := h c rfl
    simp [scanExponent, hc.1, hc.2]

lemma scanExponent_front {exponent : Option (Bool × List Char)} {mark : Mark}
    (h : scanExponent m cs = .ok (exponent, mark, m', r)) :
    ∃ used, cs = used ++ r.val ∧ ∀ {rest all : List Char} (hall : all = used ++ rest),
      rest.head? = r.val.head? →
        scanExponent m all = .ok (exponent, mark, m', ⟨rest, length_le_of_eq_append hall⟩) := by
  by_cases hnot : ∀ c ∈ cs.head?, c ≠ 'e' ∧ c ≠ 'E'
  · rw [scanExponent_of_not_e m hnot] at h
    cases h
    refine ⟨[], rfl, fun {rest all} hall hrest => ?_⟩
    rw [List.nil_append] at hall
    subst hall
    exact scanExponent_of_not_e m (hrest ▸ hnot)
  · cases cs with
    | nil => simp at hnot
    | cons c cs =>
      have he : (c = 'e' || c = 'E') = true := by simpa [or_iff_not_imp_left] using hnot
      rw [scanExponent, if_pos he] at h
      cases hsign : scanSign (m.advance c) cs with
      | mk negative found =>
        obtain ⟨m₁, r₁⟩ := found
        rw [hsign] at h
        dsimp only at h
        split at h
        · cases h
        · next ds m₂ r₂ hne hdigits =>
          cases h
          obtain ⟨sign, hcs, hallsign⟩ := scanSign_front hsign
          obtain ⟨hr₁, halldigits⟩ := digits_front hdigits
          refine ⟨c :: (sign ++ ds), ?_, fun {rest all} hall hrest => ?_⟩
          · have hsplit : cs = sign ++ ds ++ r₂.val := by
              rw [List.append_assoc, ← hr₁]
              exact hcs
            exact congrArg (List.cons c) hsplit
          · rw [List.cons_append, List.append_assoc] at hall
            subst hall
            rw [scanExponent, if_pos he, hallsign rfl (hr₁ ▸ head?_append_congr hrest)]
            dsimp only
            rw [halldigits rfl hrest]
            split
            · next heq =>
              cases heq
              exact absurd rfl hne
            · next heq =>
              cases heq
              rfl

lemma scan_front {negative : Bool} {n : Numeral} (h : scan negative m cs = .ok (n, r)) :
    ∃ used, used ≠ [] ∧ cs = used ++ r.val ∧ ∀ {rest all : List Char} (hall : all = used ++ rest),
      rest.head? = r.val.head? →
        scan negative m all = .ok (n, ⟨rest, length_le_of_eq_append hall⟩) := by
  rw [scan] at h
  obtain ⟨⟨whole, m₁, r₁⟩, hwhole, h⟩ := bind_eq_ok.mp h
  obtain ⟨⟨fraction, m₂, r₂⟩, hfraction, h⟩ := bind_eq_ok.mp h
  obtain ⟨⟨exponent, m₃, m₄, r₃⟩, hexponent, h⟩ := bind_eq_ok.mp h
  cases h
  obtain ⟨hne, hcs, hallwhole⟩ := scanWhole_front hwhole
  obtain ⟨point, hr₁, hallfraction⟩ := scanFraction_front hfraction
  obtain ⟨power, hr₂, hallexponent⟩ := scanExponent_front hexponent
  refine ⟨whole ++ (point ++ power), ?_, ?_, fun {rest all} hall hrest => ?_⟩
  · simp [hne]
  · have hsplit : cs = whole ++ (point ++ power) ++ r₃.val := by
      rw [List.append_assoc, List.append_assoc, ← hr₂, ← hr₁]
      exact hcs
    exact hsplit
  · replace hrest : rest.head? = r₃.val.head? := hrest
    have hpower : (power ++ rest).head? = r₂.val.head? := hr₂ ▸ head?_append_congr hrest
    have hpoint : (point ++ (power ++ rest)).head? = r₁.val.head? :=
      hr₁ ▸ head?_append_congr hpower
    rw [List.append_assoc, List.append_assoc] at hall
    rw [scan, hallwhole hall hpoint]
    dsimp only [Bind.bind, Except.bind]
    rw [hallfraction rfl hpower]
    dsimp only
    rw [hallexponent rfl hrest]
    rfl

end Numeral

namespace Lexeme

section Lexemes

variable {c : Char} {lexeme : Lexeme} {stop : Mark}

lemma exists_of_ofNumeral {found : Except Flaws (Numeral × Rest cs)} {r : Rest cs}
    (h : ofNumeral m cs found = (lexeme, stop, some r)) :
    ∃ n, found = .ok (n, r) ∧ lexeme = .number n.value ∧ stop = n.stop := by
  cases found with
  | error flaws => cases h
  | ok found =>
    cases h
    exact ⟨_, rfl, rfl, rfl⟩

lemma ofNumeral_takesFront (m start : Mark) (negative : Bool) :
    TakesFront fun cs => ofNumeral m cs (Numeral.scan negative start cs) := by
  intro cs lexeme stop r h
  obtain ⟨n, hscan, rfl, rfl⟩ := exists_of_ofNumeral h
  obtain ⟨used, -, hcs, hall⟩ := Numeral.scan_front hscan
  refine ⟨used, hcs, fun h hrest => ?_⟩
  dsimp only
  rw [hall h hrest]
  rfl

/-- The rest of a lexeme behind its first character. -/
def behind (c : Char) (found : Lexeme × Mark × Option (Rest cs)) :
    Lexeme × Mark × Option (Rest (c :: cs)) :=
  (found.1, found.2.1, found.2.2.map (Rest.tail c cs).trans)

/-- A lexeme that begins with `c` is read in the same way before other characters that begin
alike. -/
def IsSettled (m : Mark) (c : Char) : Prop :=
  ∀ ⦃cs : List Char⦄ ⦃lexeme : Lexeme⦄ ⦃stop : Mark⦄ ⦃r : Rest (c :: cs)⦄,
    scan m c cs = (lexeme, stop, some r) →
      ∃ used, cs = used ++ r.val ∧ ∀ {rest all : List Char} (hall : all = used ++ rest),
        rest.head? = r.val.head? →
          scan m c all =
            (lexeme, stop, some ⟨rest, Nat.le_succ_of_le (length_le_of_eq_append hall)⟩)

lemma isSettled_of_single (h : ∀ cs, scan m c cs = (lexeme, stop, some (Rest.tail c cs))) :
    IsSettled m c := by
  intro cs lexeme' stop' r hscan
  cases (h cs).symm.trans hscan
  refine ⟨[], rfl, fun hall _ => ?_⟩
  rw [List.nil_append] at hall
  subst hall
  exact h _

lemma isSettled_of_behind {read : (cs : List Char) → Lexeme × Mark × Option (Rest cs)}
    (hread : TakesFront read) (h : ∀ cs, scan m c cs = behind c (read cs)) : IsSettled m c := by
  intro cs lexeme stop r hscan
  rw [h, behind] at hscan
  cases hfound : read cs with
  | mk lexeme' found =>
    obtain ⟨stop', left⟩ := found
    rw [hfound] at hscan
    cases left with
    | none => cases hscan
    | some r' =>
      cases hscan
      obtain ⟨used, hcs, hall⟩ := hread hfound
      refine ⟨used, hcs, fun h' hrest => ?_⟩
      rw [h, hall h' hrest]
      rfl

lemma scan_digit (hdigit : c.isDigit = true) (cs : List Char) :
    scan m c cs = ofNumeral m (c :: cs) (Numeral.scan false m (c :: cs)) := by
  have hne {d : Char} (hd : d.isDigit = false) : c ≠ d := by
    rintro rfl
    simp [hd] at hdigit
  rw [scan, if_neg (hne rfl), if_neg (hne rfl), if_neg (hne rfl), if_neg (hne rfl),
    if_neg (hne rfl), if_neg (hne rfl), if_neg (hne rfl), if_neg (hne rfl), if_neg (hne rfl),
    if_neg (hne rfl), if_neg (hne rfl), if_pos hdigit]

lemma isSettled_of_isDigit (hdigit : c.isDigit = true) : IsSettled m c := by
  intro cs lexeme stop r hscan
  rw [scan_digit hdigit] at hscan
  obtain ⟨n, hfound, rfl, rfl⟩ := exists_of_ofNumeral hscan
  obtain ⟨used, hne, hcs, hall⟩ := Numeral.scan_front hfound
  cases used with
  | nil => exact absurd rfl hne
  | cons first used =>
    rw [List.cons_append, List.cons.injEq] at hcs
    obtain ⟨rfl, hcs⟩ := hcs
    refine ⟨used, hcs, fun h hrest => ?_⟩
    rw [scan_digit hdigit, hall (congrArg (List.cons c) h) hrest]
    rfl

lemma isSettled (m : Mark) (c : Char) : IsSettled m c := by
  by_cases hsingle : c = '[' ∨ c = ']' ∨ c = '\x7b' ∨ c = '\x7d' ∨ c = ',' ∨ c = ':'
  · rcases hsingle with rfl | rfl | rfl | rfl | rfl | rfl <;>
      exact isSettled_of_single fun _ => rfl
  by_cases hquote : c = '"'
  · subst c
    exact isSettled_of_behind (ofText_takesFront _) fun _ => rfl
  by_cases hword : c = 'n' ∨ c = 't' ∨ c = 'f'
  · rcases hword with rfl | rfl | rfl <;>
      exact isSettled_of_behind (ofWord_takesFront ..) fun _ => rfl
  by_cases hminus : c = '-'
  · subst c
    exact isSettled_of_behind (ofNumeral_takesFront ..) fun _ => rfl
  by_cases hdigit : c.isDigit = true
  · exact isSettled_of_isDigit hdigit
  · intro cs lexeme stop r hscan
    simp only [not_or] at hsingle hword
    simp [scan, hsingle, hquote, hword, hminus, hdigit] at hscan

/-- Whether a list or an object ends here. -/
def closes : Lexeme → Bool
  | .closeList | .closeObject => true
  | _ => false

lemma closes_ofText (m : Mark) (cs : List Char) : (ofText m cs).1.closes = false := by
  rw [ofText]
  cases Lexeme.scanText false m [] cs <;> cases Lexeme.scanText true m [] cs <;> rfl

lemma closes_ofWord (h : lexeme.closes = false) (m : Mark) (word cs : List Char) :
    (ofWord lexeme m word cs).1.closes = false := by
  rw [ofWord]
  split
  · exact h
  · rfl

lemma closes_ofNumeral (m : Mark) (found : Except Flaws (Numeral × Rest cs)) :
    (ofNumeral m cs found).1.closes = false := by
  cases found <;> rfl

/-- A closing bracket is a lexeme of its own, whatever follows it. -/
lemma scan_of_closes (h : (scan m c cs).1.closes = true) (all : List Char) :
    scan m c all = ((scan m c cs).1, m.advance c, some (Rest.tail c all)) := by
  by_cases hcloseList : c = ']'
  · subst c
    rfl
  by_cases hcloseObject : c = '\x7d'
  · subst c
    rfl
  exfalso
  rw [scan] at h
  dsimp only at h
  rw [if_neg hcloseList, if_neg hcloseObject] at h
  simp only [apply_ite Prod.fst, apply_ite closes] at h
  have hnull : closes .null = false := rfl
  have hboolean (b : Bool) : closes (.boolean b) = false := rfl
  have hsingle : closes .openList = false ∧ closes .openObject = false ∧ closes .comma = false ∧
    closes .colon = false ∧ closes .stray = false := ⟨rfl, rfl, rfl, rfl, rfl⟩
  simp [closes_ofText, closes_ofWord, closes_ofNumeral, hnull, hboolean, hsingle] at h

end Lexemes

end Lexeme

section Tokens

variable {c : Char}

lemma tokenize_space (hc : isSpace c = true) (m : Mark) (cs : List Char) :
    tokenize m (c :: cs) = tokenize (m.advance c) cs := by
  rw [tokenize, if_pos hc]

/-- Behind a lexeme stand those of what it leaves, which is less than the text. -/
lemma tokenize_whole (hc : isSpace c = false) {lexeme : Lexeme} {stop : Mark} {left : List Char}
    {hleft : left.length ≤ (c :: cs).length}
    (h : Lexeme.scan m c cs = (lexeme, stop, some ⟨left, hleft⟩)) (hle : left.length ≤ cs.length) :
    (tokenize m (c :: cs)).1 = ⟨lexeme, m, stop⟩ :: (tokenize stop left).1 := by
  have hlt : left.length < (c :: cs).length := Nat.lt_succ_of_le hle
  rw [tokenize, hc, if_neg Bool.false_ne_true, h]
  dsimp only
  rw [dif_pos hlt]

lemma tokenize_broken (hc : isSpace c = false) {lexeme : Lexeme} {stop : Mark}
    (h : Lexeme.scan m c cs = (lexeme, stop, none)) :
    (tokenize m (c :: cs)).1 = [⟨lexeme, m, stop⟩] := by
  rw [tokenize, hc, if_neg Bool.false_ne_true, h]

lemma tokenize_lexeme (hc : isSpace c = false) {t : Token} {ts : List Token}
    (h : (tokenize m (c :: cs)).1 = t :: ts) : t.lexeme = (Lexeme.scan m c cs).1 := by
  rw [tokenize, hc, if_neg Bool.false_ne_true] at h
  cases hscan : Lexeme.scan m c cs with
  | mk lexeme found =>
    obtain ⟨stop, left⟩ := found
    rw [hscan] at h
    cases left with
    | none =>
      cases h
      rfl
    | some r =>
      dsimp only at h
      split_ifs at h <;> cases h <;> rfl

/-- One token and what it leaves. A token with others behind it is whole. -/
lemma tokenize_token (hc : isSpace c = false) {t u : Token} {ts : List Token}
    (h : (tokenize m (c :: cs)).1 = t :: u :: ts) :
    ∃ taken left, cs = taken ++ left ∧ (tokenize t.stop left).1 = u :: ts ∧
      ∀ {rest : List Char}, rest.head? = left.head? →
        (tokenize m (c :: (taken ++ rest))).1 = t :: (tokenize t.stop rest).1 := by
  cases hscan : Lexeme.scan m c cs with
  | mk lexeme found =>
    obtain ⟨stop, left⟩ := found
    cases left with
    | none =>
      rw [tokenize_broken hc hscan] at h
      cases h
    | some r =>
      obtain ⟨taken, hcs, hall⟩ := Lexeme.isSettled m c hscan
      have hle : r.val.length ≤ cs.length := by
        have := congrArg List.length hcs
        rw [List.length_append] at this
        omega
      rw [tokenize_whole hc hscan hle, List.cons.injEq] at h
      obtain ⟨rfl, hrest⟩ := h
      refine ⟨taken, r.val, hcs, hrest, fun hhead => ?_⟩
      exact tokenize_whole hc (hall rfl hhead) (by simp)

/-- A closing bracket is a token, whatever follows it. -/
lemma tokenize_close (hc : isSpace c = false) {t : Token} {ts : List Token}
    (h : (tokenize m (c :: cs)).1 = t :: ts) (ht : t.lexeme.closes = true) (more : List Char) :
    (tokenize m (c :: more)).1 = t :: (tokenize t.stop more).1 := by
  have hscan := Lexeme.scan_of_closes (tokenize_lexeme hc h ▸ ht)
  rw [tokenize_whole hc (hscan cs) le_rfl, List.cons.injEq] at h
  obtain ⟨rfl, -⟩ := h
  exact tokenize_whole hc (hscan more) le_rfl

/-- The tokens up to a closing bracket stay what they are if something else follows it. -/
lemma tokenize_front {m : Mark} {cs : List Char} {front rest : List Token} {t : Token}
    (h : (tokenize m cs).1 = front ++ t :: rest) (ht : t.lexeme.closes = true) :
    ∃ used left, used ≠ [] ∧ cs = used ++ left ∧
      ∀ more, (tokenize m (used ++ more)).1 = front ++ t :: (tokenize t.stop more).1 := by
  cases cs with
  | nil => simp [tokenize] at h
  | cons c cs =>
    cases hc : isSpace c with
    | true =>
      rw [tokenize_space hc] at h
      obtain ⟨used, left, -, hcs, hall⟩ := tokenize_front h ht
      refine ⟨c :: used, left, by simp, congrArg (List.cons c) hcs, fun more => ?_⟩
      rw [List.cons_append, tokenize_space hc, hall]
    | false =>
      cases front with
      | nil => exact ⟨[c], cs, by simp, rfl, tokenize_close hc h ht⟩
      | cons first front =>
        obtain ⟨u, ts, hu⟩ := List.exists_cons_of_ne_nil (l := front ++ t :: rest) (by simp)
        rw [List.cons_append, hu] at h
        obtain ⟨taken, left, hcs, hrest, hall⟩ := tokenize_token hc h
        have hshort : left.length ≤ cs.length := by simp [hcs]
        obtain ⟨used, left', hused, hleft, hmore⟩ := tokenize_front (hrest.trans hu.symm) ht
        refine ⟨c :: (taken ++ used), left', by simp, ?_, fun more => ?_⟩
        · rw [List.cons_append, List.append_assoc, ← hleft, ← hcs]
        · rw [List.cons_append, List.append_assoc, hall, hmore, List.cons_append]
          rw [hleft, List.head?_append_of_ne_nil _ hused, List.head?_append_of_ne_nil _ hused]
termination_by cs.length
decreasing_by
  all_goals
    subst_vars
    simp only [List.length_cons]
    omega

end Tokens

end ModuleBindings.Json
