import ModuleBindings.Proofs.Lookahead
import ModuleBindings.Proofs.Printing
import ModuleBindings.Proofs.Tokenization

/-!
# Texts that differ in places only

The outline of a text is what the lexer says of it, places aside. A text can be cut wherever no name
goes on, and its outline is that of one part behind that of the other, so blanks make no difference
but between two names. Parsing looks at nothing but the outline.
-/

namespace ModuleBindings.Constraint

open Lexer (Stream)

/-- What is said of a text, places aside: its tokens up to the end or the first stray character, and
that character. -/
structure Outline where
  tokens : List (TokenKind × String)
  fault : Option Char
  deriving DecidableEq

def Token.outline (t : Token) : TokenKind × String :=
  (t.kind, t.value)

/-- The character that an error speaks of. -/
def SyntaxError.character? : SyntaxError → Option Char
  | badCharacter c _ => some c
  | unexpected _ _ => none

namespace Lexer.Stream

/-- The character at which the text goes bad. -/
def fault (s : Stream) : Option Char :=
  match s.ending with
  | .ok _ => none
  | .error e => e.character?

def outline (s : Stream) : Outline :=
  ⟨s.tokens.map Token.outline, s.fault⟩

end Lexer.Stream

section Cuts

variable {cs ds rest word : List Char} {kind : TokenKind}

/-- A lexeme stays one when the text goes on, unless it is a name that goes on with it. -/
lemma IsLexeme.append (h : IsLexeme rest kind word) (hcut : Boundary (word ++ rest) ds) :
    IsLexeme (rest ++ ds) kind word := by
  cases h with
  | mark c hc => exact .mark c hc
  | name c cs hword hrest =>
    refine .name c cs hword fun d hd => ?_
    cases rest with
    | cons r rest => exact hrest d hd
    | nil =>
      rw [List.append_nil] at hcut
      cases hname : isNameChar d with
      | false => rfl
      | true =>
        have hlast := List.getLast?_eq_some_getLast (List.cons_ne_nil c cs)
        have hstop := hcut _ hlast d hd hname
        rw [hword _ (List.getLast_mem (List.cons_ne_nil c cs))] at hstop
        cases hstop

lemma Boundary.of_append (h : Boundary (cs ++ rest) ds) : Boundary rest ds := by
  intro c hc
  refine h c ?_
  rw [List.getLast?_append, Option.mem_def.mp hc]
  rfl

end Cuts

namespace Outline

/-- The outline of a text. -/
def ofText (cs : List Char) : Outline :=
  (Lexer.stream ⟨"", Cursor.start, cs⟩).outline

/-- The outline of a text behind another one. Nothing is read behind a stray character. -/
def append (o p : Outline) : Outline :=
  match o.fault with
  | some _ => o
  | none => ⟨o.tokens ++ p.tokens, p.fault⟩

section Texts

variable {source : String} {k : Cursor} {blanks rest word cs ds : List Char} {kind : TokenKind}
  {c : Char}

lemma stream_blanks (h : AreBlank blanks) :
    (Lexer.stream ⟨source, k, blanks⟩).outline = ⟨[], none⟩ := by
  rw [Lexer.stream_blanks h]
  rfl

lemma stream_stray (h : AreBlank blanks) (hc : IsStray c) :
    (Lexer.stream ⟨source, k, blanks ++ c :: rest⟩).outline = ⟨[], some c⟩ := by
  rw [Lexer.stream_stray h hc]
  rfl

lemma stream_lexeme (h : AreBlank blanks) (hword : IsLexeme rest kind word) :
    (Lexer.stream ⟨source, k, blanks ++ (word ++ rest)⟩).outline =
      append ⟨[(kind, String.ofList word)], none⟩
        (Lexer.stream ⟨source, k.advanceAll (blanks ++ word), rest⟩).outline := by
  rw [Lexer.stream_lexeme h hword]
  rfl

/-- It does not matter where a text stands. -/
theorem outline_stream (source : String) (k : Cursor) (cs : List Char) :
    (Lexer.stream ⟨source, k, cs⟩).outline = ofText cs := by
  unfold ofText
  rcases text_cases cs with hblanks | ⟨blanks, c, rest, rfl, hblanks, hc⟩ |
    ⟨blanks, kind, word, rest, rfl, hblanks, hword⟩
  · rw [stream_blanks hblanks, stream_blanks hblanks]
  · rw [stream_stray hblanks hc, stream_stray hblanks hc]
  · have hlt : rest.length < (blanks ++ (word ++ rest)).length := by
      have hpos := List.length_pos_iff.mpr hword.ne_nil
      rw [List.length_append, List.length_append]
      omega
    rw [stream_lexeme hblanks hword, stream_lexeme hblanks hword, outline_stream source _ rest,
      outline_stream "" _ rest]
termination_by cs.length

lemma ofText_blanks (h : AreBlank blanks) : ofText blanks = ⟨[], none⟩ :=
  stream_blanks h

lemma ofText_stray (h : AreBlank blanks) (hc : IsStray c) :
    ofText (blanks ++ c :: rest) = ⟨[], some c⟩ :=
  stream_stray h hc

lemma ofText_lexeme (h : AreBlank blanks) (hword : IsLexeme rest kind word) :
    ofText (blanks ++ (word ++ rest)) =
      append ⟨[(kind, String.ofList word)], none⟩ (ofText rest) := by
  rw [ofText, stream_lexeme h hword, outline_stream]

/-- Blanks in front of a text say nothing. -/
lemma ofText_blanks_append (h : AreBlank blanks) (cs : List Char) :
    ofText (blanks ++ cs) = ofText cs := by
  have hjoin : ∀ {more}, AreBlank more → AreBlank (blanks ++ more) := fun hmore =>
    List.forall_mem_append.mpr ⟨h, hmore⟩
  rcases text_cases cs with hblanks | ⟨more, c, rest, rfl, hmore, hc⟩ |
    ⟨more, kind, word, rest, rfl, hmore, hword⟩
  · rw [ofText_blanks hblanks, ofText_blanks (hjoin hblanks)]
  · rw [← List.append_assoc, ofText_stray (hjoin hmore) hc, ofText_stray hmore hc]
  · rw [← List.append_assoc, ofText_lexeme (hjoin hmore) hword, ofText_lexeme hmore hword]

lemma append_assoc (o p q : Outline) : (o.append p).append q = o.append (p.append q) := by
  obtain ⟨ts, fault⟩ := o
  obtain ⟨us, fault'⟩ := p
  cases fault <;> cases fault' <;> simp [append]

/-- The outline of a text that is cut where no name goes on. -/
theorem ofText_append (cs : List Char) {ds : List Char} (hcut : Boundary cs ds) :
    ofText (cs ++ ds) = (ofText cs).append (ofText ds) := by
  rcases text_cases cs with hblanks | ⟨blanks, c, rest, rfl, hblanks, hc⟩ |
    ⟨blanks, kind, word, rest, rfl, hblanks, hword⟩
  · rw [ofText_blanks_append hblanks, ofText_blanks hblanks]
    rfl
  · rw [List.append_assoc, List.cons_append, ofText_stray hblanks hc, ofText_stray hblanks hc]
    rfl
  · have hlt : rest.length < (blanks ++ (word ++ rest)).length := by
      have hpos := List.length_pos_iff.mpr hword.ne_nil
      rw [List.length_append, List.length_append]
      omega
    have hword' := hword.append hcut.of_append
    have hrest := ofText_append rest hcut.of_append.of_append
    rw [List.append_assoc, List.append_assoc, ofText_lexeme hblanks hword',
      ofText_lexeme hblanks hword, hrest, append_assoc]
termination_by cs.length

/-- Blanks where no name goes on say nothing, and neither do any others in their place. -/
lemma ofText_insert_blanks {before after : List Char} (h : AreBlank blanks)
    (hcut : blanks = [] → Boundary before after) :
    ofText (before ++ blanks ++ after) = (ofText before).append (ofText after) := by
  have hcut' : Boundary before (blanks ++ after) := by
    cases blanks with
    | nil => exact hcut rfl
    | cons b blanks =>
      intro c hc d hd hname
      obtain rfl : b = d := Option.some.inj hd
      rw [isNameChar_of_isBlank (h b List.mem_cons_self)] at hname
      cases hname
  rw [List.append_assoc, ofText_append before hcut', ofText_blanks_append h]

end Texts

end Outline

/-- One stretch of blanks can stand for the other between these texts: both part them, or it does
not matter because a punctuation character does. -/
def Interchangeable (before blanks blanks' after : List Char) : Prop :=
  (blanks ≠ [] ∧ blanks' ≠ []) ∨
    (∃ c ∈ before.getLast?, (TokenKind.ofPunctuation? c).isSome) ∨
    ∃ c ∈ after.head?, (TokenKind.ofPunctuation? c).isSome

lemma Interchangeable.outline_eq {before blanks blanks' after : List Char}
    (h : Interchangeable before blanks blanks' after) (hblanks : AreBlank blanks)
    (hblanks' : AreBlank blanks') :
    Outline.ofText (before ++ blanks ++ after) = Outline.ofText (before ++ blanks' ++ after) := by
  have hmark : ∀ {c}, (TokenKind.ofPunctuation? c).isSome → isNameChar c = false := by
    intro c hc
    obtain ⟨kind, hkind⟩ := Option.isSome_iff_exists.mp hc
    exact isNameChar_of_ofPunctuation? hkind
  have hcut : blanks = [] ∨ blanks' = [] → Boundary before after := by
    intro hnil c hc d hd hname
    rcases h with ⟨hne, hne'⟩ | ⟨m, hm, hkind⟩ | ⟨m, hm, hkind⟩
    · exact absurd hnil (by simp [hne, hne'])
    · rw [Option.mem_unique hc hm]
      exact hmark hkind
    · rw [Option.mem_unique hd hm, hmark hkind] at hname
      cases hname
  rw [Outline.ofText_insert_blanks hblanks fun hnil => hcut (.inl hnil),
    Outline.ofText_insert_blanks hblanks' fun hnil => hcut (.inr hnil)]

/-- Two results that agree up to places: answers that are so related, an unexpected token of the
same text in place of the same things, or the same stray character. -/
inductive Alike {α β : Type} (R : α → β → Prop) :
    Except SyntaxError α → Except SyntaxError β → Prop
  | ok {a : α} {b : β} (h : R a b) : Alike R (.ok a) (.ok b)
  | unexpected {t u : Token} (h : t.text = u.text) (expected : Expectation) :
    Alike R (.error (.unexpected t expected)) (.error (.unexpected u expected))
  | badCharacter (c : Char) (l m : Location) :
    Alike R (.error (.badCharacter c l)) (.error (.badCharacter c m))

lemma Token.text_eq_of_outline_eq {t u : Token} (h : t.outline = u.outline) : t.text = u.text := by
  obtain ⟨hkind, hvalue⟩ := Prod.mk.inj h
  rw [text, text, hkind, hvalue]

/-- Two steps after one another. -/
lemma Alike.bind {α β γ δ : Type} {R : α → β → Prop} {S : γ → δ → Prop}
    {x : Except SyntaxError α} {y : Except SyntaxError β} {f : α → Except SyntaxError γ}
    {g : β → Except SyntaxError δ} (h : Alike R x y) (hfg : ∀ a b, R a b → Alike S (f a) (g b)) :
    Alike S (x >>= f) (y >>= g) := by
  cases h with
  | ok h => exact hfg _ _ h
  | unexpected h expected => exact .unexpected h expected
  | badCharacter c l m => exact .badCharacter c l m

lemma Keyword.ofToken?_eq_of_outline_eq {t u : Token} (h : t.outline = u.outline) :
    ofToken? t = ofToken? u := by
  obtain ⟨hkind, hvalue⟩ := Prod.mk.inj h
  rw [ofToken?, ofToken?, hkind, hvalue]

namespace Parser

/-- The same limit, and ends that agree up to places. -/
structure Bounds.Alike (b b' : Bounds) : Prop where
  limit : b.limit = b'.limit
  ending : Constraint.Alike (fun t u => t.text = u.text) b.ending b'.ending

/-- Token lists that agree up to places. -/
def SameOutline (ts us : List Token) : Prop :=
  ts.map Token.outline = us.map Token.outline

section Parsing

variable {b b' : Bounds} {α β : Type} {R : α → β → Prop} {ts us : List Token} {t u : Token}
  {kind : TokenKind} {depth : Nat} {flagged : Bool}

lemma SameOutline.eq_nil (h : SameOutline [] us) : us = [] :=
  List.map_eq_nil_iff.mp h.symm

lemma SameOutline.exists_cons (h : SameOutline (t :: ts) us) :
    ∃ u us', us = u :: us' ∧ t.outline = u.outline ∧ SameOutline ts us' := by
  obtain ⟨u, us', rfl, hu, hus⟩ := List.map_eq_cons_iff.mp h.symm
  exact ⟨u, us', rfl, hu.symm, hus.symm⟩

lemma next_alike (hb : b.Alike b') (h : SameOutline ts us) :
    Alike (fun t u => t.text = u.text) (b.next ts) (b'.next us) := by
  cases ts with
  | nil =>
    obtain rfl := h.eq_nil
    exact hb.ending
  | cons t ts =>
    obtain ⟨u, us, rfl, hu, -⟩ := h.exists_cons
    exact .ok (Token.text_eq_of_outline_eq hu)

lemma unexpected_alike (hb : b.Alike b') (h : SameOutline ts us) (expected : Expectation) :
    Alike R (.error (unexpected b expected ts)) (.error (unexpected b' expected us)) := by
  rw [error_unexpected, error_unexpected]
  exact (next_alike hb h).bind fun t u htext => .unexpected htext expected

lemma expect_alike (hb : b.Alike b') (h : SameOutline ts us) :
    Alike (fun r s => SameOutline r.val s.val) (expect b kind ts) (expect b' kind us) := by
  cases ts with
  | nil =>
    obtain rfl := h.eq_nil
    exact unexpected_alike hb h _
  | cons t ts =>
    obtain ⟨u, us, rfl, hu, hus⟩ := h.exists_cons
    have hkind : t.kind = u.kind := congrArg Prod.fst hu
    rw [expect, expect, ← hkind]
    split
    · exact .ok hus
    · exact .unexpected (Token.text_eq_of_outline_eq hu) _

/-- Parts of a tree that agree up to places, with what is left behind them. -/
def PartAlike {τ : Type} (erase : τ → τ) (p : τ × ProperRest ts) (q : τ × ProperRest us) : Prop :=
  erase p.1 = erase q.1 ∧ SameOutline p.2.val q.2.val

/-- A type in parentheses, and what is made of it. -/
lemma enclosed_alike (hb : b.Alike b') (f g : Constraint → Constraint)
    (hfg : ∀ v w : Constraint, v.erase = w.erase → (f v).erase = (g w).erase)
    (ih : ∀ inner, inner.length < ts.length → ∀ inner', SameOutline inner inner' →
      Alike (PartAlike Constraint.erase) (typeAt b depth flagged inner)
        (typeAt b' depth flagged inner'))
    (h : SameOutline ts us) :
    Alike (PartAlike Constraint.erase)
      (do
        let ⟨r₁, h₁⟩ ← expect b .parenL ts
        let (v, ⟨r₂, h₂⟩) ← typeAt b depth flagged r₁
        let ⟨r₃, h₃⟩ ← expect b .parenR r₂
        return (f v, (⟨r₃, length_lt_cons_of_lt h₁ h₂ h₃⟩ : ProperRest (t :: ts))))
      (do
        let ⟨r₁, h₁⟩ ← expect b' .parenL us
        let (w, ⟨r₂, h₂⟩) ← typeAt b' depth flagged r₁
        let ⟨r₃, h₃⟩ ← expect b' .parenR r₂
        return (g w, (⟨r₃, length_lt_cons_of_lt h₁ h₂ h₃⟩ : ProperRest (u :: us)))) := by
  apply (expect_alike hb h).bind
  rintro ⟨r₁, h₁⟩ ⟨s₁, g₁⟩ hr₁
  apply (ih r₁ h₁ s₁ hr₁).bind
  rintro ⟨v, r₂, h₂⟩ ⟨w, s₂, g₂⟩ ⟨hv, hr₂⟩
  exact (expect_alike hb hr₂).bind fun _ _ hr₃ => .ok ⟨hfg v w hv, hr₃⟩

theorem typeAt_alike (hb : b.Alike b') :
    (∀ depth flagged ts, ∀ us, SameOutline ts us →
      Alike (PartAlike Constraint.erase) (typeAt b depth flagged ts)
        (typeAt b' depth flagged us)) ∧
    (∀ depth ts, ∀ us, SameOutline ts us →
      Alike (PartAlike eraseFields) (fieldsAt b depth ts) (fieldsAt b' depth us)) := by
  have hdeep : ∀ level, b'.tooDeep level = b.tooDeep level := fun level => by
    rw [Bounds.tooDeep, Bounds.tooDeep, hb.limit]
  apply typeAt.mutual_induct b
  case case1 =>
    intro depth flagged us h
    obtain rfl := h.eq_nil
    rw [typeAt, typeAt, hdeep]
    exact unexpected_alike hb h _
  case case2 =>
    intro depth flagged t ts hd us h
    obtain ⟨u, us, rfl, hu, hus⟩ := h.exists_cons
    simp only [typeAt, hdeep, hd, if_true]
    exact .unexpected (Token.text_eq_of_outline_eq hu) _
  case case3 =>
    intro depth flagged t ts hd hk us h
    obtain ⟨u, us, rfl, hu, hus⟩ := h.exists_cons
    have hk' := (Keyword.ofToken?_eq_of_outline_eq hu).symm.trans hk
    simp only [typeAt, hdeep, hd, hk, hk']
    exact .unexpected (Token.text_eq_of_outline_eq hu) _
  case case4 =>
    intro depth flagged t ts hd kind hk us h
    obtain ⟨u, us, rfl, hu, hus⟩ := h.exists_cons
    have hk' := (Keyword.ofToken?_eq_of_outline_eq hu).symm.trans hk
    simp only [typeAt, hdeep, hd, hk, hk']
    have hvalue : t.value = u.value := congrArg Prod.snd hu
    refine .ok ⟨?_, hus⟩
    simp [erase, hvalue]
  case case5 =>
    intro depth flagged t ts hd hk ih us h
    obtain ⟨u, us, rfl, hu, hus⟩ := h.exists_cons
    have hk' := (Keyword.ofToken?_eq_of_outline_eq hu).symm.trans hk
    simp only [typeAt, hdeep, hd, hk, hk']
    exact enclosed_alike hb (fun v => v) (fun w => w) (fun _ _ hv => hv) ih hus
  case case6 =>
    intro depth flagged t ts hd kind hk ih us h
    obtain ⟨u, us, rfl, hu, hus⟩ := h.exists_cons
    have hk' := (Keyword.ofToken?_eq_of_outline_eq hu).symm.trans hk
    simp only [typeAt, hdeep, hd, hk, hk', Bool.false_eq_true, if_false]
    refine enclosed_alike hb (fun v => node kind.keyword kind (some v) flagged [] (some t.location))
      (fun w => node kind.keyword kind (some w) flagged [] (some u.location)) ?_ ih hus
    intro v w hv
    simp [erase, eraseElem, hv]
  case case7 =>
    intro depth flagged t ts hd hk ih us h
    obtain ⟨u, us, rfl, hu, hus⟩ := h.exists_cons
    have hk' := (Keyword.ofToken?_eq_of_outline_eq hu).symm.trans hk
    simp only [typeAt, hdeep, hd, hk, hk']
    apply (expect_alike hb hus).bind
    rintro ⟨r₁, h₁⟩ ⟨s₁, g₁⟩ hr₁
    apply (expect_alike hb hr₁).bind
    rintro ⟨r₂, h₂⟩ ⟨s₂, g₂⟩ hr₂
    apply (ih r₁ h₁ r₂ h₂ s₂ hr₂).bind
    rintro ⟨fs, r₃, h₃⟩ ⟨gs, s₃, g₃⟩ ⟨hfs, hr₃⟩
    refine (expect_alike hb hr₃).bind fun _ _ hr₄ => .ok ⟨?_, hr₄⟩
    have hfs' : eraseFields fs = eraseFields gs := hfs
    simp [erase, hfs']
  case case8 =>
    intro depth us h
    obtain rfl := h.eq_nil
    rw [fieldsAt, fieldsAt]
    exact unexpected_alike hb h _
  case case9 =>
    intro depth t ts ht us h
    obtain ⟨u, us, rfl, hu, hus⟩ := h.exists_cons
    have hu' : u.kind = .braceR := (congrArg Prod.fst hu).symm.trans ht
    simp only [fieldsAt, ht, hu']
    exact .ok ⟨rfl, hus⟩
  case case10 =>
    intro depth t ts ht ihType ihFields us h
    obtain ⟨u, us, rfl, hu, hus⟩ := h.exists_cons
    have hu' : u.kind = .name := (congrArg Prod.fst hu).symm.trans ht
    have hvalue : t.value = u.value := congrArg Prod.snd hu
    simp only [fieldsAt, ht, hu']
    apply (expect_alike hb hus).bind
    rintro ⟨r₁, h₁⟩ ⟨s₁, g₁⟩ hr₁
    apply (ihType r₁ h₁ s₁ hr₁).bind
    rintro ⟨v, r₂, h₂⟩ ⟨w, s₂, g₂⟩ ⟨hv, hr₂⟩
    apply (ihFields r₁ h₁ r₂ h₂ s₂ hr₂).bind
    rintro ⟨fs, _⟩ ⟨gs, _⟩ ⟨hfs, hr₃⟩
    refine .ok ⟨?_, hr₃⟩
    have hv' : v.erase = w.erase := hv
    have hfs' : eraseFields fs = eraseFields gs := hfs
    simp [eraseFields, hvalue, hv', hfs']
  case case11 =>
    intro depth t ts hclose hname us h
    obtain ⟨u, us, rfl, hu, hus⟩ := h.exists_cons
    have hkind : t.kind = u.kind := congrArg Prod.fst hu
    rw [fieldsAt_other hclose hname, fieldsAt_other (hkind ▸ hclose) (hkind ▸ hname)]
    exact .unexpected (Token.text_eq_of_outline_eq hu) _

lemma parseStream_alike {limit : Option Nat} {s s' : Stream}
    (htokens : SameOutline s.tokens s'.tokens)
    (hending : Alike (fun t u => t.text = u.text) s.ending s'.ending) :
    Alike (fun t u => t.same u = true) (parseStream limit s) (parseStream limit s') := by
  obtain ⟨ts, ending⟩ := s
  obtain ⟨us, ending'⟩ := s'
  have hb : Bounds.Alike ⟨limit, ending⟩ ⟨limit, ending'⟩ := ⟨rfl, hending⟩
  apply ((typeAt_alike hb).1 1 false ts us htokens).bind
  rintro ⟨t, r, _⟩ ⟨u, r', _⟩ ⟨ht, hr⟩
  cases r with
  | cons x r =>
    obtain ⟨y, r', rfl, hxy, -⟩ := hr.exists_cons
    exact .unexpected (Token.text_eq_of_outline_eq hxy) _
  | nil =>
    obtain rfl := hr.eq_nil
    cases hending with
    | ok h => exact .ok ((same_iff t u).mpr ht)
    | unexpected h expected => exact .unexpected h expected
    | badCharacter c l m => exact .badCharacter c l m

end Parsing

end Parser

/-- How a stream ends is seen in its outline. -/
lemma Reading.ending_alike {source source' : String} {past past' cs ds : List Char}
    {s s' : Stream} (h : Reading source past cs s) (h' : Reading source' past' ds s')
    (hfault : s.fault = s'.fault) :
    Alike (fun t u => t.text = u.text) s.ending s'.ending := by
  obtain ⟨-, hend⟩ := h.ends
  obtain ⟨-, hend'⟩ := h'.ends
  rcases hend with ⟨eof, heof, hkind⟩ | ⟨c, l, hbad⟩ <;>
    rcases hend' with ⟨eof', heof', hkind'⟩ | ⟨c', l', hbad'⟩
  · rw [heof, heof']
    refine .ok ?_
    rw [Token.text, Token.text, hkind, hkind']
  · simp [Stream.fault, heof, hbad', SyntaxError.character?] at hfault
  · simp [Stream.fault, hbad, heof', SyntaxError.character?] at hfault
  · have hc : c = c' := by
      simpa [Stream.fault, hbad, hbad', SyntaxError.character?] using hfault
    rw [hbad, hbad', hc]
    exact .badCharacter c' l l'

lemma alike_of_outline_eq {src src' : Source}
    (h : (Lexer.ofSource src).stream.outline = (Lexer.ofSource src').stream.outline) :
    Alike (fun t u => t.same u = true) (parse src) (parse src') := by
  obtain ⟨htokens, hfault⟩ := Outline.mk.inj h
  have hread : Reading src.name [] src.input.toList (Lexer.ofSource src).stream :=
    reading_stream src.name [] _
  have hread' : Reading src'.name [] src'.input.toList (Lexer.ofSource src').stream :=
    reading_stream src'.name [] _
  exact Parser.parseStream_alike htokens (hread.ending_alike hread' hfault)

/-- Texts of which the lexer says the same, places aside, are parsed into the same, places aside:
the same tree or the same error. So it makes no difference how long a stretch of blanks is, nor
whether there are any beside a punctuation character. -/
theorem parse_alike :
    (∀ src src', (Lexer.ofSource src).stream.outline = (Lexer.ofSource src').stream.outline →
      Alike (fun t u => t.same u = true) (parse src) (parse src')) ∧
    ∀ name name' before blanks blanks' after, AreBlank blanks → AreBlank blanks' →
      Interchangeable before blanks blanks' after →
      Alike (fun t u => t.same u = true)
        (parse ⟨name, String.ofList (before ++ blanks ++ after)⟩)
        (parse ⟨name', String.ofList (before ++ blanks' ++ after)⟩) := by
  refine ⟨fun src src' h => alike_of_outline_eq h, ?_⟩
  intro name name' before blanks blanks' after hblanks hblanks' h
  apply alike_of_outline_eq
  simp only [Lexer.ofSource, String.toList_ofList, Outline.outline_stream]
  exact h.outline_eq hblanks hblanks'

/-- A list that is not closed, with and without blanks, and two fields on one line or on two. -/
theorem parse_alike_fields :
    Alike (fun t u => t.same u = true) (parse ⟨"a", "list(any"⟩)
        (parse ⟨"b", "\tlist (\n any\u3000"⟩) ∧
      Alike (fun t u => t.same u = true)
        (parse ⟨"a", String.ofList ("object(\x7ba=any".toList ++ [' '] ++ "b=null\x7d)".toList)⟩)
        (parse ⟨"b", String.ofList
          ("object(\x7ba=any".toList ++ ['\r', '\n'] ++ "b=null\x7d)".toList)⟩) := by
  have hlist : (Lexer.ofSource ⟨"a", "list(any"⟩).stream.outline =
      (Lexer.ofSource ⟨"b", "\tlist (\n any\u3000"⟩).stream.outline := by
    decide +kernel
  have hspace : AreBlank [' '] := by
    rw [AreBlank, List.forall_mem_singleton]
    decide
  have hline : AreBlank ['\r', '\n'] := by
    rw [AreBlank, List.forall_mem_cons, List.forall_mem_singleton]
    decide
  exact ⟨parse_alike.1 _ _ hlist, parse_alike.2 _ _ _ _ _ _ hspace hline (.inl (by simp))⟩

end ModuleBindings.Constraint
