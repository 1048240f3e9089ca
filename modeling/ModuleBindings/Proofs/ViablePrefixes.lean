import ModuleBindings.Proofs.Lookahead
import ModuleBindings.Proofs.Parsing
import Mathlib.Computability.Language

/-!
# Where the parser stops

A sequence of symbols is viable if a type, however deep, can begin with it. The parser stops at the
first token behind which the sequence is not viable any more, or at the bad character behind a
viable sequence, unless a type is nested too deep.
-/

namespace ModuleBindings.Constraint

open Proofs

/-- A type and the end of its text can begin with these symbols. -/
def Viable (ss : List Symbol) : Prop :=
  ∃ d : Derivation, ss <+: d.symbols ++ [.mark .eof]

/-- All tokens that are read of a text, the one at its end included. -/
def Lexer.Stream.allTokens (s : Lexer.Stream) : List Token :=
  match s.ending with
  | .ok eof => s.tokens ++ [eof]
  | .error _ => s.tokens

namespace Derivation

/-- The keyword that a derivation begins with. -/
def keyword : Derivation → Keyword
  | optional _ => .optional
  | scalar kind _ => .scalar kind
  | wrapper kind _ _ => .wrapper kind
  | object _ => .object

lemma keyword_isProper : ∀ d : Derivation, d.keyword.IsProper
  | optional _ => trivial
  | scalar _ hk => hk
  | wrapper _ hk _ => hk
  | object _ => trivial

lemma exists_symbols_eq (d : Derivation) :
    ∃ ss, d.symbols = .word d.keyword.spelling :: ss := by
  cases d <;> exact ⟨_, by rw [symbols]; rfl⟩

/-- The first word decides which keyword it is. -/
lemma keyword_eq_of_cons {d : Derivation} {k : Keyword} {ss ss' : List Symbol} (hk : k.IsProper)
    (h : d.symbols ++ ss = .word k.spelling :: ss') : d.keyword = k := by
  obtain ⟨more, hd⟩ := d.exists_symbols_eq
  rw [hd, List.cons_append, List.cons.injEq, Symbol.word.injEq] at h
  have hname : Keyword.ofName? d.keyword.spelling = some d.keyword :=
    Keyword.ofName?_eq_some_iff.mpr ⟨rfl, d.keyword_isProper⟩
  have hname' : Keyword.ofName? d.keyword.spelling = some k :=
    Keyword.ofName?_eq_some_iff.mpr ⟨h.1, hk⟩
  exact Option.some.inj (hname.symm.trans hname')

lemma keyword_eq_of_append_eq {d d' : Derivation} {ss ss' : List Symbol}
    (h : d.symbols ++ ss = d'.symbols ++ ss') : d.keyword = d'.keyword := by
  obtain ⟨more, hd'⟩ := d'.exists_symbols_eq
  rw [hd', List.cons_append] at h
  exact keyword_eq_of_cons d'.keyword_isProper h

mutual

/-- Whatever follows it, a derivation is found again in its symbols. -/
theorem symbols_append_inj : ∀ (d d' : Derivation) {ss ss' : List Symbol},
    d.symbols ++ ss = d'.symbols ++ ss' → d = d' ∧ ss = ss'
  | d, d', ss, ss', h => by
    have hk := keyword_eq_of_append_eq h
    cases d with
    | optional d =>
      cases d' with
      | optional d' =>
        simp only [symbols, List.cons_append, List.append_assoc, List.cons.injEq, true_and] at h
        obtain ⟨rfl, hss⟩ := symbols_append_inj d d' h
        exact ⟨rfl, (List.cons.inj hss).2⟩
      | scalar | wrapper | object => cases hk
    | scalar kind hkind =>
      cases d' with
      | scalar kind' hkind' =>
        cases hk
        simp only [symbols, List.cons_append, List.cons.injEq, true_and, List.nil_append] at h
        exact ⟨rfl, h⟩
      | optional | wrapper | object => cases hk
    | wrapper kind hkind d =>
      cases d' with
      | wrapper kind' hkind' d' =>
        cases hk
        simp only [symbols, List.cons_append, List.append_assoc, List.cons.injEq, true_and] at h
        obtain ⟨rfl, hss⟩ := symbols_append_inj d d' h
        exact ⟨rfl, (List.cons.inj hss).2⟩
      | optional | scalar | object => cases hk
    | object ds =>
      cases d' with
      | object ds' =>
        simp only [symbols, List.cons_append, List.append_assoc, List.cons.injEq, true_and] at h
        obtain ⟨rfl, hss⟩ := fieldSymbols_append_inj ds ds' h
        exact ⟨rfl, (List.cons.inj hss).2⟩
      | optional | scalar | wrapper => cases hk

theorem fieldSymbols_append_inj : ∀ (ds ds' : List (String × Derivation)) {ss ss' : List Symbol},
    fieldSymbols ds ++ .mark .braceR :: ss = fieldSymbols ds' ++ .mark .braceR :: ss' →
    ds = ds' ∧ ss = ss'
  | [], [], ss, ss', h => ⟨rfl, (List.cons.inj h).2⟩
  | [], _ :: _, ss, ss', h => by
    simp [fieldSymbols] at h
  | _ :: _, [], ss, ss', h => by
    simp [fieldSymbols] at h
  | (name, d) :: ds, (name', d') :: ds', ss, ss', h => by
    simp only [fieldSymbols, List.cons_append, List.append_assoc, List.cons.injEq, true_and,
      Symbol.word.injEq] at h
    obtain ⟨rfl, hrest⟩ := h
    obtain ⟨rfl, hfields⟩ := symbols_append_inj d d' hrest
    obtain ⟨rfl, hss⟩ := fieldSymbols_append_inj ds ds' hfields
    exact ⟨rfl, hss⟩

end

end Derivation

section Words

variable {L M : Language Symbol} {past : List Symbol} {s : Symbol}

/-- A word of the language can begin with these symbols. -/
def Begins (L : Language Symbol) (past : List Symbol) : Prop :=
  ∃ more, past ++ more ∈ L

/-- No word of the language, whatever follows it, goes on with `s` after these symbols. -/
def Bars (L : Language Symbol) (past : List Symbol) (s : Symbol) : Prop :=
  ∀ w ∈ L, ∀ more, ¬past ++ [s] <+: w ++ more

/-- A word is found again whatever follows it. -/
def IsPrefixFree (L : Language Symbol) : Prop :=
  ∀ w ∈ L, ∀ w' ∈ L, ∀ ss ss', w ++ ss = w' ++ ss' → w = w'

lemma Begins.mul_left (h : Begins L past) (hM : ∃ w, w ∈ M) : Begins (L * M) past := by
  obtain ⟨more, hmore⟩ := h
  obtain ⟨w, hw⟩ := hM
  refine ⟨more ++ w, ?_⟩
  rw [← List.append_assoc]
  exact Language.append_mem_mul hmore hw

lemma Begins.mul_right {w : List Symbol} (h : Begins M past) (hw : w ∈ L) :
    Begins (L * M) (w ++ past) := by
  obtain ⟨more, hmore⟩ := h
  refine ⟨more, ?_⟩
  rw [List.append_assoc]
  exact Language.append_mem_mul hw hmore

lemma Bars.mul_left (h : Bars L past s) : Bars (L * M) past s := by
  intro w hw more hbegins
  obtain ⟨u, hu, v, hv, rfl⟩ := Language.mem_mul.mp hw
  rw [List.append_assoc] at hbegins
  exact h u hu _ hbegins

lemma Bars.mul_right {w : List Symbol} (h : Bars M past s) (hL : IsPrefixFree L) (hw : w ∈ L) :
    Bars (L * M) (w ++ past) s := by
  intro w' hw' more hbegins
  obtain ⟨u, hu, v, hv, rfl⟩ := Language.mem_mul.mp hw'
  obtain ⟨tail, htail⟩ := hbegins
  simp only [List.append_assoc] at htail
  obtain rfl := hL w hw u hu _ _ htail
  refine h v hv more ⟨tail, ?_⟩
  rw [List.append_assoc]
  exact List.append_cancel_left htail

end Words

/-- The word that is one mark. -/
def markWord (kind : TokenKind) : Language Symbol :=
  {[.mark kind]}

def types : Language Symbol :=
  {ss | ∃ d : Derivation, d.symbols = ss}

/-- The fields of an object with the brace behind them. -/
def fieldLists : Language Symbol :=
  {ss | ∃ ds, Derivation.fieldSymbols ds ++ [.mark .braceR] = ss}

/-- What can stand behind a keyword until its type is complete. -/
def Keyword.continuations : Keyword → Language Symbol
  | optional | wrapper _ => markWord .parenL * (types * markWord .parenR)
  | scalar _ => 1
  | object => markWord .parenL * (markWord .braceL * (fieldLists * markWord .parenR))

section TypeWords

variable {L : Language Symbol} {kind : TokenKind} {t : Token} {k : Keyword} {ss : List Symbol}

lemma mem_mark_mul : ss ∈ markWord kind * L ↔ ∃ more ∈ L, .mark kind :: more = ss := by
  rw [Language.mem_mul]
  constructor
  · rintro ⟨w, rfl, more, hmore, rfl⟩
    exact ⟨more, hmore, rfl⟩
  · rintro ⟨more, hmore, rfl⟩
    exact ⟨[.mark kind], rfl, more, hmore, rfl⟩

lemma mem_types_mul_mark :
    ss ∈ types * markWord kind ↔ ∃ d : Derivation, d.symbols ++ [.mark kind] = ss := by
  rw [Language.mem_mul]
  constructor
  · rintro ⟨_, ⟨d, rfl⟩, _, rfl, rfl⟩
    exact ⟨d, rfl⟩
  · rintro ⟨d, rfl⟩
    exact ⟨_, ⟨d, rfl⟩, _, rfl, rfl⟩

lemma mem_fieldLists_mul_mark :
    ss ∈ fieldLists * markWord kind ↔
      ∃ ds, Derivation.fieldSymbols ds ++ [.mark .braceR, .mark kind] = ss := by
  rw [Language.mem_mul]
  constructor
  · rintro ⟨_, ⟨ds, rfl⟩, _, rfl, rfl⟩
    exact ⟨ds, by simp⟩
  · rintro ⟨ds, rfl⟩
    exact ⟨_, ⟨ds, rfl⟩, _, rfl, by simp⟩

lemma isPrefixFree_mark : IsPrefixFree (markWord kind) := by
  rintro w rfl w' rfl ss ss' -
  rfl

lemma isPrefixFree_types : IsPrefixFree types := by
  rintro _ ⟨d, rfl⟩ _ ⟨d', rfl⟩ ss ss' h
  rw [(Derivation.symbols_append_inj d d' h).1]

lemma isPrefixFree_fieldLists : IsPrefixFree fieldLists := by
  rintro _ ⟨ds, rfl⟩ _ ⟨ds', rfl⟩ ss ss' h
  rw [List.append_assoc, List.append_assoc] at h
  rw [(Derivation.fieldSymbols_append_inj ds ds' h).1]

lemma nil_not_mem_types : [] ∉ types := by
  rintro ⟨d, hd⟩
  obtain ⟨ss, hss⟩ := d.exists_symbols_eq
  rw [hss] at hd
  cases hd

lemma nil_not_mem_fieldLists : [] ∉ fieldLists := by
  rintro ⟨ds, hds⟩
  simp at hds

lemma exists_mem_types : ∃ w, w ∈ types :=
  ⟨_, .scalar .any rfl, rfl⟩

lemma exists_mem_fieldLists : ∃ w, w ∈ fieldLists :=
  ⟨_, [], rfl⟩

/-- A type goes on as its keyword asks. -/
lemma cons_mem_types_iff (hk : Keyword.ofToken? t = some k) :
    t.symbol :: ss ∈ types ↔ ss ∈ k.continuations := by
  obtain ⟨hs, hp⟩ := Keyword.ofToken?_eq_some_iff.mp hk
  rw [hs]
  constructor
  · rintro ⟨d, hd⟩
    rw [← List.append_nil d.symbols] at hd
    obtain rfl := Derivation.keyword_eq_of_cons hp hd
    rw [List.append_nil] at hd
    cases d with
    | optional d | wrapper kind hkind d =>
      obtain rfl := (List.cons.inj hd).2
      exact mem_mark_mul.mpr ⟨_, mem_types_mul_mark.mpr ⟨d, rfl⟩, rfl⟩
    | scalar kind hkind =>
      obtain rfl := (List.cons.inj hd).2
      exact (Language.mem_one _).mpr rfl
    | object ds =>
      obtain rfl := (List.cons.inj hd).2
      exact mem_mark_mul.mpr ⟨_, mem_mark_mul.mpr ⟨_, mem_fieldLists_mul_mark.mpr ⟨ds, rfl⟩, rfl⟩,
        rfl⟩
  · intro hss
    cases k with
    | optional =>
      obtain ⟨_, hinner, rfl⟩ := mem_mark_mul.mp hss
      obtain ⟨d, rfl⟩ := mem_types_mul_mark.mp hinner
      exact ⟨.optional d, rfl⟩
    | wrapper kind =>
      obtain ⟨_, hinner, rfl⟩ := mem_mark_mul.mp hss
      obtain ⟨d, rfl⟩ := mem_types_mul_mark.mp hinner
      exact ⟨.wrapper kind hp d, rfl⟩
    | scalar kind =>
      obtain rfl := hss
      exact ⟨.scalar kind hp, rfl⟩
    | object =>
      obtain ⟨_, hbrace, rfl⟩ := mem_mark_mul.mp hss
      obtain ⟨_, hinner, rfl⟩ := mem_mark_mul.mp hbrace
      obtain ⟨ds, rfl⟩ := mem_fieldLists_mul_mark.mp hinner
      exact ⟨.object ds, rfl⟩

lemma bars_types_of_ofToken?_eq_none (hk : Keyword.ofToken? t = none) : Bars types [] t.symbol := by
  rintro _ ⟨d, rfl⟩ more hbegins
  obtain ⟨ss, hd⟩ := d.exists_symbols_eq
  rw [hd, List.nil_append, List.cons_append, List.cons_prefix_cons] at hbegins
  have hsome : Keyword.ofToken? t = some d.keyword :=
    Keyword.ofToken?_eq_some_iff.mpr ⟨hbegins.1, d.keyword_isProper⟩
  rw [hk] at hsome
  cases hsome

lemma bars_mark {s : Symbol} (hs : s ≠ .mark kind) : Bars (markWord kind) [] s := by
  rintro _ rfl more hbegins
  rw [List.nil_append, List.singleton_append, List.cons_prefix_cons] at hbegins
  exact hs hbegins.1

/-- A field goes on behind its name, and other fields behind it. -/
lemma word_cons_mem_fieldLists_iff {name : String} :
    .word name :: ss ∈ fieldLists ↔ ss ∈ markWord .equals * (types * fieldLists) := by
  rw [mem_mark_mul]
  constructor
  · rintro ⟨ds, hds⟩
    cases ds with
    | nil => cases hds
    | cons field ds =>
      obtain ⟨name', d⟩ := field
      simp only [Derivation.fieldSymbols, List.cons_append, List.append_assoc,
        List.cons.injEq] at hds
      exact ⟨_, Language.append_mem_mul ⟨d, rfl⟩ ⟨ds, rfl⟩, hds.2⟩
  · rintro ⟨more, hmore, rfl⟩
    obtain ⟨_, ⟨d, rfl⟩, _, ⟨ds, rfl⟩, rfl⟩ := Language.mem_mul.mp hmore
    exact ⟨(name, d) :: ds, by simp [Derivation.fieldSymbols]⟩

lemma bars_fieldLists {s : Symbol} (hword : ∀ name, s ≠ .word name) (hbrace : s ≠ .mark .braceR) :
    Bars fieldLists [] s := by
  rintro _ ⟨ds, rfl⟩ more hbegins
  cases ds with
  | nil =>
    rw [List.nil_append, Derivation.fieldSymbols, List.nil_append, List.singleton_append,
      List.cons_prefix_cons] at hbegins
    exact hbrace hbegins.1
  | cons field ds =>
    obtain ⟨name, d⟩ := field
    rw [List.nil_append, Derivation.fieldSymbols, List.cons_append, List.cons_append,
      List.cons_prefix_cons] at hbegins
    exact hword name hbegins.1

end TypeWords

namespace Parser

/-- If the tokens end well, they end with the end of the text. -/
def Bounds.EndsText (b : Bounds) : Prop :=
  ∀ x, b.ending = .ok x → x.kind = .eof

/-- What is read behind these symbols is refused with `e`: it is itself an error, or a token that
no word goes on with, or one with which a type would begin too deep. -/
def Refuses (L : Language Symbol) (past : List Symbol) (e : SyntaxError) :
    Except SyntaxError Token → Prop
  | .error e' => e = e'
  | .ok x => ∃ expected, e = .unexpected x expected ∧
      (expected = .shallowerNesting ∨ Bars L past x.symbol)

/-- Reading a word of the language stops with `e` at the first thing that is refused. -/
def Stops (b : Bounds) (L : Language Symbol) (ts : List Token) (e : SyntaxError) : Prop :=
  ∃ past rest, ts = past ++ rest ∧ Begins L (past.map Token.symbol) ∧
    Refuses L (past.map Token.symbol) e (b.next rest)

/-- A word of the language is read, and `rest` is what stands behind it. -/
def Reads (L : Language Symbol) (ts rest : List Token) : Prop :=
  ∃ word, ts = word ++ rest ∧ word.map Token.symbol ∈ L

section Stopping

variable {b : Bounds} {L M : Language Symbol} {t : Token} {ts rest : List Token} {e : SyntaxError}
  {item : Except SyntaxError Token} {past past' : List Symbol}

lemma Refuses.imp (h : Refuses L past e item)
    (himp : ∀ s, Bars L past s → Bars M past' s) : Refuses M past' e item := by
  cases item with
  | error e' => exact h
  | ok x =>
    obtain ⟨expected, he, hbars⟩ := h
    exact ⟨expected, he, hbars.imp_right (himp x.symbol)⟩

lemma Stops.mul_left (h : Stops b L ts e) (hM : ∃ w, w ∈ M) : Stops b (L * M) ts e := by
  obtain ⟨past, rest, hts, hbegins, hrefuses⟩ := h
  exact ⟨past, rest, hts, hbegins.mul_left hM, hrefuses.imp fun _ => Bars.mul_left⟩

lemma Stops.mul_right (h : Stops b M rest e) (hL : IsPrefixFree L) (hread : Reads L ts rest) :
    Stops b (L * M) ts e := by
  obtain ⟨word, rfl, hword⟩ := hread
  obtain ⟨past, rest, rfl, hbegins, hrefuses⟩ := h
  refine ⟨word ++ past, rest, (List.append_assoc word past rest).symm, ?_, ?_⟩
  · rw [List.map_append]
    exact hbegins.mul_right hword
  · rw [List.map_append]
    exact hrefuses.imp fun _ hbars => hbars.mul_right hL hword

/-- A first token leaves what can stand behind it to be read. -/
lemma Stops.cons (h : Stops b M ts e) (hL : ∀ ss, t.symbol :: ss ∈ L ↔ ss ∈ M) (hnil : [] ∉ L) :
    Stops b L (t :: ts) e := by
  obtain ⟨past, rest, rfl, ⟨more, hmore⟩, hrefuses⟩ := h
  refine ⟨t :: past, rest, rfl, ⟨more, (hL _).mpr hmore⟩, ?_⟩
  refine hrefuses.imp fun s hbars w hw more' hbegins => ?_
  cases w with
  | nil => exact hnil hw
  | cons s' w =>
    rw [List.map_cons, List.cons_append, List.cons_append, List.cons_prefix_cons] at hbegins
    obtain ⟨rfl, hbegins⟩ := hbegins
    exact hbars w ((hL w).mp hw) more' hbegins

/-- What is read first is refused at once. -/
lemma stops_unexpected {expected : Expectation} (hL : ∃ w, w ∈ L)
    (h : ∀ x, b.next ts = .ok x → expected = .shallowerNesting ∨ Bars L [] x.symbol) :
    Stops b L ts (unexpected b expected ts) := by
  refine ⟨[], ts, rfl, hL, ?_⟩
  cases ts with
  | nil =>
    cases hend : b.ending with
    | error e => simp [Bounds.next, Refuses, unexpected, hend]
    | ok x =>
      simp only [Bounds.next, unexpected, hend]
      exact ⟨expected, rfl, h x hend⟩
  | cons t ts => exact ⟨expected, rfl, h t rfl⟩

/-- Of two steps, the first stops, or it reads a word and the second stops behind it. -/
lemma stops_of_bind {α β : Type} {x : Except SyntaxError α} {f : α → Except SyntaxError β}
    (h : x >>= f = .error e) (hfirst : x = .error e → Stops b L ts e)
    (hsecond : ∀ a, x = .ok a → f a = .error e → ∃ rest, Reads L ts rest ∧ Stops b M rest e)
    (hL : IsPrefixFree L) (hM : ∃ w, w ∈ M) : Stops b (L * M) ts e := by
  rw [bind_eq_error] at h
  obtain hx | ⟨a, ha, hf⟩ := h
  · exact (hfirst hx).mul_left hM
  · obtain ⟨rest, hread, hstops⟩ := hsecond a ha hf
    exact hstops.mul_right hL hread

end Stopping

/-! ### The parser stops -/

section Parsing

variable {b : Bounds} {depth : Nat} {flagged : Bool} {t : Token} {ts : List Token}
  {e : SyntaxError} {kind : TokenKind} {M : Language Symbol} {α : Type}

/-- Parsing a type gives back what stands behind one of its words. -/
lemma reads_of_typeAt {u : Constraint} {r : ProperRest ts}
    (h : typeAt b depth flagged ts = .ok (u, r)) : Reads types ts r.val := by
  obtain ⟨d, hsym, -, hdeep⟩ := (typeAt_sound b).1 _ _ _ _ _ h
  obtain ⟨word, rest, rfl, hword, hrest⟩ := List.map_eq_append_iff.mp hsym
  -- what is given back has the symbols of `rest`; reading the word again shows that it is `rest`
  obtain ⟨u', r', h', hr', -⟩ := typeAt_complete d flagged rest hword hdeep
  rw [h, Except.ok.injEq, Prod.mk.injEq] at h'
  refine ⟨word, ?_, d, hword.symm⟩
  rw [h'.2, hr']

lemma reads_of_fieldsAt {fs : List (Field Constraint)} {r : ProperRest ts}
    (h : fieldsAt b depth ts = .ok (fs, r)) (hd : b.Admits depth) : Reads fieldLists ts r.val := by
  obtain ⟨ds, hsym, -, hdeep⟩ := (typeAt_sound b).2 _ _ _ _ h hd
  obtain ⟨word, _, rfl, hword, hclose⟩ := List.map_eq_append_iff.mp hsym
  obtain ⟨close, rest, rfl, hclose, hrest⟩ := List.map_eq_cons_iff.mp hclose
  obtain ⟨fs', r', h', hr', -⟩ := fieldsAt_complete ds rest hword hclose hdeep
  rw [h, Except.ok.injEq, Prod.mk.injEq] at h'
  refine ⟨word ++ [close], ?_, ds, ?_⟩
  · rw [h'.2, hr', List.append_assoc, List.singleton_append]
  · rw [List.map_append, hword, List.map_singleton, hclose]

lemma reads_of_expect (hk : kind ≠ .name) {r : ProperRest ts} (h : expect b kind ts = .ok r) :
    Reads (markWord kind) ts r.val := by
  obtain ⟨t, hts, ht⟩ := (expect_eq_ok_iff hk).mp h
  exact ⟨[t], hts, congrArg (· :: []) ht⟩

lemma bars_mark_symbol (hk : kind ≠ .name) (ht : t.kind ≠ kind) :
    Bars (markWord kind) [] t.symbol :=
  bars_mark fun hs => ht ((Token.symbol_eq_mark_iff hk).mp hs)

lemma stops_of_expect (hb : b.EndsText) (hk : kind ≠ .name ∧ kind ≠ .eof)
    (h : expect b kind ts = .error e) : Stops b (markWord kind) ts e := by
  cases ts with
  | nil =>
    obtain rfl := Except.error.inj h
    refine stops_unexpected ⟨_, rfl⟩ fun x hx => .inr (bars_mark_symbol hk.1 ?_)
    rw [hb x hx]
    exact hk.2.symm
  | cons t ts =>
    rw [expect] at h
    split_ifs at h with ht
    obtain rfl := Except.error.inj h
    exact ⟨[], t :: ts, rfl, ⟨_, rfl⟩, _, rfl, .inr (bars_mark_symbol hk.1 ht)⟩

lemma stops_of_expect_bind (hb : b.EndsText) (hk : kind ≠ .name ∧ kind ≠ .eof)
    {f : ProperRest ts → Except SyntaxError α} (h : expect b kind ts >>= f = .error e)
    (hf : ∀ r, f r = .error e → Stops b M r.val e) (hM : ∃ w, w ∈ M) :
    Stops b (markWord kind * M) ts e :=
  stops_of_bind h (stops_of_expect hb hk)
    (fun r hr hfr => ⟨r.val, reads_of_expect hk.1 hr, hf r hfr⟩) isPrefixFree_mark hM

lemma stops_of_last_expect (hb : b.EndsText) (hk : kind ≠ .name ∧ kind ≠ .eof)
    {f : ProperRest ts → α} (h : (expect b kind ts >>= fun r => pure (f r)) = .error e) :
    Stops b (markWord kind) ts e := by
  obtain h | ⟨r, -, h⟩ := bind_eq_error.mp h
  · exact stops_of_expect hb hk h
  · exact absurd h pure_ne_error

/-- A type in parentheses stops where a parenthesis is missing or where the type stops. -/
lemma stops_of_enclosed (hb : b.EndsText) (f : Constraint → Constraint)
    (ih : ∀ inner, inner.length < ts.length → ∀ e, typeAt b depth flagged inner = .error e →
      Stops b types inner e)
    (h : (do
      let ⟨r₁, h₁⟩ ← expect b .parenL ts
      let (v, ⟨r₂, h₂⟩) ← typeAt b depth flagged r₁
      let ⟨r₃, h₃⟩ ← expect b .parenR r₂
      return (f v, (⟨r₃, length_lt_cons_of_lt h₁ h₂ h₃⟩ : ProperRest (t :: ts)))) = .error e) :
    Stops b (markWord .parenL * (types * markWord .parenR)) ts e := by
  refine stops_of_expect_bind hb (by decide) h ?_
    ⟨_, mem_types_mul_mark.mpr ⟨.scalar .any rfl, rfl⟩⟩
  rintro ⟨r₁, h₁⟩ h
  refine stops_of_bind h (ih r₁ h₁ e) ?_ isPrefixFree_types ⟨_, rfl⟩
  rintro ⟨v, ⟨r₂, h₂⟩⟩ hv h
  exact ⟨r₂, reads_of_typeAt hv, stops_of_last_expect hb (by decide) h⟩

/-- A type that is refused is refused at the first token that cannot stand where it does. -/
theorem typeAt_stops (hb : b.EndsText) :
    (∀ depth flagged ts, ∀ e, typeAt b depth flagged ts = .error e → Stops b types ts e) ∧
    (∀ depth ts, ∀ e, fieldsAt b depth ts = .error e → b.Admits depth →
      Stops b fieldLists ts e) := by
  apply typeAt.mutual_induct b
  case case1 =>
    intro depth flagged e h
    rw [typeAt] at h
    obtain rfl := Except.error.inj h
    refine stops_unexpected exists_mem_types fun x hx => .inr ?_
    have hkind : x.kind = .eof := hb x hx
    exact bars_types_of_ofToken?_eq_none (by simp [Keyword.ofToken?, hkind])
  case case2 =>
    intro depth flagged t ts hd e h
    simp only [typeAt, hd, if_true] at h
    obtain rfl := Except.error.inj h
    exact ⟨[], t :: ts, rfl, exists_mem_types, _, rfl, .inl rfl⟩
  case case3 =>
    intro depth flagged t ts hd hk e h
    simp only [typeAt, hd, hk] at h
    obtain rfl := Except.error.inj h
    exact ⟨[], t :: ts, rfl, exists_mem_types, _, rfl, .inr (bars_types_of_ofToken?_eq_none hk)⟩
  case case4 =>
    intro depth flagged t ts hd kind hk e h
    simp [typeAt, hd, hk] at h
  case case5 =>
    intro depth flagged t ts hd hk ih e h
    simp only [typeAt, hd, hk, Bool.false_eq_true, if_false] at h
    have hstops := stops_of_enclosed hb (fun v => v) ih h
    exact hstops.cons (fun _ => cons_mem_types_iff hk) nil_not_mem_types
  case case6 =>
    intro depth flagged t ts hd kind hk ih e h
    simp only [typeAt, hd, hk, Bool.false_eq_true, if_false] at h
    have hstops := stops_of_enclosed hb
      (fun v => node kind.keyword kind (some v) flagged [] (some t.location)) ih h
    exact hstops.cons (fun _ => cons_mem_types_iff hk) nil_not_mem_types
  case case7 =>
    intro depth flagged t ts hd hk ih e h
    simp only [typeAt, hd, hk, Bool.false_eq_true, if_false] at h
    rw [Bool.not_eq_true, Bounds.tooDeep_eq_false] at hd
    refine Stops.cons (M := Keyword.object.continuations) ?_ (fun _ => cons_mem_types_iff hk)
      nil_not_mem_types
    have hfields : ∃ w, w ∈ fieldLists * markWord .parenR :=
      ⟨_, mem_fieldLists_mul_mark.mpr ⟨[], rfl⟩⟩
    refine stops_of_expect_bind hb (by decide) h ?_
      (hfields.imp' _ fun _ hw => mem_mark_mul.mpr ⟨_, hw, rfl⟩)
    rintro ⟨r₁, h₁⟩ h
    refine stops_of_expect_bind hb (by decide) h ?_ hfields
    rintro ⟨r₂, h₂⟩ h
    refine stops_of_bind h (fun hfs => ih r₁ h₁ r₂ h₂ e hfs hd) ?_ isPrefixFree_fieldLists ⟨_, rfl⟩
    rintro ⟨fs, ⟨r₃, h₃⟩⟩ hfs h
    exact ⟨r₃, reads_of_fieldsAt hfs hd, stops_of_last_expect hb (by decide) h⟩
  case case8 =>
    intro depth e h ha
    rw [fieldsAt] at h
    obtain rfl := Except.error.inj h
    refine stops_unexpected exists_mem_fieldLists fun x hx => .inr ?_
    have hkind : x.kind = .eof := hb x hx
    exact bars_fieldLists (by simp [Token.symbol, hkind]) (by simp [Token.symbol, hkind])
  case case9 =>
    intro depth t ts ht e h ha
    simp [fieldsAt, ht] at h
  case case10 =>
    intro depth t ts ht ihType ihFields e h ha
    simp only [fieldsAt, ht] at h
    have hs : t.symbol = .word t.value := Token.symbol_eq_word_iff.mpr ⟨ht, rfl⟩
    refine Stops.cons (M := markWord .equals * (types * fieldLists)) ?_
      (fun _ => hs ▸ word_cons_mem_fieldLists_iff) nil_not_mem_fieldLists
    refine stops_of_expect_bind hb (by decide) h ?_
      ⟨_, Language.append_mem_mul ⟨.scalar .any rfl, rfl⟩ ⟨[], rfl⟩⟩
    rintro ⟨r₁, h₁⟩ h
    refine stops_of_bind h (ihType r₁ h₁ e) ?_ isPrefixFree_types exists_mem_fieldLists
    rintro ⟨v, ⟨r₂, h₂⟩⟩ hv h
    refine ⟨r₂, reads_of_typeAt hv, ?_⟩
    obtain h | ⟨_, -, h⟩ := bind_eq_error.mp h
    · exact ihFields r₁ h₁ r₂ h₂ e h ha
    · exact absurd h pure_ne_error
  case case11 =>
    intro depth t ts hclose hname e h ha
    rw [fieldsAt_other hclose hname] at h
    obtain rfl := Except.error.inj h
    refine ⟨[], t :: ts, rfl, exists_mem_fieldLists, _, rfl, .inr (bars_fieldLists ?_ ?_)⟩
    · exact fun name hs => hname (Token.symbol_eq_word_iff.mp hs).1
    · exact fun hs => hclose ((Token.symbol_eq_mark_iff (by decide)).mp hs)

lemma parseStream_stops {limit : Option Nat} {s : Lexer.Stream}
    (hb : Bounds.EndsText ⟨limit, s.ending⟩) (htokens : ∀ t ∈ s.tokens, t.kind ≠ .eof)
    (h : parseStream limit s = .error e) :
    Stops ⟨limit, s.ending⟩ (types * markWord .eof) s.tokens e := by
  refine stops_of_bind h ((typeAt_stops hb).1 1 false s.tokens e) ?_ isPrefixFree_types ⟨_, rfl⟩
  rintro ⟨u, ⟨rest, hlen⟩⟩ hu h
  have hread : Reads types s.tokens rest := reads_of_typeAt hu
  refine ⟨rest, hread, ?_⟩
  cases rest with
  | nil =>
    cases hend : s.ending with
    | ok eof => simp [hend, pure_ne_error] at h
    | error e' =>
      simp only [hend, unexpected] at h
      obtain rfl := Except.error.inj h
      exact ⟨[], [], rfl, ⟨_, rfl⟩, rfl⟩
  | cons t rest =>
    obtain rfl := Except.error.inj h
    obtain ⟨word, hword, -⟩ := hread
    have ht : t.kind ≠ .eof := htokens t (by simp [hword])
    exact ⟨[], t :: rest, rfl, ⟨_, rfl⟩, _, rfl, .inr (bars_mark_symbol (by decide) ht)⟩

end Parsing

end Parser

lemma viable_iff_begins {ss : List Symbol} : Viable ss ↔ Begins (types * markWord .eof) ss := by
  constructor
  · rintro ⟨d, more, hmore⟩
    exact ⟨more, mem_types_mul_mark.mpr ⟨d, hmore.symm⟩⟩
  · rintro ⟨more, hmore⟩
    obtain ⟨d, hd⟩ := mem_types_mul_mark.mp hmore
    exact ⟨d, more, hd.symm⟩

lemma not_viable_of_bars {past : List Symbol} {s : Symbol}
    (h : Bars (types * markWord .eof) past s) :
    ¬Viable (past ++ [s]) := by
  rintro ⟨d, hbegins⟩
  refine h _ (mem_types_mul_mark.mpr ⟨d, rfl⟩) [] ?_
  rwa [List.append_nil]

lemma exists_allTokens_eq {limit : Option Nat} {s : Lexer.Stream} {past rest : List Token}
    {x : Token} (hts : s.tokens = past ++ rest)
    (hx : Parser.Bounds.next ⟨limit, s.ending⟩ rest = .ok x) :
    ∃ after, s.allTokens = past ++ x :: after := by
  unfold Lexer.Stream.allTokens
  cases rest with
  | nil =>
    have hend : s.ending = .ok x := hx
    exact ⟨[], by simp [hend, hts]⟩
  | cons t rest =>
    obtain rfl := Except.ok.inj hx
    cases s.ending with
    | ok eof => exact ⟨rest ++ [eof], by simp [hts]⟩
    | error e => exact ⟨rest, hts⟩

lemma next_eq_error {b : Parser.Bounds} {rest : List Token} {e : SyntaxError}
    (h : b.next rest = .error e) : rest = [] ∧ b.ending = .error e := by
  cases rest with
  | nil => exact ⟨rfl, h⟩
  | cons t rest => cases h

/-- A text that is refused, other than for its depth, is refused at a token of it: the tokens before
it are viable, and with it they are not. If it is refused for a bad character, all tokens before
that are viable, and it is the lexer that refuses it. -/
theorem parse_stops_behind_viable (src : Source) :
    let s := (Lexer.ofSource src).stream
    (∀ found expected, parse src = .error (.unexpected found expected) →
      expected ≠ .shallowerNesting →
      ∃ before after, s.allTokens = before ++ found :: after ∧
        Viable (before.map Token.symbol) ∧ ¬Viable ((before ++ [found]).map Token.symbol)) ∧
    ∀ c l, parse src = .error (.badCharacter c l) →
      s.ending = .error (.badCharacter c l) ∧ Viable (s.tokens.map Token.symbol) := by
  intro s
  have hread : Reading src.name [] src.input.toList s := reading_stream src.name [] _
  obtain ⟨htokens, hending⟩ := hread.ends
  have hb : Parser.Bounds.EndsText ⟨some maxDepth, s.ending⟩ := by
    intro x hx
    obtain ⟨eof, heof, hkind⟩ | ⟨c, l, he⟩ := hending
    · obtain rfl := Except.ok.inj (heof.symm.trans hx)
      exact hkind
    · cases he.symm.trans hx
  constructor
  · intro found expected h hdepth
    obtain ⟨past, rest, hts, hbegins, hrefuses⟩ := Parser.parseStream_stops hb htokens h
    cases hnext : Parser.Bounds.next ⟨some maxDepth, s.ending⟩ rest with
    | ok x =>
      rw [hnext] at hrefuses
      obtain ⟨_, ⟨rfl, rfl⟩, hbars⟩ := hrefuses
      obtain ⟨after, hall⟩ := exists_allTokens_eq hts hnext
      refine ⟨past, after, hall, viable_iff_begins.mpr hbegins, ?_⟩
      rw [List.map_append, List.map_singleton]
      exact not_viable_of_bars (hbars.resolve_left hdepth)
    | error e =>
      -- the lexer speaks of no token
      rw [hnext] at hrefuses
      obtain ⟨-, hend⟩ := next_eq_error hnext
      obtain ⟨eof, heof, -⟩ | ⟨c, l, he⟩ := hending
      · cases heof.symm.trans hend
      · obtain rfl := Except.error.inj (he.symm.trans hend)
        cases hrefuses
  · intro c l h
    obtain ⟨past, rest, hts, hbegins, hrefuses⟩ := Parser.parseStream_stops hb htokens h
    cases hnext : Parser.Bounds.next ⟨some maxDepth, s.ending⟩ rest with
    | ok x =>
      rw [hnext] at hrefuses
      obtain ⟨_, he, -⟩ := hrefuses
      cases he
    | error e =>
      rw [hnext] at hrefuses
      obtain rfl : SyntaxError.badCharacter c l = e := hrefuses
      obtain ⟨rfl, hend⟩ := next_eq_error hnext
      rw [List.append_nil] at hts
      exact ⟨hend, hts ▸ viable_iff_begins.mpr hbegins⟩

end ModuleBindings.Constraint
