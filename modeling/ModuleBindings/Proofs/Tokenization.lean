import ModuleBindings.Proofs.Lexemes
import Mathlib.Data.List.Induction

/-!
# What a lexer says of its text

The tokens of a text stand in it one behind the other, only blanks are left between them, and the
line and column of each are those that are counted in the text before it.
-/

namespace ModuleBindings

/-- The cursor behind a text: its length, its line feeds, and what follows the last of them. -/
lemma Cursor.advanceAll_start (cs : List Char) :
    Cursor.start.advanceAll cs =
      ⟨cs.length, 1 + cs.count '\n', 1 + (cs.reverse.takeWhile (· ≠ '\n')).length⟩ := by
  induction cs using List.reverseRecOn with
  | nil => rfl
  | append_singleton cs c ih =>
    rw [advanceAll_append, ih, advanceAll_cons, advanceAll_nil, advance]
    by_cases hc : c = '\n'
    · simp [hc]
      omega
    · simp [hc]
      omega

/-- A stretch of the source, with the line and column counted in the text before it. -/
structure Location.IsPlacedIn (src : Source) (l : Location) : Prop where
  source : l.source = src.name
  start_le : l.start ≤ l.stop
  stop_le : l.stop ≤ src.input.toList.length
  line : l.line = 1 + (src.input.toList.take l.start).count '\n'
  column : l.column = 1 + ((src.input.toList.take l.start).reverse.takeWhile (· ≠ '\n')).length

namespace Constraint

open Lexer (Stream)

namespace Lexer.Stream

/-- Where the stream ends: the place of the token at the end, or of the error. -/
def endLocation (s : Stream) : Location :=
  match s.ending with
  | .ok t => t.location
  | .error e => e.location

/-- The places of all tokens and of the end, in their order. -/
def locations (s : Stream) : List Location :=
  s.tokens.map Token.location ++ [s.endLocation]

end Lexer.Stream

/-- The stream is made of just what is in the source. -/
structure Tokenizes (src : Source) (s : Stream) : Prop where
  placed : ∀ l ∈ s.locations, l.IsPlacedIn src
  ordered : s.locations.Pairwise fun l m => l.stop ≤ m.start
  values : ∀ t ∈ s.tokens,
    t.value.toList = src.input.toList.extract t.location.start t.location.stop
  /-- What no token covers before the end is blank. -/
  gaps : ∀ (i : Nat) (c : Char), src.input.toList[i]? = some c → i < s.endLocation.start →
    (∀ t ∈ s.tokens, ¬(t.location.start ≤ i ∧ i < t.location.stop)) → Text.isBlank c = true
  /-- A punctuation character before the end is a token of its own. -/
  marks : ∀ (i : Nat) (c : Char) (kind : TokenKind), src.input.toList[i]? = some c →
    i < s.endLocation.start → TokenKind.ofPunctuation? c = some kind →
    ∃ t ∈ s.tokens, t.kind = kind ∧ t.location.start = i ∧ t.location.stop = i + 1
  /-- Any other token is a name: all of a run of name characters, with none before or behind. -/
  names : ∀ t ∈ s.tokens,
    (∃ c, t.value.toList = [c] ∧ TokenKind.ofPunctuation? c = some t.kind) ∨
      t.kind = .name ∧ t.value.toList ≠ [] ∧ (∀ c ∈ t.value.toList, isNameChar c = true) ∧
        (∀ c ∈ (src.input.toList.take t.location.start).getLast?, isNameChar c = false) ∧
        ∀ c ∈ (src.input.toList.drop t.location.stop).head?, isNameChar c = false
  namesApart : ∀ t ∈ s.tokens, ∀ u ∈ s.tokens, t.kind = .name → u.kind = .name →
    t.location.stop ≠ u.location.start
  /-- The token at the end is empty and stands behind all of the source. -/
  eof : ∀ t, s.ending = .ok t → t.kind = .eof ∧ t.value = "" ∧
    t.location.start = src.input.toList.length ∧ t.location.stop = src.input.toList.length
  fails_iff : (∃ e, s.ending = .error e) ↔ ∃ c ∈ src.input.toList, IsStray c
  /-- An error tells the first stray character. -/
  fault : ∀ e, s.ending = .error e → ∃ (i : Nat) (c : Char) (l : Location),
    e = .badCharacter c l ∧ l.start = i ∧ l.stop = i + 1 ∧ src.input.toList[i]? = some c ∧
      IsStray c ∧ ∀ d ∈ src.input.toList.take i, ¬IsStray d

section Reading

variable {src : Source} {past rest : List Char} {s : Stream}

lemma isPlacedIn_span {before word after : List Char}
    (h : src.input.toList = before ++ (word ++ after)) :
    ((Cursor.start.advanceAll before).span src.name word.length).IsPlacedIn src := by
  rw [Cursor.advanceAll_start]
  have htake : src.input.toList.take before.length = before := by rw [h, List.take_left]
  refine ⟨rfl, ?_, ?_, ?_, ?_⟩
  · exact Nat.le_add_right _ _
  · simp only [Cursor.span]
    rw [h, List.length_append, List.length_append]
    omega
  · simp only [Cursor.span, htake]
  · simp only [Cursor.span, htake]

lemma locations_cons (t : Token) (s : Stream) :
    Stream.locations ⟨t :: s.tokens, s.ending⟩ = t.location :: s.locations := rfl

lemma start_span_advanceAll (source : String) (cs : List Char) (n : Nat) :
    ((Cursor.start.advanceAll cs).span source n).start = cs.length := by
  rw [Cursor.advanceAll_start, Cursor.span]

lemma stop_span_advanceAll (source : String) (cs : List Char) (n : Nat) :
    ((Cursor.start.advanceAll cs).span source n).stop = cs.length + n := by
  rw [Cursor.advanceAll_start, Cursor.span]

/-- Every place is one in the source, and none is in what was read before. -/
lemma Reading.placed (h : Reading src.name past rest s)
    (hsrc : src.input.toList = past ++ rest) :
    ∀ l ∈ s.locations, l.IsPlacedIn src ∧ past.length ≤ l.start := by
  induction h with
  | @done past blanks hblanks =>
    intro l hl
    obtain rfl := List.mem_singleton.mp hl
    have hend : src.input.toList = (past ++ blanks) ++ ([] ++ []) := by simp [hsrc]
    refine ⟨isPlacedIn_span hend, ?_⟩
    simp [Stream.endLocation, start_span_advanceAll]
  | @stray past blanks rest c hblanks hc =>
    intro l hl
    obtain rfl := List.mem_singleton.mp hl
    have hend : src.input.toList = (past ++ blanks) ++ ([c] ++ rest) := by simp [hsrc]
    refine ⟨isPlacedIn_span hend, ?_⟩
    simp [Stream.endLocation, SyntaxError.location, start_span_advanceAll]
  | @lexeme past blanks word rest kind s hblanks hword hrest ih =>
    have hhere : src.input.toList = (past ++ blanks) ++ (word ++ rest) := by simp [hsrc]
    rw [locations_cons, List.forall_mem_cons]
    constructor
    · refine ⟨isPlacedIn_span hhere, ?_⟩
      simp [start_span_advanceAll]
    · intro l hl
      obtain ⟨hplaced, hle⟩ := ih (by simp [hsrc]) l hl
      refine ⟨hplaced, ?_⟩
      simp only [List.length_append] at hle
      omega

lemma Reading.ordered (h : Reading src.name past rest s)
    (hsrc : src.input.toList = past ++ rest) :
    s.locations.Pairwise fun l m => l.stop ≤ m.start := by
  induction h with
  | done hblanks => exact List.pairwise_singleton _ _
  | stray hblanks hc => exact List.pairwise_singleton _ _
  | @lexeme past blanks word rest kind s hblanks hword hrest ih =>
    have hsrc' : src.input.toList = (past ++ blanks ++ word) ++ rest := by simp [hsrc]
    rw [locations_cons, List.pairwise_cons]
    refine ⟨?_, ih hsrc'⟩
    intro l hl
    have hle := (hrest.placed hsrc' l hl).2
    rwa [stop_span_advanceAll, ← List.length_append]

/-- A token is the lexeme at its place. -/
lemma Reading.tokens (h : Reading src.name past rest s)
    (hsrc : src.input.toList = past ++ rest) :
    ∀ t ∈ s.tokens, t.value.toList =
        src.input.toList.extract t.location.start t.location.stop ∧
      t.location.stop = t.location.start + t.value.toList.length ∧
      IsLexeme (src.input.toList.drop t.location.stop) t.kind t.value.toList := by
  induction h with
  | done hblanks => simp
  | stray hblanks hc => simp
  | @lexeme past blanks word rest kind s hblanks hword hrest ih =>
    have hhere : src.input.toList = (past ++ blanks) ++ (word ++ rest) := by simp [hsrc]
    rw [List.forall_mem_cons]
    refine ⟨?_, ih (by simp [hsrc])⟩
    simp only [start_span_advanceAll, stop_span_advanceAll, String.toList_ofList, true_and]
    constructor
    · rw [hhere]
      simp
    · rw [hhere, ← List.append_assoc, ← List.length_append, List.drop_left]
      exact hword

lemma isBlank_of_getElem? {blanks tail : List Char} {i : Nat} {c : Char} (hblanks : AreBlank blanks)
    (hc : (past ++ (blanks ++ tail))[i]? = some c) (hpast : past.length ≤ i)
    (hend : i < (past ++ blanks).length) : Text.isBlank c = true := by
  rw [← List.append_assoc, List.getElem?_append_left hend, List.getElem?_append_right hpast] at hc
  exact hblanks c (List.mem_of_getElem? hc)

/-- What was not read before is in a token or blank, up to the end. -/
lemma Reading.gaps (h : Reading src.name past rest s)
    (hsrc : src.input.toList = past ++ rest) {i : Nat} {c : Char}
    (hc : src.input.toList[i]? = some c) (hpast : past.length ≤ i)
    (hend : i < s.endLocation.start) :
    Text.isBlank c = true ∨ ∃ t ∈ s.tokens, t.location.start ≤ i ∧ i < t.location.stop := by
  induction h with
  | @done past blanks hblanks =>
    rw [Stream.endLocation, start_span_advanceAll] at hend
    rw [hsrc, ← List.append_nil blanks] at hc
    exact .inl (isBlank_of_getElem? hblanks hc hpast hend)
  | @stray past blanks rest d hblanks hd =>
    simp only [Stream.endLocation, SyntaxError.location, start_span_advanceAll] at hend
    rw [hsrc] at hc
    exact .inl (isBlank_of_getElem? hblanks hc hpast hend)
  | @lexeme past blanks word rest kind s hblanks hword hrest ih =>
    by_cases hblank : i < (past ++ blanks).length
    · rw [hsrc] at hc
      exact .inl (isBlank_of_getElem? hblanks hc hpast hblank)
    · by_cases hin : i < (past ++ blanks).length + word.length
      · refine .inr ⟨_, List.mem_cons_self, ?_⟩
        rw [start_span_advanceAll, stop_span_advanceAll]
        exact ⟨Nat.le_of_not_lt hblank, hin⟩
      · have hbehind : (past ++ blanks ++ word).length ≤ i := by
          rw [List.length_append]
          omega
        refine (ih (by simp [hsrc]) hbehind hend).imp_right ?_
        rintro ⟨t, ht, hcover⟩
        exact ⟨t, List.mem_cons_of_mem _ ht, hcover⟩

/-- No name goes on over the point between two texts. -/
def Boundary (past rest : List Char) : Prop :=
  ∀ c ∈ past.getLast?, ∀ d ∈ rest.head?, isNameChar d = true → isNameChar c = false

lemma IsLexeme.boundary {kind : TokenKind} {word : List Char} (h : IsLexeme rest kind word) :
    Boundary (past ++ word) rest := by
  intro c hc d hd hname
  cases h with
  | mark m hm =>
    obtain rfl : m = c := by simpa using hc
    exact isNameChar_of_ofPunctuation? hm
  | name m cs hword hrest =>
    rw [hrest d hd] at hname
    cases hname

/-- A name begins where none could go on. -/
lemma Reading.before_name (h : Reading src.name past rest s)
    (hsrc : src.input.toList = past ++ rest) (hbound : Boundary past rest) :
    ∀ t ∈ s.tokens, t.kind = .name →
      ∀ c ∈ (src.input.toList.take t.location.start).getLast?, isNameChar c = false := by
  induction h with
  | done hblanks => simp
  | stray hblanks hc => simp
  | @lexeme past blanks word rest kind s hblanks hword hrest ih =>
    have hhere : src.input.toList = (past ++ blanks) ++ (word ++ rest) := by simp [hsrc]
    rw [List.forall_mem_cons]
    refine ⟨?_, ih (by simp [hsrc]) hword.boundary⟩
    intro hkind c hc
    rw [start_span_advanceAll, hhere, List.take_left] at hc
    cases hword with
    | mark m hm => exact absurd hkind (kind_ne_of_ofPunctuation? hm).1
    | name d cs hname hstop =>
      by_cases hnil : blanks = []
      · subst hnil
        rw [List.append_nil] at hc
        exact hbound c hc d rfl (hname d List.mem_cons_self)
      · rw [List.getLast?_append, List.getLast?_eq_some_getLast hnil, Option.some_or,
          ← List.getLast?_eq_some_getLast hnil] at hc
        exact isNameChar_of_isBlank (hblanks c (List.mem_of_getLast? hc))

/-- A punctuation character is all of its lexeme. -/
lemma IsLexeme.eq_of_mem {kind kind' : TokenKind} {word : List Char} {c : Char}
    (h : IsLexeme rest kind' word) (hmem : c ∈ word)
    (hc : TokenKind.ofPunctuation? c = some kind) : word = [c] ∧ kind' = kind := by
  cases h with
  | mark d hd =>
    obtain rfl := List.mem_singleton.mp hmem
    exact ⟨rfl, Option.some.inj (hd.symm.trans hc)⟩
  | name d cs hword hrest =>
    have hname := hword c hmem
    rw [isNameChar_of_ofPunctuation? hc] at hname
    cases hname

/-- A name is made of name characters and goes on as far as they do. -/
lemma IsLexeme.of_name {kind : TokenKind} {word : List Char} (h : IsLexeme rest kind word)
    (hkind : kind = .name) : word ≠ [] ∧ (∀ c ∈ word, isNameChar c = true) ∧
      ∀ c ∈ rest.head?, isNameChar c = false := by
  cases h with
  | mark d hd => exact absurd hkind (kind_ne_of_ofPunctuation? hd).1
  | name d cs hword hrest => exact ⟨List.cons_ne_nil _ _, hword, hrest⟩

lemma IsLexeme.of_ne_name {kind : TokenKind} {word : List Char} (h : IsLexeme rest kind word)
    (hkind : kind ≠ .name) : ∃ c, word = [c] ∧ TokenKind.ofPunctuation? c = some kind := by
  cases h with
  | mark d hd => exact ⟨d, rfl, hd⟩
  | name => exact absurd rfl hkind

lemma AreBlank.not_isStray {blanks : List Char} (h : AreBlank blanks) :
    ∀ c ∈ blanks, ¬IsStray c := by
  intro c hc hstray
  have hblank := h c hc
  simp [hstray.blank] at hblank

lemma IsLexeme.not_isStray {kind : TokenKind} {word rest : List Char}
    (h : IsLexeme rest kind word) : ∀ c ∈ word, ¬IsStray c := by
  intro c hc hstray
  cases h with
  | mark d hd =>
    obtain rfl := List.mem_singleton.mp hc
    simp [hstray.punctuation] at hd
  | name d cs hword hrest =>
    have hname := hword c hc
    simp [hstray.name] at hname

lemma Reading.eof (h : Reading src.name past rest s) (hsrc : src.input.toList = past ++ rest)
    {t : Token} (ht : s.ending = .ok t) :
    (t.kind = .eof ∧ t.value = "" ∧ t.location.start = src.input.toList.length ∧
      t.location.stop = src.input.toList.length) ∧ ∀ c ∈ rest, ¬IsStray c := by
  induction h with
  | @done past blanks hblanks =>
    cases ht
    refine ⟨⟨rfl, rfl, ?_, ?_⟩, hblanks.not_isStray⟩
    · rw [start_span_advanceAll, hsrc]
    · rw [stop_span_advanceAll, hsrc, Nat.add_zero]
  | stray => cases ht
  | @lexeme past blanks word rest kind s hblanks hword hrest ih =>
    obtain ⟨heof, hclean⟩ := ih (by simp [hsrc]) ht
    refine ⟨heof, ?_⟩
    rw [List.forall_mem_append, List.forall_mem_append]
    exact ⟨hblanks.not_isStray, hword.not_isStray, hclean⟩

/-- An error is that of the first stray character. -/
lemma Reading.fault (h : Reading src.name past rest s) {e : SyntaxError}
    (he : s.ending = .error e) :
    ∃ before c after, rest = before ++ c :: after ∧ IsStray c ∧ (∀ d ∈ before, ¬IsStray d) ∧
      e = .badCharacter c ((Cursor.start.advanceAll (past ++ before)).span src.name 1) := by
  induction h with
  | done => cases he
  | @stray past blanks rest c hblanks hc =>
    cases he
    exact ⟨blanks, c, rest, rfl, hc, hblanks.not_isStray, rfl⟩
  | @lexeme past blanks word rest kind s hblanks hword hrest ih =>
    obtain ⟨before, c, after, rfl, hc, hbefore, rfl⟩ := ih he
    refine ⟨blanks ++ word ++ before, c, after, ?_, hc, ?_, ?_⟩
    · simp
    · rw [List.forall_mem_append, List.forall_mem_append]
      exact ⟨⟨hblanks.not_isStray, hword.not_isStray⟩, hbefore⟩
    · simp

lemma mem_extract {cs : List Char} {i start stop : Nat} {c : Char} (hc : cs[i]? = some c)
    (hstart : start ≤ i) (hstop : i < stop) : c ∈ cs.extract start stop := by
  have hget : (cs.extract start stop)[i - start]? = some c := by
    rw [List.extract_eq_take_drop, List.getElem?_take_of_lt (by omega), List.getElem?_drop, ← hc]
    congr 1
    omega
  exact List.mem_of_getElem? hget

end Reading

section Streams

variable {src : Source} {s : Stream}

lemma Reading.marks (h : Reading src.name [] src.input.toList s) {i : Nat} {c : Char}
    {kind : TokenKind} (hc : src.input.toList[i]? = some c) (hend : i < s.endLocation.start)
    (hkind : TokenKind.ofPunctuation? c = some kind) :
    ∃ t ∈ s.tokens, t.kind = kind ∧ t.location.start = i ∧ t.location.stop = i + 1 := by
  rcases h.gaps rfl hc (Nat.zero_le i) hend with hblank | ⟨t, ht, hstart, hstop⟩
  · rw [isBlank_of_ofPunctuation? hkind] at hblank
    cases hblank
  · obtain ⟨hvalue, hlength, hlexeme⟩ := h.tokens rfl t ht
    have hmem := mem_extract hc hstart hstop
    rw [← hvalue] at hmem
    obtain ⟨hword, hk⟩ := hlexeme.eq_of_mem hmem hkind
    rw [hword, List.length_singleton] at hlength
    exact ⟨t, ht, hk, by omega, by omega⟩

/-- A name behind another one would have been read as part of it. -/
lemma Reading.namesApart (h : Reading src.name [] src.input.toList s) {t u : Token}
    (ht : t ∈ s.tokens) (hu : u ∈ s.tokens) (htn : t.kind = .name) (hun : u.kind = .name) :
    t.location.stop ≠ u.location.start := by
  intro heq
  obtain ⟨-, -, htl⟩ := h.tokens rfl t ht
  obtain ⟨hvalue, -, hul⟩ := h.tokens rfl u hu
  obtain ⟨-, -, hstop⟩ := htl.of_name htn
  obtain ⟨hne, hname, -⟩ := hul.of_name hun
  rw [heq] at hstop
  obtain ⟨c, cs, hcs⟩ := List.exists_cons_of_ne_nil hne
  have hhead : (src.input.toList.drop u.location.start).head? = some c := by
    have htake := congrArg List.head? (hcs.symm.trans hvalue)
    rw [List.extract_eq_take_drop, List.head?_take] at htake
    split at htake
    · cases htake
    · exact htake.symm
  have hc := hname c (by simp [hcs])
  rw [hstop c hhead] at hc
  cases hc

/-- What is read of a source token after token, up to the end or an error, is made of just what is
in it. -/
theorem stream_tokenizes (src : Source) :
    let s := (Lexer.ofSource src).stream
    (Lexer.ofSource src).run (List.replicate (s.tokens.length + 1) .next) =
        s.tokens.map Except.ok ++ [s.ending] ∧
      Tokenizes src s := by
  intro s
  have h : Reading src.name [] src.input.toList (Lexer.ofSource src).stream :=
    reading_stream src.name [] src.input.toList
  refine ⟨(Lexer.ofSource src).run_next_eq_stream, ?_⟩
  exact {
    placed := fun l hl => (h.placed rfl l hl).1
    ordered := h.ordered rfl
    values := fun t ht => (h.tokens rfl t ht).1
    gaps := by
      intro i c hc hend hout
      refine (h.gaps rfl hc (Nat.zero_le i) hend).resolve_right ?_
      rintro ⟨t, ht, hcover⟩
      exact hout t ht hcover
    marks := fun i c kind hc hend hkind => h.marks hc hend hkind
    names := by
      intro t ht
      obtain ⟨-, -, hlexeme⟩ := h.tokens rfl t ht
      by_cases hkind : t.kind = .name
      · obtain ⟨hne, hname, hstop⟩ := hlexeme.of_name hkind
        have hbound : Boundary [] src.input.toList := fun _ hc => by simp at hc
        exact .inr ⟨hkind, hne, hname, h.before_name rfl hbound t ht hkind, hstop⟩
      · exact .inl (hlexeme.of_ne_name hkind)
    namesApart := fun t ht u hu => h.namesApart ht hu
    eof := fun t ht => (h.eof rfl ht).1
    fails_iff := by
      constructor
      · rintro ⟨e, he⟩
        obtain ⟨before, c, after, hsplit, hc, -⟩ := h.fault he
        exact ⟨c, by simp [hsplit], hc⟩
      · rintro ⟨c, hmem, hc⟩
        cases hend : (Lexer.ofSource src).stream.ending with
        | error e => exact ⟨e, rfl⟩
        | ok t => exact absurd hc ((h.eof rfl hend).2 c hmem)
    fault := by
      intro e he
      obtain ⟨before, c, after, hsplit, hc, hbefore, rfl⟩ := h.fault he
      refine ⟨before.length, c, _, rfl, ?_, ?_, ?_, hc, ?_⟩
      · rw [List.nil_append, start_span_advanceAll]
      · rw [List.nil_append, stop_span_advanceAll]
      · simp [hsplit]
      · rw [hsplit, List.take_left]
        exact hbefore }

end Streams

end Constraint

end ModuleBindings
