import ModuleBindings.Constraint.Lexer
import Mathlib.Data.List.TakeWhile

/-!
# Lexemes

Every text is a lexeme behind some blanks and then a text again, until only blanks are left or a
stray character comes. `stream_lexeme` and the lemmas beside it read these three beginnings.
-/

namespace ModuleBindings

namespace Text

lemma CodeRanges.exists_of_covers {ranges : CodeRanges} {n : Nat} (h : ranges.covers n = true) :
    ∃ r ∈ ranges, r.1 ≤ n ∧ n ≤ r.2 := by
  induction ranges with
  | nil => cases h
  | cons r ranges ih =>
    rw [covers] at h
    by_cases hfirst : n < r.1
    · simp [hfirst] at h
    · rw [if_neg hfirst, Bool.or_eq_true, decide_eq_true_eq] at h
      rcases h with hlast | hrest
      · exact ⟨r, List.mem_cons_self, by omega, hlast⟩
      · obtain ⟨s, hs, hbounds⟩ := ih hrest
        exact ⟨s, List.mem_cons_of_mem _ hs, hbounds⟩

/-- The code points of all blanks, in ranges. -/
def allBlankRanges : CodeRanges :=
  (0x09, 0x0D) :: (0x20, 0x20) :: blankRanges

lemma exists_of_isBlank {c : Char} (h : isBlank c = true) :
    ∃ r ∈ allBlankRanges, r.1 ≤ c.toNat ∧ c.toNat ≤ r.2 := by
  unfold isBlank at h
  by_cases hascii : c.toNat < 0x80
  · simp only [if_pos hascii, Bool.or_eq_true, Bool.and_eq_true, decide_eq_true_eq] at h
    rcases h with rfl | h
    · exact ⟨(0x20, 0x20), by simp [allBlankRanges], by decide, by decide⟩
    · exact ⟨(0x09, 0x0D), by simp [allBlankRanges], h⟩
  · rw [if_neg hascii] at h
    obtain ⟨r, hr, hbounds⟩ := CodeRanges.exists_of_covers h
    exact ⟨r, by simp [allBlankRanges, hr], hbounds⟩

/-- A class of characters has no blank if it has none of those in the ranges. -/
lemma eq_false_of_isBlank {p : Char → Bool} {c : Char}
    (hall : ∀ r ∈ allBlankRanges, ∀ n ∈ List.range' r.1 (r.2 + 1 - r.1), p (Char.ofNat n) = false)
    (h : isBlank c = true) : p c = false := by
  obtain ⟨r, hr, hfirst, hlast⟩ := exists_of_isBlank h
  have hn : c.toNat ∈ List.range' r.1 (r.2 + 1 - r.1) := by
    rw [List.mem_range'_1]
    omega
  have hc := hall r hr _ hn
  rwa [Char.ofNat_toNat] at hc

end Text

namespace Constraint

/-- No blank can stand in a name. -/
lemma isNameChar_of_isBlank {c : Char} (h : Text.isBlank c = true) : isNameChar c = false :=
  Text.eq_false_of_isBlank (by decide +kernel) h

lemma isBlank_of_ofPunctuation? {c : Char} {kind : TokenKind}
    (h : TokenKind.ofPunctuation? c = some kind) : Text.isBlank c = false := by
  unfold TokenKind.ofPunctuation? at h
  repeat' split at h
  all_goals first
    | (subst_vars; decide)
    | contradiction

/-- A character that begins no token and does not separate tokens either. -/
structure IsStray (c : Char) : Prop where
  name : isNameChar c = false
  blank : Text.isBlank c = false
  punctuation : TokenKind.ofPunctuation? c = none

/-- The characters make up one token of that kind when `rest` follows them. -/
inductive IsLexeme (rest : List Char) : TokenKind → List Char → Prop
  | mark {kind : TokenKind} (c : Char) (hc : TokenKind.ofPunctuation? c = some kind) :
    IsLexeme rest kind [c]
  | name (c : Char) (cs : List Char) (hword : ∀ d ∈ c :: cs, isNameChar d = true)
      (hrest : ∀ d ∈ rest.head?, isNameChar d = false) :
    IsLexeme rest .name (c :: cs)

def AreBlank (cs : List Char) : Prop :=
  ∀ c ∈ cs, Text.isBlank c = true

section Names

variable {c : Char} {kind : TokenKind} {word rest : List Char}

lemma ofPunctuation?_of_isNameChar (h : isNameChar c = true) :
    TokenKind.ofPunctuation? c = none := by
  cases hc : TokenKind.ofPunctuation? c with
  | none => rfl
  | some kind => simp [isNameChar_of_ofPunctuation? hc] at h

lemma isBlank_of_isNameChar (h : isNameChar c = true) : Text.isBlank c = false := by
  cases hc : Text.isBlank c with
  | false => rfl
  | true => simp [isNameChar_of_isBlank hc] at h

lemma kind_ne_of_ofPunctuation? (h : TokenKind.ofPunctuation? c = some kind) :
    kind ≠ .name ∧ kind ≠ .eof := by
  unfold TokenKind.ofPunctuation? at h
  repeat' split at h
  all_goals first
    | contradiction
    | (cases h; decide)

lemma IsLexeme.kind_ne_eof (h : IsLexeme rest kind word) : kind ≠ .eof := by
  cases h with
  | mark c hc => exact (kind_ne_of_ofPunctuation? hc).2
  | name c cs hword hrest => decide

lemma IsLexeme.ne_nil (h : IsLexeme rest kind word) : word ≠ [] := by
  cases h <;> exact List.cons_ne_nil _ _

end Names

namespace Lexer

variable {source : String} {k : Cursor} {blanks rest word : List Char} {kind : TokenKind} {c : Char}

lemma skipBlanks_all (h : AreBlank blanks) : skipBlanks k blanks = (k.advanceAll blanks, []) := by
  induction blanks generalizing k with
  | nil => rfl
  | cons b blanks ih =>
    have hb := List.forall_mem_cons.mp h
    rw [skipBlanks, if_pos hb.1, ih hb.2, Cursor.advanceAll_cons]

lemma skipBlanks_append_cons (h : AreBlank blanks) (hc : Text.isBlank c = false) :
    skipBlanks k (blanks ++ c :: rest) = (k.advanceAll blanks, c :: rest) := by
  induction blanks generalizing k with
  | nil => simp [skipBlanks, hc]
  | cons b blanks ih =>
    have hb := List.forall_mem_cons.mp h
    rw [List.cons_append, skipBlanks, if_pos hb.1, ih hb.2, Cursor.advanceAll_cons]

lemma read_blanks (h : AreBlank blanks) :
    read ⟨source, k, blanks⟩ =
      (.ok ⟨.eof, "", (k.advanceAll blanks).span source 0⟩, ⟨source, k.advanceAll blanks, []⟩) := by
  simp only [read, skipBlanks_all h]

lemma read_stray (h : AreBlank blanks) (hc : IsStray c) :
    read ⟨source, k, blanks ++ c :: rest⟩ =
      (.error (.badCharacter c ((k.advanceAll blanks).span source 1)),
        ⟨source, k.advanceAll blanks, c :: rest⟩) := by
  simp [read, skipBlanks_append_cons h hc.blank, readFrom, hc.punctuation, hc.name]

lemma takeWhile_name (hword : ∀ d ∈ word, isNameChar d = true)
    (hrest : ∀ d ∈ rest.head?, isNameChar d = false) :
    (word ++ rest).takeWhile isNameChar = word ∧ (word ++ rest).dropWhile isNameChar = rest := by
  have hstop : rest.takeWhile isNameChar = [] ∧ rest.dropWhile isNameChar = rest := by
    cases rest with
    | nil => exact ⟨rfl, rfl⟩
    | cons d rest => simp [hrest d rfl]
  rw [List.takeWhile_append_of_pos hword, List.dropWhile_append_of_pos hword, hstop.1, hstop.2]
  exact ⟨List.append_nil _, rfl⟩

lemma read_lexeme (h : AreBlank blanks) (hword : IsLexeme rest kind word) :
    read ⟨source, k, blanks ++ (word ++ rest)⟩ =
      (.ok ⟨kind, String.ofList word, (k.advanceAll blanks).span source word.length⟩,
        ⟨source, k.advanceAll (blanks ++ word), rest⟩) := by
  rw [Cursor.advanceAll_append]
  cases hword with
  | mark c hc =>
    simp [read, skipBlanks_append_cons h (isBlank_of_ofPunctuation? hc), readFrom, hc]
  | name c cs hword hrest =>
    obtain ⟨hc, hcs⟩ := List.forall_mem_cons.mp hword
    obtain ⟨htake, hdrop⟩ := takeWhile_name hcs hrest
    rw [List.cons_append, read, skipBlanks_append_cons h (isBlank_of_isNameChar hc)]
    simp only [readFrom, ofPunctuation?_of_isNameChar hc, hc, if_true, htake, hdrop]

lemma stream_blanks (h : AreBlank blanks) :
    stream ⟨source, k, blanks⟩ =
      ⟨[], .ok ⟨.eof, "", (k.advanceAll blanks).span source 0⟩⟩ := by
  rw [stream]
  split
  · next hread => simp [read_blanks h] at hread
  · next hread =>
    rw [read_blanks h, Prod.mk.injEq, Except.ok.injEq] at hread
    obtain ⟨rfl, -⟩ := hread
    rfl

lemma stream_stray (h : AreBlank blanks) (hc : IsStray c) :
    stream ⟨source, k, blanks ++ c :: rest⟩ =
      ⟨[], .error (.badCharacter c ((k.advanceAll blanks).span source 1))⟩ := by
  rw [stream]
  split
  · next hread =>
    rw [read_stray h hc, Prod.mk.injEq, Except.error.injEq] at hread
    obtain ⟨rfl, -⟩ := hread
    rfl
  · next hread => simp [read_stray h hc] at hread

lemma stream_lexeme (h : AreBlank blanks) (hword : IsLexeme rest kind word) :
    stream ⟨source, k, blanks ++ (word ++ rest)⟩ =
      ⟨⟨kind, String.ofList word, (k.advanceAll blanks).span source word.length⟩ ::
          (stream ⟨source, k.advanceAll (blanks ++ word), rest⟩).tokens,
        (stream ⟨source, k.advanceAll (blanks ++ word), rest⟩).ending⟩ := by
  rw [stream]
  split
  · next hread => simp [read_lexeme h hword] at hread
  · next hread =>
    rw [read_lexeme h hword, Prod.mk.injEq, Except.ok.injEq] at hread
    obtain ⟨rfl, rfl⟩ := hread
    rw [dif_neg hword.kind_ne_eof]

/-- The stream is what is read token after token, up to the end or an error. -/
lemma run_next_eq_stream (l : Lexer) :
    l.run (List.replicate (l.stream.tokens.length + 1) .next) =
      l.stream.tokens.map Except.ok ++ [l.stream.ending] := by
  fun_induction stream l with
  | case1 l e l' hread => simp [run, step, hread]
  | case2 l t l' hread ht => simp [run, step, hread]
  | case3 l t l' hread ht s ih =>
    rw [List.length_cons, List.replicate_succ, run, step, hread, ih]
    rfl

end Lexer

/-- A text as it is read: `past` has been read before it. -/
inductive Reading (source : String) : List Char → List Char → Lexer.Stream → Prop
  | done {past blanks : List Char} (hblanks : AreBlank blanks) :
    Reading source past blanks
      ⟨[], .ok ⟨.eof, "", (Cursor.start.advanceAll (past ++ blanks)).span source 0⟩⟩
  | stray {past blanks rest : List Char} {c : Char} (hblanks : AreBlank blanks) (hc : IsStray c) :
    Reading source past (blanks ++ c :: rest)
      ⟨[], .error (.badCharacter c ((Cursor.start.advanceAll (past ++ blanks)).span source 1))⟩
  | lexeme {past blanks word rest : List Char} {kind : TokenKind} {s : Lexer.Stream}
      (hblanks : AreBlank blanks) (hword : IsLexeme rest kind word)
      (hrest : Reading source (past ++ blanks ++ word) rest s) :
    Reading source past (blanks ++ (word ++ rest))
      ⟨⟨kind, String.ofList word,
          (Cursor.start.advanceAll (past ++ blanks)).span source word.length⟩ :: s.tokens, s.ending⟩

lemma exists_lexeme_or_isStray {c : Char} (cs : List Char) (hc : Text.isBlank c = false) :
    (∃ kind word rest, c :: cs = word ++ rest ∧ IsLexeme rest kind word) ∨ IsStray c := by
  cases hp : TokenKind.ofPunctuation? c with
  | some kind => exact .inl ⟨kind, [c], cs, rfl, .mark c hp⟩
  | none =>
    cases hn : isNameChar c with
    | false => exact .inr ⟨hn, hc, hp⟩
    | true =>
      refine .inl ⟨.name, c :: cs.takeWhile isNameChar, cs.dropWhile isNameChar, ?_, ?_⟩
      · rw [List.cons_append, List.takeWhile_append_dropWhile]
      · refine .name c _ ?_ ?_
        · rw [List.forall_mem_cons]
          exact ⟨hn, fun d hd => List.mem_takeWhile_imp hd⟩
        · intro d hd
          have hhead := List.head?_dropWhile_not isNameChar cs
          rw [Option.mem_def.mp hd] at hhead
          simpa using hhead

/-- How a text begins, behind its blanks. -/
lemma text_cases (cs : List Char) :
    AreBlank cs ∨
      (∃ blanks c rest, cs = blanks ++ c :: rest ∧ AreBlank blanks ∧ IsStray c) ∨
      ∃ blanks kind word rest, cs = blanks ++ (word ++ rest) ∧ AreBlank blanks ∧
        IsLexeme rest kind word := by
  have hsplit : cs = cs.takeWhile Text.isBlank ++ cs.dropWhile Text.isBlank :=
    List.takeWhile_append_dropWhile.symm
  have hblanks : AreBlank (cs.takeWhile Text.isBlank) := fun c hc => List.mem_takeWhile_imp hc
  cases htail : cs.dropWhile Text.isBlank with
  | nil =>
    rw [htail, List.append_nil] at hsplit
    rw [← hsplit] at hblanks
    exact .inl hblanks
  | cons c tail =>
    have hhead := List.head?_dropWhile_not Text.isBlank cs
    rw [htail] at hsplit hhead
    have hc : Text.isBlank c = false := by simpa using hhead
    rcases exists_lexeme_or_isStray tail hc with ⟨kind, word, rest, htext, hword⟩ | hstray
    · rw [htext] at hsplit
      exact .inr (.inr ⟨_, kind, word, rest, hsplit, hblanks, hword⟩)
    · exact .inr (.inl ⟨_, c, tail, hsplit, hblanks, hstray⟩)

/-- The stream of a lexer that stands behind `past` reads what is left. -/
theorem reading_stream (source : String) (past cs : List Char) :
    Reading source past cs (Lexer.stream ⟨source, Cursor.start.advanceAll past, cs⟩) := by
  rcases text_cases cs with hblanks | ⟨blanks, c, rest, rfl, hblanks, hc⟩ |
    ⟨blanks, kind, word, rest, rfl, hblanks, hword⟩
  · rw [Lexer.stream_blanks hblanks, ← Cursor.advanceAll_append]
    exact .done hblanks
  · rw [Lexer.stream_stray hblanks hc, ← Cursor.advanceAll_append]
    exact .stray hblanks hc
  · have hlt : rest.length < (blanks ++ (word ++ rest)).length := by
      have hpos := List.length_pos_iff.mpr hword.ne_nil
      rw [List.length_append, List.length_append]
      omega
    rw [Lexer.stream_lexeme hblanks hword]
    simp only [← Cursor.advanceAll_append, ← List.append_assoc]
    rw [List.append_assoc]
    exact .lexeme hblanks hword (reading_stream source (past ++ blanks ++ word) rest)
termination_by cs.length

end Constraint

end ModuleBindings
