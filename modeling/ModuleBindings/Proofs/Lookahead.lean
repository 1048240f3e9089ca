import ModuleBindings.Constraint.Scanner
import ModuleBindings.Proofs.Except
import ModuleBindings.Proofs.Lexemes

/-!
# Reading with a token of lookahead

What a text will be read as does not depend on how it is asked for. A scanner answers like a cursor
on the stream of its text, which is written down before the first step and goes on forever.
-/

namespace ModuleBindings.Constraint

open Lexer (Step Stream)

/-- The token itself, or why it cannot stand where that kind is required. -/
def Token.required (t : Token) (kind : TokenKind) : Except SyntaxError Token :=
  if t.kind = kind then .ok t else .error (.unexpected t (.token kind))

namespace Lexer.Stream

/-- What is read at a place. Behind the last token every place holds what the stream ends with. -/
def item (s : Stream) (i : Nat) : Except SyntaxError Token :=
  match s.tokens[i]? with
  | some t => .ok t
  | none => s.ending

/-- The answer to a client whose cursor stands at `i`, and where the cursor stands then. -/
def step (s : Stream) (i : Nat) : Step → Except SyntaxError Token × Nat
  | .peek => (s.item i, i)
  | .next => (s.item i, i + 1)
  | .skip kind => (s.item i >>= (·.required kind), i + 1)

def run (s : Stream) (i : Nat) : List Step → List (Except SyntaxError Token)
  | [] => []
  | st :: steps => (s.step i st).1 :: s.run (s.step i st).2 steps

/-- What is left of a stream at a place. -/
def drop (s : Stream) (i : Nat) : Stream :=
  ⟨s.tokens.drop i, s.ending⟩

variable {s : Stream} {i : Nat}

lemma drop_zero (s : Stream) : s.drop 0 = s := rfl

lemma drop_drop (s : Stream) (i j : Nat) : (s.drop i).drop j = s.drop (i + j) := by
  unfold drop
  rw [List.drop_drop]

lemma item_drop (s : Stream) (i j : Nat) : (s.drop i).item j = s.item (i + j) := by
  unfold item drop
  rw [List.getElem?_drop]

lemma item_of_length_le (h : s.tokens.length ≤ i) : s.item i = s.ending := by
  unfold item
  rw [List.getElem?_eq_none h]

/-- An error can only stand behind all tokens, so it stands at all later places too. -/
lemma item_of_item_eq_error {e : SyntaxError} (h : s.item i = .error e) {j : Nat} (hij : i ≤ j) :
    s.item j = .error e := by
  have hlen : s.tokens.length ≤ i := by
    by_contra hlt
    have hget : s.tokens[i]? = some s.tokens[i] := List.getElem?_eq_getElem (by omega)
    unfold item at h
    rw [hget] at h
    cases h
  rw [item_of_length_le hlen] at h
  rw [item_of_length_le (Nat.le_trans hlen hij), h]

end Lexer.Stream

namespace Lexer

/-- A lexer answers what its stream begins with and goes on with the rest. At the end of the text
and at a bad character it reads the same once more. -/
lemma read_stream (l : Lexer) : l.read.1 = l.stream.item 0 ∧ l.read.2.stream = l.stream.drop 1 := by
  obtain ⟨source, k, cs⟩ := l
  have hnil : AreBlank [] := by simp [AreBlank]
  rcases text_cases cs with hblanks | ⟨blanks, c, rest, rfl, hblanks, hc⟩ |
    ⟨blanks, kind, word, rest, rfl, hblanks, hword⟩
  · rw [read_blanks hblanks, stream_blanks hblanks]
    refine ⟨rfl, ?_⟩
    rw [stream_blanks hnil, Cursor.advanceAll_nil]
    rfl
  · rw [read_stray hblanks hc, stream_stray hblanks hc]
    refine ⟨rfl, ?_⟩
    have hagain : stream ⟨source, k.advanceAll blanks, [] ++ c :: rest⟩ = _ := stream_stray hnil hc
    rw [List.nil_append, Cursor.advanceAll_nil] at hagain
    exact hagain
  · rw [read_lexeme hblanks hword, stream_lexeme hblanks hword]
    exact ⟨rfl, rfl⟩

lemma skip_eq (l : Lexer) (kind : TokenKind) :
    l.skip kind = (l.read.1 >>= (·.required kind), l.read.2) := by
  unfold skip
  rcases l.read with ⟨e | t, l'⟩
  · rfl
  · by_cases ht : t.kind = kind <;> simp [ht, Token.required, bind, Except.bind]

variable {s : Stream} {i : Nat} {l : Lexer}

lemma step_eq (h : l.stream = s.drop i) (st : Step) :
    (l.step st).1 = (s.step i st).1 ∧ (l.step st).2.stream = s.drop (s.step i st).2 := by
  obtain ⟨hanswer, hrest⟩ := l.read_stream
  rw [h, Stream.item_drop, Nat.add_zero] at hanswer
  rw [h, Stream.drop_drop] at hrest
  cases st with
  | peek => exact ⟨hanswer, h⟩
  | next => exact ⟨hanswer, hrest⟩
  | skip kind =>
    have hskip : l.step (.skip kind) = (l.read.1 >>= (·.required kind), l.read.2) := l.skip_eq kind
    rw [hskip, hanswer]
    exact ⟨rfl, hrest⟩

lemma run_eq (h : l.stream = s.drop i) (steps : List Step) : l.run steps = s.run i steps := by
  induction steps generalizing l i with
  | nil => rfl
  | cons st steps ih =>
    obtain ⟨hanswer, hrest⟩ := step_eq h st
    rw [run, Stream.run, hanswer, ih hrest]

end Lexer

namespace Scanner

/-- The scanner is at that place of the stream: its lexer stands there, or one token further on
with that token kept, or the text cannot be read any more. -/
inductive Follows (s : Stream) : Nat → Scanner → Prop
  | reading {i : Nat} {l : Lexer} (hrest : l.stream = s.drop i) : Follows s i ⟨l, none, none⟩
  | looking {i : Nat} {l : Lexer} {t : Token} (ht : s.item i = .ok t)
      (hrest : l.stream = s.drop (i + 1)) : Follows s i ⟨l, some t, none⟩
  | failed {i : Nat} {l : Lexer} {e : SyntaxError} (he : s.item i = .error e) :
    Follows s i ⟨l, none, some e⟩

variable {s : Stream} {i : Nat} {sc : Scanner}

/-- Where nothing is kept, a peek and a step forward read the same. -/
lemma read_reading {l : Lexer} (h : l.stream = s.drop i) :
    (∃ t l', read ⟨l, none, none⟩ = (.ok t, ⟨l', none, none⟩) ∧ s.item i = .ok t ∧
        l'.stream = s.drop (i + 1)) ∨
      ∃ e l', read ⟨l, none, none⟩ = (.error e, ⟨l', none, some e⟩) ∧ s.item i = .error e := by
  obtain ⟨hanswer, hrest⟩ := Lexer.step_eq h .next
  cases hread : l.read with
  | mk answer l' =>
    have hstep : l.step .next = (answer, l') := hread
    rw [hstep] at hanswer hrest
    cases answer with
    | ok t => exact .inl ⟨t, l', by simp [read, hread], hanswer.symm, hrest⟩
    | error e => exact .inr ⟨e, l', by simp [read, hread], hanswer.symm⟩

lemma Follows.peek (h : Follows s i sc) : sc.peek.1 = s.item i ∧ Follows s i sc.peek.2 := by
  cases h with
  | reading hrest =>
    rcases read_reading hrest with ⟨t, l', hread, ht, hrest'⟩ | ⟨e, l', hread, he⟩
    · simp only [Scanner.peek, hread]
      exact ⟨ht.symm, .looking ht hrest'⟩
    · simp only [Scanner.peek, hread]
      exact ⟨he.symm, .failed he⟩
  | looking ht hrest => exact ⟨ht.symm, .looking ht hrest⟩
  | failed he => exact ⟨he.symm, .failed he⟩

lemma Follows.next (h : Follows s i sc) : sc.next.1 = s.item i ∧ Follows s (i + 1) sc.next.2 := by
  cases h with
  | reading hrest =>
    rcases read_reading hrest with ⟨t, l', hread, ht, hrest'⟩ | ⟨e, l', hread, he⟩
    · simp only [Scanner.next, hread]
      exact ⟨ht.symm, .reading hrest'⟩
    · simp only [Scanner.next, hread]
      exact ⟨he.symm, .failed (Stream.item_of_item_eq_error he (Nat.le_succ i))⟩
  | looking ht hrest => exact ⟨ht.symm, .reading hrest⟩
  | failed he => exact ⟨he.symm, .failed (Stream.item_of_item_eq_error he (Nat.le_succ i))⟩

lemma skip_eq (sc : Scanner) (kind : TokenKind) :
    sc.skip kind = (sc.next.1 >>= (·.required kind), sc.next.2) := by
  unfold skip
  rcases sc.next with ⟨e | t, sc'⟩
  · rfl
  · by_cases ht : t.kind = kind <;> simp [ht, Token.required, bind, Except.bind]

/-- A step of the scanner is a step of the cursor. -/
lemma Follows.step (h : Follows s i sc) (st : Step) :
    (sc.step st).1 = (s.step i st).1 ∧ Follows s (s.step i st).2 (sc.step st).2 := by
  cases st with
  | peek => exact h.peek
  | next => exact h.next
  | skip kind =>
    have hskip : sc.step (.skip kind) = (sc.next.1 >>= (·.required kind), sc.next.2) :=
      sc.skip_eq kind
    obtain ⟨hanswer, hnext⟩ := h.next
    rw [hskip, hanswer]
    exact ⟨rfl, hnext⟩

lemma Follows.run (h : Follows s i sc) (steps : List Step) : sc.run steps = s.run i steps := by
  induction steps generalizing sc i with
  | nil => rfl
  | cons st steps ih =>
    obtain ⟨hanswer, hrest⟩ := h.step st
    rw [Scanner.run, Stream.run, hanswer, ih hrest]

end Scanner

/-- The token at the end comes last, and an error is that of a bad character. -/
lemma Reading.ends {source : String} {past cs : List Char} {s : Stream}
    (h : Reading source past cs s) :
    (∀ t ∈ s.tokens, t.kind ≠ .eof) ∧
      ((∃ eof, s.ending = .ok eof ∧ eof.kind = .eof) ∨
        ∃ c l, s.ending = .error (.badCharacter c l)) := by
  induction h with
  | done hblanks => exact ⟨by simp, .inl ⟨_, rfl, rfl⟩⟩
  | stray hblanks hc => exact ⟨by simp, .inr ⟨_, _, rfl⟩⟩
  | lexeme hblanks hword hrest ih =>
    refine ⟨?_, ih.2⟩
    rw [List.forall_mem_cons]
    exact ⟨hword.kind_ne_eof, ih.1⟩

/-- Whatever a scanner is asked, in any order, it answers like a cursor on the stream of its text,
and so does a lexer that reads again what it only looked at. -/
theorem run_eq_cursor_run (src : Source) :
    let s := (Lexer.ofSource src).stream
    (∀ steps, (Scanner.ofSource src).run steps = s.run 0 steps ∧
      (Lexer.ofSource src).run steps = s.run 0 steps) ∧
    (∀ t ∈ s.tokens, t.kind ≠ .eof) ∧
    ((∃ eof, eof.kind = .eof ∧ ∀ i, s.tokens.length ≤ i →
        (s.step i .peek).1 = .ok eof ∧ (s.step i .next).1 = .ok eof ∧
          (s.step i (.skip .eof)).1 = .ok eof) ∨
      ∃ c l, ∀ i, s.tokens.length ≤ i → ∀ st, (s.step i st).1 = .error (.badCharacter c l)) ∧
    ∀ (t : Token) (kind : TokenKind), t.kind ≠ kind → ∃ found expected,
      t.required kind = .error (.unexpected found expected) ∧
        found.text = t.text ∧ found.location = t.location ∧ expected.text = kind.text := by
  intro s
  have hread : Reading src.name [] src.input.toList s := reading_stream src.name [] _
  obtain ⟨htokens, hending⟩ := hread.ends
  have hstart : (Lexer.ofSource src).stream = s.drop 0 := s.drop_zero.symm
  refine ⟨?_, htokens, ?_, ?_⟩
  · intro steps
    have hscanner : Scanner.Follows s 0 (Scanner.ofSource src) := .reading hstart
    exact ⟨hscanner.run steps, Lexer.run_eq hstart steps⟩
  · refine hending.imp ?_ ?_
    · rintro ⟨eof, heof, hkind⟩
      refine ⟨eof, hkind, fun i hi => ?_⟩
      have hitem : s.item i = .ok eof := (Stream.item_of_length_le hi).trans heof
      refine ⟨hitem, hitem, ?_⟩
      simp [Stream.step, hitem, Token.required, hkind, bind, Except.bind]
    · rintro ⟨c, l, he⟩
      refine ⟨c, l, fun i hi st => ?_⟩
      have hitem : s.item i = .error (.badCharacter c l) := (Stream.item_of_length_le hi).trans he
      cases st with
      | peek | next => exact hitem
      | skip kind => simp [Stream.step, hitem, bind, Except.bind]
  · intro t kind hkind
    exact ⟨t, .token kind, if_neg hkind, rfl, rfl, rfl⟩

end ModuleBindings.Constraint
