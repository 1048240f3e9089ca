import ModuleBindings.Proofs.ParsedTypes
import ModuleBindings.Proofs.Tokenization

/-!
# The places in a parsed tree

Each node and each field of a tree was named by one token, and listed in pre-order their tokens
stand in the order of the text. So what is known of the places of tokens holds of those in a tree.
-/

namespace ModuleBindings

/-- The source has that name just there, with the line and column counted in the text before it. -/
structure Location.IsPlaceOf (src : Source) (l : Location) (name : String) : Prop where
  placed : l.IsPlacedIn src
  start_lt : l.start < l.stop
  text : src.input.toList.extract l.start l.stop = name.toList

namespace Constraint

open Lexer (Stream)

/-- A name that is written in a type, and where. -/
structure Mark where
  name : String
  location : Option Location

mutual

/-- The marks of a tree in pre-order. A field's own comes before those of its type. -/
def marks : Constraint → List Mark
  | node name _ elem _ fields location => ⟨name, location⟩ :: (elemMarks elem ++ fieldMarks fields)

def elemMarks : Option Constraint → List Mark
  | none => []
  | some t => marks t

def fieldMarks : List (Field Constraint) → List Mark
  | [] => []
  | ⟨name, location, t⟩ :: rest => ⟨name, location⟩ :: (marks t ++ fieldMarks rest)

end

mutual

/-- Whatever is marked in a node of a tree is marked in the tree. -/
lemma marks_subset : ∀ t : Constraint, ∀ u ∈ t.nodes, u.marks ⊆ t.marks
  | node name kind elem optional fields location => by
    intro u hu
    simp only [nodes, List.mem_cons, List.mem_append] at hu
    rcases hu with rfl | hu | hu
    · exact List.Subset.refl _
    · intro m hm
      have hmem := marks_subset_elemMarks elem u hu hm
      exact List.mem_cons_of_mem _ (List.mem_append_left _ hmem)
    · intro m hm
      have hmem := marks_subset_fieldMarks fields u hu hm
      exact List.mem_cons_of_mem _ (List.mem_append_right _ hmem)

lemma marks_subset_elemMarks : ∀ elem : Option Constraint, ∀ u ∈ elemNodes elem,
    u.marks ⊆ elemMarks elem
  | none => by simp [elemNodes]
  | some t => marks_subset t

lemma marks_subset_fieldMarks : ∀ fields : List (Field Constraint), ∀ u ∈ fieldNodes fields,
    u.marks ⊆ fieldMarks fields
  | [] => by simp [fieldNodes]
  | ⟨name, location, t⟩ :: rest => by
    intro u hu m hm
    rcases List.mem_append.mp hu with hu | hu
    · exact List.mem_cons_of_mem _ (List.mem_append_left _ (marks_subset t u hu hm))
    · exact List.mem_cons_of_mem _ (List.mem_append_right _ (marks_subset_fieldMarks rest u hu hm))

end

lemma mark_mem_marks (t : Constraint) : ⟨t.name, t.location⟩ ∈ t.marks := by
  cases t
  exact List.mem_cons_self

lemma mark_mem_fieldMarks {fields : List (Field Constraint)} {f : Field Constraint}
    (hf : f ∈ fields) : ⟨f.name, f.location⟩ ∈ fieldMarks fields := by
  induction fields with
  | nil => cases hf
  | cons g rest ih =>
    rw [fieldMarks, List.mem_cons, List.mem_append]
    rcases List.mem_cons.mp hf with rfl | hf
    · exact .inl rfl
    · exact .inr (.inr (ih hf))

lemma fieldMark_mem_marks {t : Constraint} {f : Field Constraint} (hf : f ∈ t.fields) :
    ⟨f.name, f.location⟩ ∈ t.marks := by
  cases t
  exact List.mem_cons_of_mem _ (List.mem_append_right _ (mark_mem_fieldMarks hf))

/-- What a token names, and where it stands. -/
def Token.mark (t : Token) : Mark :=
  ⟨t.value, some t.location⟩

namespace Parser

/-- The marks are those of tokens read before `rest`, in their order. -/
def AreRead (ts : List Token) (ms : List Mark) (rest : List Token) : Prop :=
  (ms ++ rest.map Token.mark).Sublist (ts.map Token.mark)

section Marks

variable {b : Bounds} {depth : Nat} {flagged : Bool} {t : Token} {ts rest more : List Token}
  {ms ns : List Mark} {u : Constraint}

lemma AreRead.refl (ts : List Token) : AreRead ts [] ts :=
  List.Sublist.refl _

/-- A token that leaves no mark. -/
lemma AreRead.skip (t : Token) (h : AreRead ts ms rest) : AreRead (t :: ts) ms rest :=
  h.cons t.mark

lemma AreRead.mark (h : AreRead ts ms rest) : AreRead (t :: ts) (t.mark :: ms) rest :=
  h.cons_cons t.mark

lemma AreRead.append (h : AreRead ts ms rest) (h' : AreRead rest ns more) :
    AreRead ts (ms ++ ns) more := by
  unfold AreRead at *
  rw [List.append_assoc]
  exact (h'.append_left ms).trans h

lemma Enclosed.areRead (h : Enclosed b depth flagged ts u rest)
    (ih : ∀ inner, inner.length < ts.length → ∀ v (r : ProperRest inner),
      typeAt b depth flagged inner = .ok (v, r) → AreRead inner v.marks r.val) :
    AreRead ts u.marks rest := by
  obtain ⟨left, right, inner, r, rfl, -, hu, hr, -⟩ := h
  have hinner := ih inner (by simp) u r hu
  rw [hr] at hinner
  have hbehind := hinner.append (.skip right (.refl rest))
  rw [List.append_nil] at hbehind
  exact hbehind.skip left

/-- The parser marks the tree with the tokens it reads, each as it is named. -/
theorem typeAt_areRead (b : Bounds) :
    (∀ depth flagged ts, ∀ u (r : ProperRest ts), typeAt b depth flagged ts = .ok (u, r) →
      AreRead ts u.marks r.val) ∧
    (∀ depth ts, ∀ fs (r : ProperRest ts), fieldsAt b depth ts = .ok (fs, r) →
      AreRead ts (fieldMarks fs) r.val) := by
  apply typeAt.mutual_induct b
  case case1 =>
    intro depth flagged u r h
    simp [typeAt] at h
  case case2 =>
    intro depth flagged t ts hd u r h
    simp [typeAt, hd] at h
  case case3 =>
    intro depth flagged t ts hd hk u r h
    simp [typeAt, hd, hk] at h
  case case4 =>
    intro depth flagged t ts hd kind hk u r h
    rw [Bool.not_eq_true] at hd
    obtain ⟨rfl, hr⟩ := (typeAt_scalar_iff hd hk).mp h
    rw [hr, marks, elemMarks, fieldMarks]
    exact (AreRead.refl ts).mark
  case case5 =>
    intro depth flagged t ts hd hk ih u r h
    rw [Bool.not_eq_true] at hd
    exact (((typeAt_optional_iff hd hk).mp h).areRead ih).skip t
  case case6 =>
    intro depth flagged t ts hd kind hk ih u r h
    rw [Bool.not_eq_true] at hd
    obtain ⟨v, hv, rfl⟩ := (typeAt_wrapper_iff hd hk).mp h
    have hvalue : t.value = kind.keyword := Keyword.value_of_ofToken? hk
    rw [marks, elemMarks, fieldMarks, List.append_nil, ← hvalue]
    exact (hv.areRead ih).mark
  case case7 =>
    intro depth flagged t ts hd hk ih u r h
    rw [Bool.not_eq_true] at hd
    obtain ⟨left, brace, right, inner, fs, r', rfl, -, -, hfs, hr', -, rfl⟩ :=
      (typeAt_object_iff hd hk).mp h
    have hfields := ih (brace :: inner) (by simp) inner (by simp) fs r' hfs
    rw [hr'] at hfields
    have hbehind := hfields.append (.skip right (.refl r.val))
    rw [List.append_nil] at hbehind
    have hvalue : t.value = Kind.object.keyword := Keyword.value_of_ofToken? hk
    rw [marks, elemMarks, List.nil_append, ← hvalue]
    exact ((hbehind.skip brace).skip left).mark
  case case8 =>
    intro depth fs r h
    simp [fieldsAt] at h
  case case9 =>
    intro depth t ts ht fs r h
    simp only [fieldsAt, ht, Except.ok.injEq, Prod.mk.injEq] at h
    obtain ⟨rfl, rfl⟩ := h
    exact (AreRead.refl ts).skip t
  case case10 =>
    intro depth t ts ht ihType ihFields fs r h
    obtain ⟨equals, inner, v, r', more, r'', rfl, -, hv, hm, hr, rfl⟩ :=
      (fieldsAt_name_iff ht).mp h
    have hlen : inner.length < (equals :: inner).length := by simp
    have htype := ihType inner hlen v r' hv
    have hmore := ihFields inner hlen r'.val r'.property more r'' hm
    rw [hr] at hmore
    rw [fieldMarks]
    exact ((htype.append hmore).skip equals).mark
  case case11 =>
    intro depth t ts hclose hname fs r h
    rw [fieldsAt_other hclose hname] at h
    cases h

end Marks

/-- The marks of a whole tree are those of some tokens of the stream. -/
lemma marks_of_parseStream {limit : Option Nat} {s : Stream} {t : Constraint}
    (h : parseStream limit s = .ok t) :
    ∃ read : List Token, read.Sublist s.tokens ∧ t.marks = read.map Token.mark := by
  obtain ⟨-, r, ht, hr⟩ := parseStream_eq_ok_iff.mp h
  have hread := (typeAt_areRead _).1 _ _ _ _ r ht
  rw [hr, AreRead, List.map_nil, List.append_nil] at hread
  exact List.sublist_map_iff.mp hread

end Parser

section Texts

variable {src : Source} {s : Stream}

/-- A token is where its mark says. -/
lemma Reading.isPlaceOf (h : Reading src.name [] src.input.toList s) {t : Token}
    (ht : t ∈ s.tokens) : t.location.IsPlaceOf src t.value := by
  obtain ⟨hvalue, hlength, hlexeme⟩ := h.tokens rfl t ht
  have hmem : t.location ∈ s.locations :=
    List.mem_append_left _ (List.mem_map_of_mem ht)
  refine ⟨(h.placed rfl _ hmem).1, ?_, hvalue.symm⟩
  have hpos := List.length_pos_iff.mpr hlexeme.ne_nil
  omega

lemma Reading.apart (h : Reading src.name [] src.input.toList s) :
    (s.tokens.map Token.location).Pairwise fun l m => l.start < m.start ∧ l.stop ≤ m.start := by
  have hordered : (s.tokens.map Token.location).Pairwise fun l m => l.stop ≤ m.start :=
    (h.ordered rfl).sublist (List.sublist_append_left _ _)
  refine hordered.imp_of_mem fun {l m} hl _ hle => ?_
  obtain ⟨t, ht, rfl⟩ := List.mem_map.mp hl
  exact ⟨Nat.lt_of_lt_of_le (h.isPlaceOf ht).start_lt hle, hle⟩

end Texts

/-- In a tree that was parsed every node stands where its own keyword is written and every field
where its name is, and in pre-order each begins behind the one before it. -/
theorem parse_places {src : Source} {t : Constraint} (h : parse src = .ok t) :
    (∀ u ∈ t.nodes, u.name = u.kind.keyword ∧
      (∃ l, u.location = some l ∧ l.IsPlaceOf src u.name) ∧
      ∀ f ∈ u.fields, ∃ l, f.location = some l ∧ l.IsPlaceOf src f.name) ∧
    ∃ ls : List Location, t.marks.map Mark.location = ls.map some ∧
      ls.Pairwise fun l m => l.start < m.start ∧ l.stop ≤ m.start := by
  have hreading : Reading src.name [] src.input.toList (Lexer.ofSource src).stream :=
    reading_stream src.name [] _
  obtain ⟨read, hsub, hmarks⟩ := Parser.marks_of_parseStream h
  have hplace : ∀ m ∈ t.marks, ∃ l, m.location = some l ∧ l.IsPlaceOf src m.name := by
    rw [hmarks, List.forall_mem_map]
    exact fun token htoken =>
      ⟨token.location, rfl, hreading.isPlaceOf (hsub.subset htoken)⟩
  refine ⟨fun u hu => ?_, read.map Token.location, ?_, hreading.apart.sublist (hsub.map _)⟩
  · have hsubset := marks_subset t u hu
    exact ⟨(nodes_isSpelledOut_of_parse h u hu).name, hplace _ (hsubset u.mark_mem_marks),
      fun f hf => hplace _ (hsubset (fieldMark_mem_marks hf))⟩
  · rw [hmarks, List.map_map, List.map_map]
    rfl

/-- An object in a list on two lines, with a map behind an `optional` in it. -/
theorem parse_places_rules :
    let src : Source := ⟨"m.rules", "list(object(\x7b a =\noptional(map(any)) \x7d))"⟩
    ∃ t, parse src = .ok t ∧
      (∀ u ∈ t.nodes, u.name = u.kind.keyword ∧
        (∃ l, u.location = some l ∧ l.IsPlaceOf src u.name) ∧
        ∀ f ∈ u.fields, ∃ l, f.location = some l ∧ l.IsPlaceOf src f.name) ∧
      ∃ ls : List Location, t.marks.map Mark.location = ls.map some ∧
        ls.Pairwise fun l m => l.start < m.start ∧ l.stop ≤ m.start := by
  intro src
  have hparse : ∃ t, parse src = .ok t := ⟨_, by cbv⟩
  obtain ⟨t, ht⟩ := hparse
  exact ⟨t, ht, parse_places ht⟩

end Constraint

end ModuleBindings
