import Mathlib.Data.List.DropRight
import Mathlib.Tactic.Lemma
import Mathlib.Tactic.SplitIfs
import ModuleBindings.Text.Blank
import ModuleBindings.Text.Slice

/-!
# Slices and trimmed texts

A text has a slice at a range just when it can be cut at both ends, and then the slice is what
stands between the cuts. Trimming takes away the blanks at the ends of a text and nothing else.
-/

namespace ModuleBindings.Text

variable {cs front back : List Char} {c : Char} {n : Nat} {text slice s : String}
  {range : ByteRange}

lemma byteLength_cons (c : Char) (cs : List Char) :
    byteLength (c :: cs) = c.utf8Size + byteLength cs :=
  rfl

lemma byteLength_append (front back : List Char) :
    byteLength (front ++ back) = byteLength front + byteLength back := by
  induction front with
  | nil => exact (Nat.zero_add (byteLength back)).symm
  | cons c front ih => rw [List.cons_append, byteLength_cons, byteLength_cons, ih, Nat.add_assoc]

lemma byteLength_eq_zero_iff : byteLength cs = 0 ↔ cs = [] := by
  cases cs with
  | nil => simp [byteLength]
  | cons c cs =>
    have hc := c.utf8Size_pos
    rw [byteLength_cons]
    simp only [reduceCtorEq, iff_false]
    omega

lemma byteLength_ofList (cs : List Char) : byteLength cs = (String.ofList cs).utf8ByteSize := by
  induction cs with
  | nil => rfl
  | cons c cs ih =>
    have hsplit : String.ofList (c :: cs) = String.singleton c ++ String.ofList cs := by
      apply String.toList_inj.mp
      simp
    rw [byteLength_cons, ih, hsplit, String.utf8ByteSize_append, String.utf8ByteSize_singleton]

lemma byteLength_toList (s : String) : byteLength s.toList = s.utf8ByteSize := by
  rw [byteLength_ofList, String.ofList_toList]

lemma splitAtByte?_eq_some_iff :
    splitAtByte? n cs = some (front, back) ↔ cs = front ++ back ∧ byteLength front = n := by
  induction cs generalizing n front with
  | nil =>
    cases n with
    | zero =>
      rw [byteLength_eq_zero_iff, splitAtByte?]
      cases front <;> simp [eq_comm]
    | succ n =>
      rw [splitAtByte?]
      refine ⟨nofun, ?_⟩
      rintro ⟨hnil, hlength⟩
      obtain ⟨rfl, rfl⟩ := List.append_eq_nil_iff.mp hnil.symm
      cases hlength
  | cons c cs ih =>
    cases n with
    | zero =>
      rw [byteLength_eq_zero_iff, splitAtByte?]
      constructor
      · rintro ⟨⟩
        exact ⟨rfl, rfl⟩
      · rintro ⟨hsplit, rfl⟩
        rw [hsplit]
        rfl
    | succ n =>
      rw [splitAtByte?]
      cases front with
      | nil =>
        have hne : byteLength [] ≠ n + 1 := (Nat.succ_ne_zero n).symm
        simp only [hne, and_false, iff_false]
        split_ifs <;> simp
      | cons d front =>
        rw [byteLength_cons, List.cons_append, List.cons.injEq]
        split_ifs with hshort
        · refine ⟨nofun, ?_⟩
          rintro ⟨⟨rfl, -⟩, hlength⟩
          omega
        · simp only [Option.map_eq_some_iff, Prod.exists, Prod.mk.injEq, List.cons.injEq]
          constructor
          · rintro ⟨front', back', hrest, ⟨rfl, rfl⟩, rfl⟩
            obtain ⟨rfl, hlength⟩ := ih.mp hrest
            exact ⟨⟨rfl, rfl⟩, by omega⟩
          · rintro ⟨⟨rfl, rfl⟩, hlength⟩
            exact ⟨front, back, ih.mpr ⟨rfl, by omega⟩, ⟨rfl, rfl⟩, rfl⟩

/-- The slice is what a text holds from one offset to the other. -/
def StandsAt (text slice : String) (range : ByteRange) : Prop :=
  ∃ before after, text = before ++ slice ++ after ∧ before.utf8ByteSize = range.start ∧
    (before ++ slice).utf8ByteSize = range.stop

lemma slice?_eq_some_iff : slice? text range = some slice ↔ StandsAt text slice range := by
  simp only [slice?, Option.bind_eq_bind, Option.bind_eq_some_iff, Prod.exists,
    splitAtByte?_eq_some_iff]
  constructor
  · rintro ⟨before, rest, ⟨htext, hstart⟩, h⟩
    split_ifs at h with hback
    simp only [Option.bind_eq_some_iff, Prod.exists, splitAtByte?_eq_some_iff] at h
    obtain ⟨cs, after, ⟨rfl, hlength⟩, ⟨⟩⟩ := h
    refine ⟨String.ofList before, String.ofList after, ?_, ?_, ?_⟩
    · apply String.toList_inj.mp
      simp [htext]
    · rw [← byteLength_ofList, hstart]
    · rw [← String.ofList_append, ← byteLength_ofList, byteLength_append]
      omega
  · rintro ⟨before, after, rfl, hstart, hstop⟩
    rw [String.utf8ByteSize_append] at hstop
    refine ⟨before.toList, (slice ++ after).toList, ⟨by simp, ?_⟩, ?_⟩
    · rw [byteLength_toList, hstart]
    · rw [if_neg (by omega)]
      simp only [Option.bind_eq_some_iff, Prod.exists, splitAtByte?_eq_some_iff]
      refine ⟨slice.toList, after.toList, ⟨by simp, ?_⟩, by simp⟩
      rw [byteLength_toList]
      omega

/-- One text is what is left of another without the blanks at its ends. -/
def IsTrimmed (text s : String) : Prop :=
  ∃ front back, text.toList = front ++ (s.toList ++ back) ∧ (∀ c ∈ front, isBlank c) ∧
    (∀ c ∈ back, isBlank c) ∧ (∀ c ∈ s.toList.head?, isBlank c = false) ∧
      ∀ c ∈ s.toList.getLast?, isBlank c = false

lemma toList_trim (text : String) :
    (trim text).toList = (text.toList.dropWhile isBlank).rdropWhile isBlank := by
  rw [trim, String.toList_ofList]
  rfl

lemma rdropWhile_append_of_isBlank (h : ∀ c ∈ back, isBlank c) :
    (cs ++ back).rdropWhile isBlank = cs.rdropWhile isBlank := by
  have hback : ∀ c ∈ back.reverse, isBlank c := by simpa using h
  rw [List.rdropWhile, List.reverse_append, List.dropWhile_append_of_pos hback, List.rdropWhile]

lemma isTrimmed_trim (text : String) : IsTrimmed text (trim text) := by
  have htrim := toList_trim text
  have hhead := List.head?_dropWhile_not isBlank text.toList
  generalize hrest : text.toList.dropWhile isBlank = rest at htrim hhead
  refine ⟨text.toList.takeWhile isBlank, rest.rtakeWhile isBlank, ?_, ?_, ?_, ?_, ?_⟩
  · rw [htrim, List.rdropWhile_append_rtakeWhile, ← hrest, List.takeWhile_append_dropWhile]
  · intro c hc
    exact List.mem_takeWhile_imp hc
  · intro c hc
    exact List.mem_rtakeWhile_imp hc
  · intro c hc
    obtain ⟨cs, hcs⟩ := List.head?_eq_some_iff.mp (Option.mem_def.mp hc)
    -- what is left begins as the rest does
    obtain ⟨back, hback⟩ := List.rdropWhile_prefix isBlank rest
    rw [← htrim, hcs, List.cons_append] at hback
    simpa [← hback] using hhead
  · intro c hc
    rw [htrim] at hc
    obtain ⟨hne, rfl⟩ := List.mem_getLast?_eq_getLast hc
    exact Bool.eq_false_iff.mpr (List.rdropWhile_last_not isBlank rest hne)

lemma eq_trim_of_isTrimmed (h : IsTrimmed text s) : s = trim text := by
  obtain ⟨front, back, htext, hfront, hback, hhead, hlast⟩ := h
  have hrest : text.toList.dropWhile isBlank = (s.toList ++ back).dropWhile isBlank := by
    rw [htext, List.dropWhile_append_of_pos hfront]
  apply String.toList_inj.mp
  rw [toList_trim, hrest]
  cases hs : s.toList with
  | nil =>
    have hnil : back.dropWhile isBlank = [] := List.dropWhile_eq_nil_iff.mpr hback
    rw [List.nil_append, hnil]
    rfl
  | cons c cs =>
    have hc : isBlank c = false := by
      apply hhead
      simp [hs]
    have hend : (c :: cs).rdropWhile isBlank = c :: cs := by
      apply List.rdropWhile_eq_self_iff.mpr
      intro hne
      rw [hs] at hlast
      simpa using hlast _ (List.getLast_mem_getLast? hne)
    rw [List.cons_append, List.dropWhile_cons_of_neg (by simp [hc]), ← List.cons_append,
      rdropWhile_append_of_isBlank hback, hend]

lemma isTrimmed_iff : IsTrimmed text s ↔ s = trim text := by
  constructor
  · exact eq_trim_of_isTrimmed
  · rintro rfl
    exact isTrimmed_trim text

lemma trim_trim (text : String) : trim (trim text) = trim text := by
  obtain ⟨-, -, -, -, -, hhead, hlast⟩ := isTrimmed_trim text
  have htrimmed : IsTrimmed (trim text) (trim text) :=
    ⟨[], [], by simp, by simp, by simp, hhead, hlast⟩
  exact (eq_trim_of_isTrimmed htrimmed).symm

/-- Nothing but blanks is left of a trimmed text only if nothing is left at all. -/
lemma isEmpty_trimChars_trim_iff :
    (trimChars (trim text).toList).isEmpty = true ↔ trim text = "" := by
  have htrim := congrArg String.toList (trim_trim text)
  rw [trim, String.toList_ofList] at htrim
  rw [htrim, List.isEmpty_iff, String.toList_eq_nil_iff]

end ModuleBindings.Text
