import ModuleBindings.Proofs.GoText

/-!
# The layout of Go source

What stands in the descriptions of fields is only found in comment lines: without these, the source
of some records does not depend on any description. The fields of a struct are set in columns, whose
widths are measured in bytes while blanks are counted in characters. No text has more characters
than bytes, so every column is wide enough for what stands in it.
-/

namespace ModuleBindings.Go

lemma joinLines_append (ls ms : List String) :
    joinLines (ls ++ ms) = joinLines ls ++ joinLines ms := by
  simp [joinLines]

lemma getLast?_joinLines {ls : List String} (h : ls ≠ []) :
    (joinLines ls).toList.getLast? = some '\n' := by
  obtain ⟨front, last, rfl⟩ := (List.eq_nil_or_concat' ls).resolve_left h
  simp [joinLines]

lemma flatMap_codeLines_recordsCode_congr {rs ss : List Record}
    (h : rs.map Record.withoutDescriptions = ss.map Record.withoutDescriptions) :
    (recordsCode rs).flatMap codeLines = (recordsCode ss).flatMap codeLines := by
  rw [← recordsCode_withoutDescriptions rs, h, recordsCode_withoutDescriptions]

/-- Every line of a file is ended by a line feed. Without those that are comments, files of records
that differ in nothing but descriptions are the same, whatever the descriptions say. -/
theorem withoutComments_fileText_congr (package : String) {rs ss : List Record}
    (h : rs.map Record.withoutDescriptions = ss.map Record.withoutDescriptions) :
    (∀ records, (fileText package records).toList.getLast? = some '\n') ∧
      withoutComments (fileText package rs) = withoutComments (fileText package ss) := by
  constructor
  · intro records
    exact getLast?_joinLines (by simp [fileLines])
  · rw [withoutComments, withoutComments, codeLines_fileText_eq, codeLines_fileText_eq,
      flatMap_codeLines_recordsCode_congr h]

/-- A description that tries to close its comment and to declare a field of its own, in a struct
whose name begins a comment line. -/
theorem withoutComments_fileText_congr_forged :
    let records : String → List Record := fun description =>
      [⟨"A\n\t// b", [⟨"C", description, .primitive .any, []⟩]⟩]
    (records "x\r\n\x60\n\tD string // y\r\n*/").map Record.withoutDescriptions =
        (records "").map Record.withoutDescriptions ∧
      withoutComments (fileText "p" (records "x\r\n\x60\n\tD string // y\r\n*/")) =
        withoutComments (fileText "p" (records "")) :=
  ⟨by decide, (withoutComments_fileText_congr "p" (by decide)).2⟩

/-- How many characters stand behind the last line feed of a text: the column of what follows. -/
def column (before : String) : Nat :=
  (before.toList.reverse.takeWhile (· ≠ '\n')).length

/-- How many blanks stand behind the name of a field and behind its type. -/
structure Gaps where
  name : Nat
  type : Nat

def blanks (n : Nat) : String :=
  String.ofList (List.replicate n ' ')

namespace Gaps

/-- The line of a field up to its type. -/
def beforeType (g : Gaps) (f : Record.Field) : String :=
  "\t" ++ f.name ++ blanks g.name

/-- The line of a field up to its tag. -/
def beforeTag (g : Gaps) (f : Record.Field) : String :=
  g.beforeType f ++ typeText f.type ++ blanks g.type

/-- The comments of a field and its line. -/
def fieldText (g : Gaps) (f : Record.Field) : String :=
  joinLines (commentLines f.description) ++ g.beforeTag f ++ "\x60" ++ structTag f.tags ++ "\x60\n"

end Gaps

/-- A file up to the end of some fields of the struct that follows some records. -/
def textThrough (package : String) (front : List Record) (name : String)
    (gaps : Record.Field → Gaps) (fs : List Record.Field) : String :=
  fileText package front ++ "\ntype " ++ name ++ " struct \x7b\n" ++
    String.join (fs.map fun f => (gaps f).fieldText f)

lemma column_joinLines_append (ls : List String) {s : String} (h : '\n' ∉ s.toList) :
    column (joinLines ls ++ s) = s.length := by
  have hs : ∀ c ∈ s.toList.reverse, decide (c ≠ '\n') = true := by
    intro c hc
    simp only [decide_eq_true_eq]
    rintro rfl
    exact h (List.mem_reverse.mp hc)
  have hnone : (joinLines ls).toList.reverse.takeWhile (· ≠ '\n') = [] := by
    cases ls with
    | nil => rfl
    | cons l ls =>
      have hlast := getLast?_joinLines (List.cons_ne_nil l ls)
      rw [← List.head?_reverse] at hlast
      obtain ⟨rest, hrest⟩ := List.head?_eq_some_iff.mp hlast
      simp [hrest]
  rw [column, String.toList_append, List.reverse_append, List.takeWhile_append_of_pos hs, hnone,
    List.append_nil, List.length_reverse, String.length_toList]

lemma length_le_utf8ByteSize (s : String) : s.length ≤ s.utf8ByteSize := by
  have hbytes : s.utf8ByteSize = (bytes s.toList).length := by
    calc s.utf8ByteSize = (String.ofList s.toList).toByteArray.size := by
          rw [String.ofList_toList, String.size_toByteArray]
      _ = (bytes s.toList).length := by
          rw [String.toByteArray_ofList, bytes, List.utf8Encode, List.size_toByteArray]
  rw [hbytes, ← String.length_toList]
  exact length_le_bytes s.toList

lemma le_foldl_max (texts : List String) (n : Nat) :
    n ≤ texts.foldl (fun n s => max n s.utf8ByteSize) n ∧
      ∀ s ∈ texts, s.utf8ByteSize ≤ texts.foldl (fun n s => max n s.utf8ByteSize) n := by
  induction texts generalizing n with
  | nil => simp
  | cons text texts ih =>
    obtain ⟨hstart, hall⟩ := ih (max n text.utf8ByteSize)
    rw [List.foldl_cons, List.forall_mem_cons]
    exact ⟨by omega, by omega, hall⟩

/-- A column has room for every text that it was made for. -/
lemma length_le_widest {texts : List String} {s : String} (h : s ∈ texts) :
    s.length ≤ widest texts :=
  (length_le_utf8ByteSize s).trans ((le_foldl_max texts 0).2 s h)

lemma length_blanks (n : Nat) : (blanks n).length = n := by
  simp [blanks]

lemma pad_append_blank (width : Nat) (s : String) :
    pad width s ++ " " = s ++ blanks (width - s.length + 1) := by
  apply String.toList_inj.mp
  simp [pad, blanks, List.replicate_succ']

section Fields

variable {fs : List Record.Field} {f : Record.Field}

def nameWidth (fs : List Record.Field) : Nat :=
  widest (fs.map (·.name))

def typeWidth (fs : List Record.Field) : Nat :=
  widest (fs.map (typeText ·.type))

/-- The gaps that fill the columns of a struct with some fields. No text is wider than its column,
so that neither difference is cut off at zero. -/
def gapsIn (fs : List Record.Field) (f : Record.Field) : Gaps where
  name := nameWidth fs - f.name.length + 1
  type := typeWidth fs - (typeText f.type).length + 1

lemma fieldLine_eq (fs : List Record.Field) (f : Record.Field) :
    fieldLine (nameWidth fs) (typeWidth fs) f =
      (gapsIn fs f).beforeTag f ++ "\x60" ++ structTag f.tags ++ "\x60" := by
  have hblank : " \x60" = " " ++ "\x60" := rfl
  calc fieldLine (nameWidth fs) (typeWidth fs) f
      = "\t" ++ (pad (nameWidth fs) f.name ++ " ") ++
          (pad (typeWidth fs) (typeText f.type) ++ " ") ++ "\x60" ++ structTag f.tags ++
            "\x60" := by
        rw [fieldLine, hblank]
        simp only [String.append_assoc]
    _ = (gapsIn fs f).beforeTag f ++ "\x60" ++ structTag f.tags ++ "\x60" := by
        rw [pad_append_blank, pad_append_blank, Gaps.beforeTag, Gaps.beforeType, gapsIn]
        simp only [String.append_assoc]

lemma length_beforeType (h : f ∈ fs) :
    ((gapsIn fs f).beforeType f).length = nameWidth fs + 2 := by
  have hname : f.name.length ≤ nameWidth fs := length_le_widest (List.mem_map_of_mem h)
  have hgap : (gapsIn fs f).name = nameWidth fs - f.name.length + 1 := rfl
  have htab : "\t".length = 1 := rfl
  rw [Gaps.beforeType, String.length_append, String.length_append, length_blanks, htab, hgap]
  omega

lemma length_beforeTag (h : f ∈ fs) :
    ((gapsIn fs f).beforeTag f).length = nameWidth fs + typeWidth fs + 3 := by
  have htype : (typeText f.type).length ≤ typeWidth fs :=
    length_le_widest (List.mem_map_of_mem (f := fun f : Record.Field => typeText f.type) h)
  have hgap : (gapsIn fs f).type = typeWidth fs - (typeText f.type).length + 1 := rfl
  rw [Gaps.beforeTag, String.length_append, String.length_append, length_beforeType h,
    length_blanks, hgap]
  omega

lemma lineFeed_not_mem_blanks (n : Nat) : '\n' ∉ (blanks n).toList := by
  simp [blanks]

lemma lineFeed_not_mem_beforeType (g : Gaps) (h : '\n' ∉ f.name.toList) :
    '\n' ∉ (g.beforeType f).toList := by
  simp [Gaps.beforeType, h, lineFeed_not_mem_blanks]

lemma lineFeed_not_mem_beforeTag (g : Gaps) (h : '\n' ∉ f.name.toList)
    (htype : '\n' ∉ (typeText f.type).toList) : '\n' ∉ (g.beforeTag f).toList := by
  simp [Gaps.beforeTag, lineFeed_not_mem_beforeType g h, htype, lineFeed_not_mem_blanks]

end Fields

/-- The lines of some fields of a struct that has the fields `all`. -/
def fieldLines (all fs : List Record.Field) : List String :=
  fs.flatMap fun f => commentLines f.description ++ [fieldLine (nameWidth all) (typeWidth all) f]

lemma joinLines_fieldLines (all fs : List Record.Field) :
    joinLines (fieldLines all fs) = String.join (fs.map fun f => (gapsIn all f).fieldText f) := by
  induction fs with
  | nil => rfl
  | cons f fs ih =>
    have hfield : joinLines [fieldLine (nameWidth all) (typeWidth all) f] =
        (gapsIn all f).beforeTag f ++ "\x60" ++ structTag f.tags ++ "\x60\n" := by
      rw [fieldLine_eq]
      simp [joinLines, String.append_assoc]
    rw [fieldLines, List.flatMap_cons, joinLines_append, joinLines_append, hfield, List.map_cons,
      String.join_cons, ← ih, Gaps.fieldText]
    simp only [String.append_assoc]
    rfl

/-- The lines of a file up to the end of some fields. -/
def linesThrough (package : String) (front : List Record) (r : Record)
    (fs : List Record.Field) : List String :=
  fileLines package front ++ ["", "type " ++ r.name ++ " struct \x7b"] ++ fieldLines r.fields fs

lemma joinLines_linesThrough (package : String) (front : List Record) (r : Record)
    (fs : List Record.Field) :
    joinLines (linesThrough package front r fs) =
      textThrough package front r.name (gapsIn r.fields) fs := by
  rw [linesThrough, joinLines_append, joinLines_append, joinLines_fieldLines, textThrough, fileText]
  simp [joinLines, String.append_assoc]
  rfl

lemma fileLines_append_cons (package : String) (front : List Record) (r : Record)
    (back : List Record) :
    fileLines package (front ++ r :: back) =
      linesThrough package front r r.fields ++ ["\x7d"] ++
        back.flatMap fun r => "" :: recordLines r := by
  simp [fileLines, linesThrough, fieldLines, recordLines, nameWidth, typeWidth]

/-- The struct of a record stands in a file in columns: with some gaps behind the whole name and
behind the whole type of each field, every type begins in one column and every tag in another. -/
structure HasColumns (package : String) (front : List Record) (r : Record) (back : List Record)
    (gaps : Record.Field → Gaps) (typeColumn tagColumn : Nat) : Prop where
  text : fileText package (front ++ r :: back) =
    textThrough package front r.name gaps r.fields ++ "\x7d\n" ++
      joinLines (back.flatMap fun r => "" :: recordLines r)
  nameGap : ∀ f ∈ r.fields, 0 < (gaps f).name
  typeGap : ∀ f ∈ r.fields, 0 < (gaps f).type
  types : ∀ fs f gs, r.fields = fs ++ f :: gs →
    column (textThrough package front r.name gaps fs ++ joinLines (commentLines f.description) ++
      (gaps f).beforeType f) = typeColumn
  tags : ∀ fs f gs, r.fields = fs ++ f :: gs →
    column (textThrough package front r.name gaps fs ++ joinLines (commentLines f.description) ++
      (gaps f).beforeTag f) = tagColumn

/-- Every struct of a file stands in columns, if no name or type in it breaks its line. -/
theorem fileText_hasColumns (package : String) (front : List Record) {r : Record}
    (back : List Record)
    (h : ∀ f ∈ r.fields, '\n' ∉ f.name.toList ∧ '\n' ∉ (typeText f.type).toList) :
    ∃ gaps typeColumn tagColumn, HasColumns package front r back gaps typeColumn tagColumn := by
  -- a line begins behind what is written so far, the comments of its field included
  have hbefore : ∀ fs (f : Record.Field), textThrough package front r.name (gapsIn r.fields) fs ++
      joinLines (commentLines f.description) =
        joinLines (linesThrough package front r fs ++ commentLines f.description) := by
    intro fs f
    rw [joinLines_append, joinLines_linesThrough]
  refine ⟨gapsIn r.fields, nameWidth r.fields + 2, nameWidth r.fields + typeWidth r.fields + 3,
    ?_, fun _ _ => Nat.succ_pos _, fun _ _ => Nat.succ_pos _, ?_, ?_⟩
  · rw [fileText, fileLines_append_cons, joinLines_append, joinLines_append,
      joinLines_linesThrough]
    rfl
  · intro fs f gs hfields
    have hf : f ∈ r.fields := by simp [hfields]
    rw [hbefore, column_joinLines_append _ (lineFeed_not_mem_beforeType _ (h f hf).1),
      length_beforeType hf]
  · intro fs f gs hfields
    have hf : f ∈ r.fields := by simp [hfields]
    rw [hbefore, column_joinLines_append _ (lineFeed_not_mem_beforeTag _ (h f hf).1 (h f hf).2),
      length_beforeTag hf]

/-- Two fields whose names have the same number of bytes but not of characters. -/
def streets : Record :=
  ⟨"Streets", [⟨"Straße", "", .list (.primitive .string), [("json", "straße")]⟩,
    ⟨"Streets", "All\nof them.", .nullable (.record "Größe"), [("json", "streets")]⟩]⟩

theorem fileText_hasColumns_streets :
    (∀ f ∈ streets.fields, '\n' ∉ f.name.toList ∧ '\n' ∉ (typeText f.type).toList) ∧
      ∃ gaps typeColumn tagColumn, HasColumns "towns" [] streets [] gaps typeColumn tagColumn :=
  ⟨by decide, fileText_hasColumns "towns" [] [] (by decide)⟩

end ModuleBindings.Go
