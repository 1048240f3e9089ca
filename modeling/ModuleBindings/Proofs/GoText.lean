import ModuleBindings.Proofs.StructTags

/-!
# Reading records back from their Go source

The descriptions of fields stand in comment lines. Without these lines the source of some records
still determines everything else about them, if all names are words.
-/

namespace ModuleBindings

open Constraint (IsName isNameChar)

/-- The word can be the name of a record: as a type it means nothing else. -/
structure Go.IsTypeName (name : String) : Prop where
  isName : IsName name
  ne_string : name ≠ "string"
  ne_bool : name ≠ "bool"

instance (name : String) : Decidable (Go.IsTypeName name) :=
  decidable_of_iff (IsName name ∧ name ≠ "string" ∧ name ≠ "bool")
    ⟨fun ⟨isName, ne_string, ne_bool⟩ => ⟨isName, ne_string, ne_bool⟩,
      fun h => ⟨h.isName, h.ne_string, h.ne_bool⟩⟩

namespace Record

/-- All names in the field are words. -/
structure Field.UsesWords (f : Field) : Prop where
  name : IsName f.name
  references : ∀ name ∈ f.type.references, Go.IsTypeName name
  tags : ∀ p ∈ f.tags, IsName p.1 ∧ IsName p.2

instance (f : Field) : Decidable f.UsesWords :=
  decidable_of_iff (IsName f.name ∧ (∀ name ∈ f.type.references, Go.IsTypeName name) ∧
      ∀ p ∈ f.tags, IsName p.1 ∧ IsName p.2)
    ⟨fun ⟨name, references, tags⟩ => ⟨name, references, tags⟩,
      fun h => ⟨h.name, h.references, h.tags⟩⟩

/-- All names in the record are words. -/
structure UsesWords (r : Record) : Prop where
  name : Go.IsTypeName r.name
  fields : ∀ f ∈ r.fields, f.UsesWords

instance (r : Record) : Decidable r.UsesWords :=
  decidable_of_iff (Go.IsTypeName r.name ∧ ∀ f ∈ r.fields, f.UsesWords)
    ⟨fun ⟨name, fields⟩ => ⟨name, fields⟩, fun h => ⟨h.name, h.fields⟩⟩

def Field.withoutDescription (f : Field) : Field :=
  { f with description := "" }

def withoutDescriptions (r : Record) : Record :=
  { r with fields := r.fields.map Field.withoutDescription }

end Record

namespace Go

/-- A line that begins with a tab and two slashes. -/
def isComment (line : List Char) : Bool :=
  ['\t', '/', '/'].isPrefixOf line

/-- The lines of a text that are no such comments. What follows the last line feed is a line. -/
def codeLines (text : String) : List (List Char) :=
  (text.toList.splitOn '\n').filter fun line => !isComment line

/-- The text without these comments. -/
def withoutComments (text : String) : String :=
  String.ofList (['\n'].intercalate (codeLines text))

section Words

variable {α : Type} {a : α} {front front' back back' : List α}

/-- The first mark is found again. -/
lemma append_cons_inj (hfront : a ∉ front) (hfront' : a ∉ front')
    (h : front ++ a :: back = front' ++ a :: back') : front = front' ∧ back = back' := by
  induction front generalizing front' with
  | nil =>
    cases front' with
    | nil => exact ⟨rfl, (List.cons.inj h).2⟩
    | cons b front' =>
      obtain rfl := (List.cons.inj h).1
      exact absurd List.mem_cons_self hfront'
  | cons b front ih =>
    cases front' with
    | nil =>
      obtain rfl := (List.cons.inj h).1
      exact absurd List.mem_cons_self hfront
    | cons b' front' =>
      rw [List.mem_cons, not_or] at hfront hfront'
      rw [List.cons_append, List.cons_append, List.cons.injEq] at h
      obtain ⟨rfl, rfl⟩ := ih hfront.2 hfront'.2 h.2
      exact ⟨by rw [h.1], rfl⟩

end Words

lemma dropWhile_blanks {cs : List Char} (n : Nat) (h : ∀ c ∈ cs.head?, c ≠ ' ') :
    (List.replicate n ' ' ++ cs).dropWhile (· == ' ') = cs := by
  rw [List.dropWhile_append_of_pos (by simp)]
  cases cs with
  | nil => rfl
  | cons c cs => simpa using h

/-- A word that fills a column, and what follows the column. -/
lemma column_inj {word word' cs cs' : List Char} {n n' : Nat} (hword : ' ' ∉ word)
    (hword' : ' ' ∉ word') (hcs : ∀ c ∈ cs.head?, c ≠ ' ') (hcs' : ∀ c ∈ cs'.head?, c ≠ ' ')
    (h : word ++ ' ' :: (List.replicate n ' ' ++ cs) =
      word' ++ ' ' :: (List.replicate n' ' ' ++ cs')) : word = word' ∧ cs = cs' := by
  obtain ⟨rfl, hblanks⟩ := append_cons_inj hword hword' h
  have hdrop := congrArg (List.dropWhile (· == ' ')) hblanks
  rw [dropWhile_blanks n hcs, dropWhile_blanks n' hcs'] at hdrop
  exact ⟨rfl, hdrop⟩

/-- No other type is written like a record. -/
lemma eq_record_of_typeText {name : String} (hname : IsTypeName name) {t : TypeExpr}
    (h : typeText t = name) : t = .record name := by
  have hnot : ∀ c ∈ (typeText t).toList, isNameChar c = true := h ▸ hname.isName.2
  cases t with
  | primitive p =>
    cases p with
    | string => exact absurd h.symm hname.ne_string
    | bool => exact absurd h.symm hname.ne_bool
    | any => exact absurd (hnot '\x7b' (by simp [typeText])) (by decide)
  | map t => exact absurd (hnot '[' (by simp [typeText])) (by decide)
  | list t => exact absurd (hnot '[' (by simp [typeText])) (by decide)
  | record name' => rw [typeText] at h; rw [h]
  | nullable t => exact absurd (hnot '*' (by simp [typeText])) (by decide)

lemma typeText_inj {t u : TypeExpr} (ht : ∀ name ∈ t.references, IsTypeName name)
    (hu : ∀ name ∈ u.references, IsTypeName name) (h : typeText t = typeText u) : t = u := by
  have hchars := congrArg String.toList h
  induction t generalizing u with
  | record name =>
    exact (eq_record_of_typeText (ht name (by simp [TypeExpr.references])) h.symm).symm
  | primitive p =>
    cases u with
    | record name => exact eq_record_of_typeText (hu name (by simp [TypeExpr.references])) h
    | primitive q =>
      have hpq : p = q := by
        cases p <;> cases q <;> first | rfl | simp [typeText] at hchars
      rw [hpq]
    | _ => cases p <;> simp [typeText] at hchars
  | map t ih =>
    cases u with
    | record name => exact eq_record_of_typeText (hu name (by simp [TypeExpr.references])) h
    | primitive q => cases q <;> simp [typeText] at hchars
    | map u =>
      have htail : typeText t = typeText u := by simpa [typeText] using h
      rw [ih (u := u) ht hu htail (congrArg _ htail)]
    | _ => simp [typeText] at hchars
  | list t ih =>
    cases u with
    | record name => exact eq_record_of_typeText (hu name (by simp [TypeExpr.references])) h
    | primitive q => cases q <;> simp [typeText] at hchars
    | list u =>
      have htail : typeText t = typeText u := by simpa [typeText] using h
      rw [ih (u := u) ht hu htail (congrArg _ htail)]
    | _ => simp [typeText] at hchars
  | nullable t ih =>
    cases u with
    | record name => exact eq_record_of_typeText (hu name (by simp [TypeExpr.references])) h
    | primitive q => cases q <;> simp [typeText] at hchars
    | nullable u =>
      have htail : typeText t = typeText u := by simpa [typeText] using h
      rw [ih (u := u) ht hu htail (congrArg _ htail)]
    | _ => simp [typeText] at hchars

lemma isBlank_of_mem_typeText {t : TypeExpr} (ht : ∀ name ∈ t.references, IsTypeName name) :
    ∀ c ∈ (typeText t).toList, Text.isBlank c = false := by
  have hfixed {s : String} (hs : s.toList.any Text.isBlank = false) :
      ∀ c ∈ s.toList, Text.isBlank c = false := by
    simpa using hs
  induction t with
  | primitive p => cases p <;> exact hfixed (by decide)
  | map t ih =>
    rw [typeText, String.toList_append, List.forall_mem_append]
    exact ⟨hfixed (by decide), ih ht⟩
  | list t ih =>
    rw [typeText, String.toList_append, List.forall_mem_append]
    exact ⟨hfixed (by decide), ih ht⟩
  | record name =>
    have hname := (ht name (by simp [TypeExpr.references])).isName
    exact fun c hc => Constraint.isBlank_of_isNameChar (hname.2 c hc)
  | nullable t ih =>
    rw [typeText, String.toList_append, List.forall_mem_append]
    exact ⟨hfixed (by decide), ih ht⟩

lemma not_mem_typeText {t : TypeExpr} (ht : ∀ name ∈ t.references, IsTypeName name) {c : Char}
    (hc : Text.isBlank c = true) : c ∉ (typeText t).toList := by
  intro hmem
  rw [isBlank_of_mem_typeText ht c hmem] at hc
  cases hc

lemma bytes_inj {s t : String} (h : bytes s.toList = bytes t.toList) : s = t := by
  rw [← String.toByteArray_inj, ← String.ofList_toList (s := s), ← String.ofList_toList (s := t),
    String.toByteArray_ofList, String.toByteArray_ofList]
  exact congrArg List.toByteArray h

lemma structTag_inj {tags tags' : Tags} (htags : ∀ p ∈ tags, IsName p.1 ∧ IsName p.2)
    (htags' : ∀ p ∈ tags', IsName p.1 ∧ IsName p.2) (h : structTag tags = structTag tags') :
    tags = tags' := by
  have hread : ∀ {tags : Tags}, (∀ p ∈ tags, IsName p.1 ∧ IsName p.2) → IsReadable tags :=
    fun htags => (isReadable_iff fun p hp => isFormat_of_isName (htags p hp).1).mpr
      fun p hp => isPlain_of_isName (htags p hp).2
  have hvalues := (hread htags).2.symm.trans (h ▸ (hread htags').2)
  refine List.map_injective_iff.mpr ?_ (Option.some.inj hvalues)
  rintro ⟨format, key⟩ ⟨format', key'⟩ hpair
  rw [Prod.mk.injEq] at hpair ⊢
  exact ⟨hpair.1, bytes_inj hpair.2⟩

lemma toList_pad_blank (width : Nat) (s : String) (cs : List Char) :
    (pad width s).toList ++ ' ' :: cs =
      s.toList ++ ' ' :: (List.replicate (width - s.length) ' ' ++ cs) := by
  have hblanks : ∀ n, List.replicate n ' ' ++ ' ' :: cs = ' ' :: (List.replicate n ' ' ++ cs) := by
    intro n
    rw [← List.cons_append, ← List.replicate_succ, List.replicate_succ', List.append_assoc,
      List.singleton_append]
  rw [pad, String.toList_append, String.toList_ofList, List.append_assoc, hblanks]

lemma toList_fieldLine (nameWidth typeWidth : Nat) (f : Record.Field) :
    (fieldLine nameWidth typeWidth f).toList =
      '\t' :: (f.name.toList ++ ' ' :: (List.replicate (nameWidth - f.name.length) ' ' ++
        ((typeText f.type).toList ++
          ' ' :: (List.replicate (typeWidth - (typeText f.type).length) ' ' ++
            '\x60' :: ((structTag f.tags).toList ++ ['\x60']))))) := by
  rw [← toList_pad_blank, ← toList_pad_blank]
  simp [fieldLine]

lemma typeText_ne_nil {t : TypeExpr} (ht : ∀ name ∈ t.references, IsTypeName name) :
    (typeText t).toList ≠ [] := by
  cases t with
  | primitive p => cases p <;> simp [typeText]
  | record name =>
    have hname := (ht name (by simp [TypeExpr.references])).isName.1
    simpa [typeText] using hname
  | _ => simp [typeText]

lemma fieldLine_withoutDescription (nameWidth typeWidth : Nat) (f : Record.Field) :
    fieldLine nameWidth typeWidth f.withoutDescription = fieldLine nameWidth typeWidth f :=
  rfl

lemma fieldLine_inj {f g : Record.Field} (hf : f.UsesWords) (hg : g.UsesWords)
    {nameWidth typeWidth nameWidth' typeWidth' : Nat}
    (h : fieldLine nameWidth typeWidth f = fieldLine nameWidth' typeWidth' g) :
    f.withoutDescription = g.withoutDescription := by
  have hchars := congrArg String.toList h
  rw [toList_fieldLine, toList_fieldLine, List.cons.injEq] at hchars
  have htype : ∀ {f : Record.Field}, f.UsesWords → ∀ cs : List Char,
      ∀ c ∈ ((typeText f.type).toList ++ cs).head?, c ≠ ' ' := by
    intro f hf cs c hc
    rw [List.head?_append_of_ne_nil _ (typeText_ne_nil hf.references)] at hc
    rintro rfl
    exact not_mem_typeText hf.references (by decide) (List.mem_of_mem_head? hc)
  obtain ⟨hname, hchars⟩ := column_inj (not_mem_of_isName hf.name (by decide))
    (not_mem_of_isName hg.name (by decide)) (htype hf _) (htype hg _) hchars.2
  obtain ⟨htext, hchars⟩ := column_inj (not_mem_typeText hf.references (by decide))
    (not_mem_typeText hg.references (by decide)) (by simp) (by simp) hchars
  have htag : structTag f.tags = structTag g.tags :=
    String.toList_inj.mp (by simpa using hchars)
  rw [Record.Field.withoutDescription, Record.Field.withoutDescription, String.toList_inj.mp hname,
    typeText_inj hf.references hg.references (String.toList_inj.mp htext),
    structTag_inj hf.tags hg.tags htag]

lemma map_fieldLine_inj {fs gs : List Record.Field} (hfs : ∀ f ∈ fs, f.UsesWords)
    (hgs : ∀ g ∈ gs, g.UsesWords) {nameWidth typeWidth nameWidth' typeWidth' : Nat}
    (h : fs.map (fieldLine nameWidth typeWidth) = gs.map (fieldLine nameWidth' typeWidth')) :
    fs.map Record.Field.withoutDescription = gs.map Record.Field.withoutDescription := by
  induction fs generalizing gs with
  | nil => simp_all
  | cons f fs ih =>
    cases gs with
    | nil => simp at h
    | cons g gs =>
      rw [List.forall_mem_cons] at hfs hgs
      rw [List.map_cons, List.map_cons, List.cons.injEq] at h ⊢
      exact ⟨fieldLine_inj hfs.1 hgs.1 h.1, ih hfs.2 hgs.2 h.2⟩

lemma not_mem_of_mem_splitOn {α : Type} [BEq α] [LawfulBEq α] {a : α} {xs line : List α}
    (h : line ∈ xs.splitOn a) : a ∉ line := by
  induction xs generalizing line with
  | nil => simp_all
  | cons x xs ih =>
    rw [List.splitOn_cons_eq_if_modifyHead] at h
    split_ifs at h with hx
    · rcases List.mem_cons.mp h with rfl | h
      · exact List.not_mem_nil
      · exact ih h
    · cases hsplit : xs.splitOn a with
      | nil => exact absurd hsplit (List.splitOn_ne_nil a xs)
      | cons first more =>
        rw [hsplit, List.modifyHead_cons, List.mem_cons] at h
        rcases h with rfl | h
        · have hfirst : a ∉ first := ih (hsplit ▸ List.mem_cons_self)
          rw [List.mem_cons, not_or]
          exact ⟨fun heq => hx (beq_iff_eq.mpr heq.symm), hfirst⟩
        · exact ih (hsplit ▸ List.mem_cons_of_mem _ h)

lemma codeLines_joinLines (ls : List String) :
    codeLines (joinLines ls) = ls.flatMap codeLines ++ [[]] := by
  induction ls with
  | nil => rfl
  | cons l ls ih =>
    have hchars : (joinLines (l :: ls)).toList = l.toList ++ '\n' :: (joinLines ls).toList := by
      simp [joinLines]
    rw [codeLines, hchars, List.splitOn_append_cons_self, List.filter_append, List.flatMap_cons,
      List.append_assoc, ← ih]
    rfl

/-- Lines without line feeds are taken as they are, or left out. -/
lemma codeLines_of_line {l : String} (h : '\n' ∉ l.toList) :
    codeLines l = if isComment l.toList then [] else [l.toList] := by
  rw [codeLines, List.splitOn_eq_singleton h]
  cases hcomment : isComment l.toList <;> simp [hcomment]

lemma withoutComments_inj {s t : String} (hs : codeLines s ≠ []) (ht : codeLines t ≠ []) :
    withoutComments s = withoutComments t ↔ codeLines s = codeLines t := by
  have hlines : ∀ text, ∀ line ∈ codeLines text, '\n' ∉ line := fun text line hline =>
    not_mem_of_mem_splitOn (List.mem_of_mem_filter hline)
  refine ⟨fun h => ?_, fun h => by rw [withoutComments, h, withoutComments]⟩
  have hsplit := congrArg (List.splitOn '\n') (String.ofList_injective h)
  rwa [List.splitOn_intercalate _ (hlines s) hs, List.splitOn_intercalate _ (hlines t) ht]
    at hsplit

lemma lineFeed_not_mem_linesAfter {begun cs line : List Char} (hbegun : '\n' ∉ begun)
    (h : line ∈ Text.linesAfter begun cs) : '\n' ∉ line := by
  induction cs generalizing begun with
  | nil =>
    rw [Text.linesAfter] at h
    split_ifs at h
    · cases h
    · rw [List.mem_singleton.mp h, List.mem_reverse]
      exact hbegun
  | cons c cs ih =>
    rw [Text.linesAfter] at h
    split_ifs at h with hc
    · rcases List.mem_cons.mp h with rfl | h
      · unfold Text.dropReturn
        split_ifs
        · exact fun hmem => hbegun (List.mem_reverse.mp (List.dropLast_subset _ hmem))
        · exact fun hmem => hbegun (List.mem_reverse.mp hmem)
      · exact ih List.not_mem_nil h
    · refine ih ?_ h
      rw [List.mem_cons, not_or]
      exact ⟨Ne.symm hc, hbegun⟩

lemma codeLines_commentLines (description : String) :
    (commentLines description).flatMap codeLines = [] := by
  rw [commentLines, Text.lines, List.map_map, List.flatMap_eq_nil_iff]
  intro l hl
  obtain ⟨line, hline, rfl⟩ := List.mem_map.mp hl
  have hchars : ("\t// " ++ Text.trimEnd (String.ofList line)).toList =
      '\t' :: '/' :: '/' :: ' ' :: Text.trimEndChars line := by
    simp [Text.trimEnd]
  have hlineFeed : '\n' ∉ ("\t// " ++ Text.trimEnd (String.ofList line)).toList := by
    have hmem := lineFeed_not_mem_linesAfter List.not_mem_nil hline
    have htrim : '\n' ∉ Text.trimEndChars line := fun h => hmem (List.mem_reverse.mp
      (List.dropWhile_subset _ (List.mem_reverse.mp h)))
    rw [hchars]
    simp [htrim]
  rw [Function.comp, codeLines_of_line hlineFeed, hchars]
  rfl

lemma codeLines_fieldLine {f : Record.Field} (hf : f.UsesWords) (nameWidth typeWidth : Nat) :
    codeLines (fieldLine nameWidth typeWidth f) = [(fieldLine nameWidth typeWidth f).toList] := by
  have hlineFeed : '\n' ∉ (fieldLine nameWidth typeWidth f).toList := by
    have hname := not_mem_of_isName hf.name (c := '\n') (by decide)
    have htype := not_mem_typeText hf.references (c := '\n') (by decide)
    have htags : '\n' ∉ (structTag f.tags).toList := by
      rw [mem_structTag_iff (by decide) (by decide) (by decide)]
      rintro ⟨p, hp, hformat | hkey⟩
      · exact not_mem_of_isName (hf.tags p hp).1 (by decide) hformat
      · exact not_mem_of_isName (hf.tags p hp).2 (by decide) hkey
    rw [toList_fieldLine]
    simp [hname, htype, htags]
  rw [codeLines_of_line hlineFeed, if_neg]
  rw [toList_fieldLine]
  obtain ⟨c, cs, hcons⟩ := exists_toList_eq_cons hf.name.1
  have hslash : c ≠ '/' := by
    rintro rfl
    exact not_mem_of_isName hf.name (c := '/') (by decide) (by simp [hcons])
  simp [isComment, hcons, Ne.symm hslash]

/-- The lines of a record that are no comments. -/
def recordCode (r : Record) : List String :=
  let nameWidth := widest (r.fields.map (·.name))
  let typeWidth := widest (r.fields.map (typeText ·.type))
  ("type " ++ r.name ++ " struct \x7b") ::
    (r.fields.map (fieldLine nameWidth typeWidth) ++ ["\x7d"])

/-- The comments of the fields leave nothing behind. -/
lemma flatMap_codeLines_recordLines (r : Record) :
    (recordLines r).flatMap codeLines = (recordCode r).flatMap codeLines := by
  have hfields : ∀ nameWidth typeWidth, (r.fields.flatMap fun f =>
      commentLines f.description ++ [fieldLine nameWidth typeWidth f]).flatMap codeLines =
        (r.fields.map (fieldLine nameWidth typeWidth)).flatMap codeLines := by
    intro nameWidth typeWidth
    rw [List.flatMap_assoc, List.flatMap_map]
    refine List.flatMap_congr fun f hf => ?_
    rw [List.flatMap_append, codeLines_commentLines, List.flatMap_singleton, List.nil_append]
  simp [recordLines, recordCode, hfields]

lemma codeLines_recordCode {r : Record} (hr : r.UsesWords) :
    (recordCode r).flatMap codeLines = (recordCode r).map String.toList := by
  have htype : codeLines ("type " ++ r.name ++ " struct \x7b") =
      [("type " ++ r.name ++ " struct \x7b").toList] := by
    have hname := not_mem_of_isName hr.name.isName (c := '\n') (by decide)
    have hlineFeed : '\n' ∉ ("type " ++ r.name ++ " struct \x7b").toList := by simp [hname]
    rw [codeLines_of_line hlineFeed, if_neg (by simp [isComment])]
  have hend : codeLines "\x7d" = ["\x7d".toList] := codeLines_of_line (by decide)
  have hfields : ∀ nameWidth typeWidth,
      (r.fields.map (fieldLine nameWidth typeWidth)).flatMap codeLines =
        r.fields.map fun f => (fieldLine nameWidth typeWidth f).toList := by
    intro nameWidth typeWidth
    rw [List.flatMap_map, List.map_eq_flatMap]
    exact List.flatMap_congr fun f hf => codeLines_fieldLine (hr.fields f hf) nameWidth typeWidth
  simp [recordCode, htype, hend, hfields]

/-! ### Records -/

lemma recordCode_withoutDescriptions (r : Record) :
    recordCode r.withoutDescriptions = recordCode r := by
  simp only [recordCode, Record.withoutDescriptions, List.map_map, Function.comp_def,
    fieldLine_withoutDescription]
  rfl

lemma recordCode_append_inj {r s : Record} (hr : r.UsesWords) (hs : s.UsesWords)
    {more more' : List String} (h : recordCode r ++ more = recordCode s ++ more') :
    r.withoutDescriptions = s.withoutDescriptions ∧ more = more' := by
  simp only [recordCode, List.cons_append, List.append_assoc, List.cons.injEq] at h
  obtain ⟨htype, hlines⟩ := h
  have hname : r.name = s.name := by simpa using htype
  have hend : ∀ (t : Record) nameWidth typeWidth,
      "\x7d" ∉ t.fields.map (fieldLine nameWidth typeWidth) := by
    intro t nameWidth typeWidth hmem
    obtain ⟨f, -, hline⟩ := List.mem_map.mp hmem
    have hchars := congrArg String.toList hline
    rw [toList_fieldLine] at hchars
    simp at hchars
  obtain ⟨hfields, rfl⟩ := append_cons_inj (hend r _ _) (hend s _ _) hlines
  refine ⟨?_, rfl⟩
  rw [Record.withoutDescriptions, Record.withoutDescriptions, hname,
    map_fieldLine_inj hr.fields hs.fields hfields]

/-- The lines of some records, with an empty one before each. -/
def recordsCode (rs : List Record) : List String :=
  rs.flatMap fun r => "" :: recordCode r

lemma recordsCode_inj {rs ss : List Record} (hrs : ∀ r ∈ rs, r.UsesWords)
    (hss : ∀ s ∈ ss, s.UsesWords) (h : recordsCode rs = recordsCode ss) :
    rs.map Record.withoutDescriptions = ss.map Record.withoutDescriptions := by
  induction rs generalizing ss with
  | nil =>
    cases ss with
    | nil => rfl
    | cons s ss => simp [recordsCode] at h
  | cons r rs ih =>
    cases ss with
    | nil => simp [recordsCode] at h
    | cons s ss =>
      rw [List.forall_mem_cons] at hrs hss
      rw [recordsCode, recordsCode, List.flatMap_cons, List.flatMap_cons, List.cons_append,
        List.cons_append, List.cons.injEq] at h
      obtain ⟨hrecord, hrest⟩ := recordCode_append_inj hrs.1 hss.1 h.2
      rw [List.map_cons, List.map_cons, hrecord, ih hrs.2 hss.2 hrest]

lemma recordsCode_withoutDescriptions (rs : List Record) :
    recordsCode (rs.map Record.withoutDescriptions) = recordsCode rs := by
  simp [recordsCode, List.flatMap_map, recordCode_withoutDescriptions]

/-- The lines of a file before its records. -/
def headLines (package : String) : List String :=
  ["// Code generated by tfvar-gen. DO NOT EDIT.", "", "package " ++ package]

/-- The lines of a file that are no comments, whatever the names in it are. -/
lemma codeLines_fileText_eq (package : String) (rs : List Record) :
    codeLines (fileText package rs) =
      (headLines package).flatMap codeLines ++ (recordsCode rs).flatMap codeLines ++ [[]] := by
  have hrecords : (rs.flatMap fun r => "" :: recordLines r).flatMap codeLines =
      (recordsCode rs).flatMap codeLines := by
    rw [recordsCode, List.flatMap_assoc, List.flatMap_assoc]
    refine List.flatMap_congr fun r hr => ?_
    rw [List.flatMap_cons, List.flatMap_cons, flatMap_codeLines_recordLines]
  rw [fileText, codeLines_joinLines, fileLines, List.flatMap_append, hrecords]
  rfl

lemma codeLines_fileText {rs : List Record} (hrs : ∀ r ∈ rs, r.UsesWords) (package : String) :
    codeLines (fileText package rs) =
      (headLines package).flatMap codeLines ++ (recordsCode rs).map String.toList ++ [[]] := by
  have hrecords : (recordsCode rs).flatMap codeLines = (recordsCode rs).map String.toList := by
    have hempty : codeLines "" = [[]] := codeLines_of_line (by simp)
    rw [recordsCode, List.flatMap_assoc, List.map_flatMap]
    refine List.flatMap_congr fun r hr => ?_
    rw [List.flatMap_cons, hempty, codeLines_recordCode (hrs r hr), List.map_cons]
    rfl
  rw [codeLines_fileText_eq, hrecords]

/-- Two files of a package are the same but for their comments just when their records are the same
but for their descriptions. -/
theorem withoutComments_fileText_iff (package : String) {rs ss : List Record}
    (hrs : ∀ r ∈ rs, r.UsesWords) (hss : ∀ s ∈ ss, s.UsesWords) :
    withoutComments (fileText package rs) = withoutComments (fileText package ss) ↔
      rs.map Record.withoutDescriptions = ss.map Record.withoutDescriptions := by
  rw [withoutComments_inj (by simp [codeLines_fileText hrs]) (by simp [codeLines_fileText hss]),
    codeLines_fileText hrs, codeLines_fileText hss]
  constructor
  · intro h
    have hchars := List.append_cancel_left (List.append_cancel_right h)
    have hlines : recordsCode rs = recordsCode ss :=
      List.map_injective_iff.mpr (fun _ _ => String.toList_inj.mp) hchars
    exact recordsCode_inj hrs hss hlines
  · intro h
    rw [← recordsCode_withoutDescriptions rs, h, recordsCode_withoutDescriptions]

/-- Three files that declare one field, two of them with the same type. -/
theorem withoutComments_fileText_iff_rules :
    let file := fun description type => withoutComments (fileText "modules"
      [⟨"Bus", [⟨"Rules", description, type, [("json", "rules"), ("hcl", "rules")]⟩]⟩])
    file "Rules of the bus.\nIn order." (.list (.record "BusRules")) =
        file "" (.list (.record "BusRules")) ∧
      file "" (.list (.record "BusRules")) ≠ file "" (.map (.record "BusRules")) := by
  constructor
  · exact (withoutComments_fileText_iff "modules" (by decide) (by decide)).mpr (by decide)
  · exact (withoutComments_fileText_iff "modules" (by decide) (by decide)).not.mpr (by decide)

end Go

end ModuleBindings
