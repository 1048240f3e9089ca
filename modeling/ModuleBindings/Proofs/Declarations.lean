import Mathlib.Data.List.Induction
import Mathlib.Data.List.Nodup
import Mathlib.Tactic.SplitIfs
import ModuleBindings.Module.LoadError
import ModuleBindings.Proofs.Except
import ModuleBindings.Proofs.Slices

/-!
# What configuration files declare

The files of a module declare one variable for each `variable` block at the top of one of them. All
of them are read as one sequence of blocks, in which no label comes twice. What is wrong first, in
the order of the files and of the blocks in them, is what is reported.

How a text is parsed does not matter here. A parser tells the ranges of values, and what is read of
a value is what its file holds there.
-/

namespace ModuleBindings

open Hcl (Structure Body Value)
open Proofs
open Text (ByteRange StandsAt IsTrimmed)

/-- A `variable` block at the top of a file. -/
structure VariableBlock where
  /-- The text of the file. -/
  text : String
  labels : List String
  body : Body

namespace Configuration

/-- The source of a value in a text, blanks around it apart: what stands at its range or, where no
range is known or nothing can stand there, what it is written out as. -/
inductive IsSource (text : String) (value : Value) : String → Prop
  | sliced {range : ByteRange} {slice source : String} : value.range = some range →
    StandsAt text slice range → IsTrimmed slice source → IsSource text value source
  | encoded {source : String} :
    (∀ range slice, value.range = some range → ¬ StandsAt text slice range) →
      IsTrimmed value.encoded source → IsSource text value source

end Configuration

namespace VariableBlock

def ofStructure? (text : String) : Structure → Option VariableBlock
  | .block name labels body => if name = "variable" then some ⟨text, labels, body⟩ else none
  | .attribute _ _ => none

/-- The value of an attribute of this name. -/
def value? (name : String) : Structure → Option Value
  | .attribute n value => if n = name then some value else none
  | .block _ _ _ => none

/-- The values of the attributes of one name. Blocks inside the block have attributes of their
own. -/
def values (b : VariableBlock) (name : String) : List Value :=
  b.body.filterMap (value? name)

def source (b : VariableBlock) : Value → String :=
  Configuration.sourceText b.text

/-- The last type that is given, unless it is blank. -/
def type (b : VariableBlock) : String :=
  match (b.values "type").getLast? with
  | some value => if b.source value = "" then "any" else b.source value
  | none => "any"

/-- The last description that is given. -/
def description (b : VariableBlock) : String :=
  ((b.values "description").getLast?.map fun value => value.plain.getD (b.source value)).getD ""

/-- The variable that is declared in a module. -/
def toVariable (module : String) (b : VariableBlock) (label : String) : ModuleVariable where
  name := label
  source := ⟨module ++ "." ++ label, b.type⟩
  description := b.description
  required := (b.values "default").isEmpty

/-- Why a block declares no variable behind blocks with the labels in `taken`. -/
inductive IsRefused (taken : List String) (b : VariableBlock) : ConfigurationFault → Prop
  | labelCount : (∀ label, b.labels ≠ [label]) → IsRefused taken b .labelCount
  | declaredTwice {label : String} :
    b.labels = [label] → label ∈ taken → IsRefused taken b (.declaredTwice label)

section Refusals

variable {taken : List String} {b : VariableBlock} {label : String} {fault : ConfigurationFault}

lemma isRefused_iff_of_labels (h : b.labels = [label]) :
    b.IsRefused taken fault ↔ label ∈ taken ∧ fault = .declaredTwice label := by
  constructor
  · rintro (hlabel | ⟨hlabel, htaken⟩)
    · exact absurd h (hlabel label)
    · obtain ⟨rfl⟩ : [_] = [label] := hlabel.symm.trans h
      exact ⟨htaken, rfl⟩
  · rintro ⟨htaken, rfl⟩
    exact .declaredTwice h htaken

lemma isRefused_iff_of_not_labelled (h : ∀ label, b.labels ≠ [label]) :
    b.IsRefused taken fault ↔ fault = .labelCount := by
  constructor
  · rintro (- | ⟨hlabel, -⟩)
    · rfl
    · exact absurd hlabel (h _)
  · rintro rfl
    exact .labelCount h

end Refusals

end VariableBlock

namespace Configuration

/-- Blocks with one label each, all of them new. -/
structure AreNew (taken : List String) (bs : List VariableBlock) : Prop where
  labelled : ∀ b ∈ bs, ∃ label, b.labels = [label]
  distinct : (bs.flatMap VariableBlock.labels).Nodup
  fresh : ∀ label ∈ bs.flatMap VariableBlock.labels, label ∉ taken

def variableBlocks (text : String) (body : Body) : List VariableBlock :=
  body.filterMap (VariableBlock.ofStructure? text)

/-- The blocks of all files, which are given by their paths and texts. -/
def blocksOf (parse? : Hcl.Parser) (files : List (String × String)) : List VariableBlock :=
  files.flatMap fun file => variableBlocks file.2 ((parse? file.2).getD [])

/-- The fault is that of the first block that is refused, behind blocks with the labels in
`taken`. -/
def IsRefusal (taken : List String) (bs : List VariableBlock) (fault : ConfigurationFault) : Prop :=
  ∃ before b after, bs = before ++ b :: after ∧ AreNew taken before ∧
    b.IsRefused (taken ++ before.flatMap VariableBlock.labels) fault

/-- What is wrong with the text of a file first, behind blocks with the labels in `taken`. -/
inductive IsFault (parse? : Hcl.Parser) (taken : List String) (text : String) :
    ConfigurationFault → Prop
  | syntaxError : parse? text = none → IsFault parse? taken text .syntaxError
  | refusal {body : Body} {fault : ConfigurationFault} :
    parse? text = some body → IsRefusal taken (variableBlocks text body) fault →
      IsFault parse? taken text fault

/-- The first file that is at fault, behind files that are not. -/
def IsFirstFault (parse? : Hcl.Parser) (taken : List String) (files : List (String × String))
    (e : String × ConfigurationFault) : Prop :=
  ∃ before file after, files = before ++ file :: after ∧
    (∀ f ∈ before, (parse? f.2).isSome) ∧ AreNew taken (blocksOf parse? before) ∧
      e.1 = file.1 ∧
        IsFault parse? (taken ++ (blocksOf parse? before).flatMap VariableBlock.labels) file.2 e.2

variable {taken : List String} {b : VariableBlock} {bs cs : List VariableBlock} {body : Body}
  {done all : List (String × Declaration)} {fault : ConfigurationFault}

lemma areNew_nil : AreNew taken [] :=
  ⟨by simp, List.nodup_nil, by simp⟩

lemma areNew_cons_iff :
    AreNew taken (b :: bs) ↔
      ∃ label, b.labels = [label] ∧ label ∉ taken ∧ AreNew (taken ++ [label]) bs := by
  constructor
  · rintro ⟨hlabelled, hdistinct, hfresh⟩
    obtain ⟨⟨label, hlabel⟩, hlabelled⟩ := List.forall_mem_cons.mp hlabelled
    rw [List.flatMap_cons, hlabel, List.singleton_append] at hdistinct hfresh
    obtain ⟨hlabel', hdistinct⟩ := List.nodup_cons.mp hdistinct
    obtain ⟨hnew, hfresh⟩ := List.forall_mem_cons.mp hfresh
    refine ⟨label, hlabel, hnew, hlabelled, hdistinct, fun other hother => ?_⟩
    rw [List.mem_append, List.mem_singleton, not_or]
    refine ⟨hfresh other hother, ?_⟩
    rintro rfl
    exact hlabel' hother
  · rintro ⟨label, hlabel, hnew, hlabelled, hdistinct, hfresh⟩
    refine ⟨List.forall_mem_cons.mpr ⟨⟨label, hlabel⟩, hlabelled⟩, ?_, ?_⟩
    · rw [List.flatMap_cons, hlabel, List.singleton_append, List.nodup_cons]
      exact ⟨fun hmem => hfresh label hmem (by simp), hdistinct⟩
    · rw [List.flatMap_cons, hlabel, List.singleton_append, List.forall_mem_cons]
      exact ⟨hnew, fun other hother hmem => hfresh other hother (List.mem_append_left _ hmem)⟩

lemma areNew_cons_of_labels {label : String} (h : b.labels = [label]) :
    AreNew taken (b :: bs) ↔ label ∉ taken ∧ AreNew (taken ++ [label]) bs := by
  rw [areNew_cons_iff, h]
  constructor
  · rintro ⟨_, ⟨⟩, hnew⟩
    exact hnew
  · intro hnew
    exact ⟨label, rfl, hnew⟩

lemma areNew_append_iff :
    AreNew taken (bs ++ cs) ↔
      AreNew taken bs ∧ AreNew (taken ++ bs.flatMap VariableBlock.labels) cs := by
  induction bs generalizing taken with
  | nil => simp [areNew_nil]
  | cons b bs ih =>
    rw [List.cons_append, areNew_cons_iff, areNew_cons_iff, List.flatMap_cons]
    constructor
    · rintro ⟨label, hlabel, hnew, hrest⟩
      obtain ⟨hbs, hcs⟩ := ih.mp hrest
      rw [hlabel, ← List.append_assoc]
      exact ⟨⟨label, rfl, hnew, hbs⟩, hcs⟩
    · rintro ⟨⟨label, hlabel, hnew, hbs⟩, hcs⟩
      rw [hlabel, ← List.append_assoc] at hcs
      exact ⟨label, hlabel, hnew, ih.mpr ⟨hbs, hcs⟩⟩

lemma not_isRefusal_nil : ¬ IsRefusal taken [] fault := by
  rintro ⟨before, b, after, h, -⟩
  simp at h

lemma isRefusal_cons_iff :
    IsRefusal taken (b :: bs) fault ↔
      b.IsRefused taken fault ∨
        ∃ label, b.labels = [label] ∧ label ∉ taken ∧ IsRefusal (taken ++ [label]) bs fault := by
  constructor
  · rintro ⟨before, refused, after, hsplit, hbefore, hrefused⟩
    cases before with
    | nil =>
      obtain ⟨rfl, -⟩ := List.cons.inj hsplit
      exact .inl (by simpa using hrefused)
    | cons first before =>
      obtain ⟨rfl, hbs⟩ := List.cons.inj hsplit
      obtain ⟨label, hlabel, hnew, hbefore⟩ := areNew_cons_iff.mp hbefore
      rw [List.flatMap_cons, hlabel, ← List.append_assoc] at hrefused
      exact .inr ⟨label, hlabel, hnew, before, refused, after, hbs, hbefore, hrefused⟩
  · rintro (hrefused | ⟨label, hlabel, hnew, before, refused, after, rfl, hbefore, hrefused⟩)
    · exact ⟨[], b, bs, rfl, areNew_nil, by simpa using hrefused⟩
    · refine ⟨b :: before, refused, after, rfl, areNew_cons_iff.mpr ⟨label, hlabel, hnew, hbefore⟩,
        ?_⟩
      rw [List.flatMap_cons, hlabel, ← List.append_assoc]
      exact hrefused

lemma isRefusal_cons_of_labels {label : String} (h : b.labels = [label]) :
    IsRefusal taken (b :: bs) fault ↔
      label ∈ taken ∧ fault = .declaredTwice label ∨
        label ∉ taken ∧ IsRefusal (taken ++ [label]) bs fault := by
  rw [isRefusal_cons_iff, VariableBlock.isRefused_iff_of_labels h, h]
  refine or_congr_right ⟨?_, fun hrest => ⟨label, rfl, hrest⟩⟩
  rintro ⟨_, ⟨⟩, hrest⟩
  exact hrest

lemma isSource_iff {text source : String} {value : Value} :
    IsSource text value source ↔ source = sourceText text value := by
  rw [sourceText]
  constructor
  · rintro (⟨hrange, hslice, htrim⟩ | ⟨hnone, htrim⟩)
    · rw [hrange, Option.bind_some, Text.slice?_eq_some_iff.mpr hslice]
      exact Text.isTrimmed_iff.mp htrim
    · have hslice : value.range.bind (Text.slice? text) = none := by
        rw [Option.eq_none_iff_forall_ne_some]
        intro slice hslice
        obtain ⟨range, hrange, hstands⟩ := Option.bind_eq_some_iff.mp hslice
        exact hnone range slice hrange (Text.slice?_eq_some_iff.mp hstands)
      rw [hslice]
      exact Text.isTrimmed_iff.mp htrim
  · rintro rfl
    cases hslice : value.range.bind (Text.slice? text) with
    | none =>
      refine .encoded ?_ (Text.isTrimmed_trim _)
      intro range slice hrange hstands
      rw [hrange, Option.bind_some, Text.slice?_eq_some_iff.mpr hstands] at hslice
      cases hslice
    | some slice =>
      obtain ⟨range, hrange, hstands⟩ := Option.bind_eq_some_iff.mp hslice
      exact .sliced hrange (Text.slice?_eq_some_iff.mp hstands) (Text.isTrimmed_trim _)

lemma declaration_concat (text : String) (body : Body) (s : Structure) :
    declaration text (body ++ [s]) = readMember text (declaration text body) s := by
  rw [declaration, declaration, List.foldl_append]
  rfl

/-- The last attribute of each name counts. -/
lemma declaration_eq (b : VariableBlock) :
    declaration b.text b.body =
      { type := (b.values "type").getLast?.map b.source
        description := b.description
        hasDefault := false
        required := some (b.values "default").isEmpty } := by
  obtain ⟨text, labels, body⟩ := b
  simp only [VariableBlock.description, VariableBlock.values, VariableBlock.source]
  induction body using List.reverseRecOn with
  | nil => rfl
  | append_singleton body s ih =>
    rw [declaration_concat, ih]
    simp only [List.filterMap_append, List.filterMap_cons, List.filterMap_nil]
    rcases s with ⟨name, value⟩ | ⟨name, labels, inner⟩
    · rw [readMember]
      split_ifs with htype hdescription hdefault
      · simp [VariableBlock.value?, htype]
      · simp [VariableBlock.value?, hdescription]
      · simp [VariableBlock.value?, hdefault]
      · simp [VariableBlock.value?, htype, hdescription, hdefault]
    · simp [readMember, VariableBlock.value?]

/-- What is read of a block, under each of its labels. -/
def declarationsOf (bs : List VariableBlock) : List (String × Declaration) :=
  bs.flatMap fun b => b.labels.map (·, declaration b.text b.body)

lemma map_fst_declarationsOf (bs : List VariableBlock) :
    (declarationsOf bs).map Prod.fst = bs.flatMap VariableBlock.labels := by
  simp [declarationsOf, List.map_flatMap, Function.comp_def]

lemma declarationsOf_cons {label : String} (h : b.labels = [label]) (bs : List VariableBlock) :
    declarationsOf (b :: bs) = (label, declaration b.text b.body) :: declarationsOf bs := by
  simp [declarationsOf, h]

section Bodies

variable {text : String} {s : Structure}

lemma readBody_cons_of_none (h : VariableBlock.ofStructure? text s = none) :
    readBody text done (s :: body) = readBody text done body := by
  rcases s with ⟨name, value⟩ | ⟨name, labels, inner⟩
  · rfl
  · have hname : name ≠ "variable" := by
      rintro rfl
      simp [VariableBlock.ofStructure?] at h
    rw [readBody]
    rintro _ _ ⟨⟩
    exact hname rfl

lemma eq_block_of_ofStructure? (h : VariableBlock.ofStructure? text s = some b) :
    s = .block "variable" b.labels b.body ∧ b.text = text := by
  rcases s with ⟨name, value⟩ | ⟨name, labels, inner⟩
  · cases h
  · rw [VariableBlock.ofStructure?] at h
    split_ifs at h with hname
    cases h
    exact ⟨by rw [hname], rfl⟩

lemma readBody_cons_of_labelled {label : String} (h : VariableBlock.ofStructure? text s = some b)
    (hlabel : b.labels = [label]) :
    readBody text done (s :: body) =
      if label ∈ done.map Prod.fst then .error (.declaredTwice label)
      else readBody text (done ++ [(label, declaration b.text b.body)]) body := by
  have hany : (done.any fun d => decide (d.1 = label)) = decide (label ∈ done.map Prod.fst) := by
    rw [Bool.eq_iff_iff, List.any_eq_true, decide_eq_true_eq, List.mem_map]
    simp only [decide_eq_true_eq]
  obtain ⟨rfl, htext⟩ := eq_block_of_ofStructure? h
  rw [hlabel, readBody, hany, htext]
  simp only [decide_eq_true_eq]

lemma readBody_cons_of_not_labelled (h : VariableBlock.ofStructure? text s = some b)
    (hlabel : ∀ label, b.labels ≠ [label]) :
    readBody text done (s :: body) = .error .labelCount := by
  obtain ⟨rfl, -⟩ := eq_block_of_ofStructure? h
  rw [readBody]
  exact hlabel

lemma variableBlocks_cons (text : String) (s : Structure) (body : Body) :
    variableBlocks text (s :: body) =
      (VariableBlock.ofStructure? text s).toList ++ variableBlocks text body := by
  rw [variableBlocks, variableBlocks, List.filterMap_cons]
  cases VariableBlock.ofStructure? text s <;> rfl

lemma readBody_eq_ok_iff :
    readBody text done body = .ok all ↔
      AreNew (done.map Prod.fst) (variableBlocks text body) ∧
        all = done ++ declarationsOf (variableBlocks text body) := by
  induction body generalizing done with
  | nil =>
    rw [readBody, Except.ok.injEq, eq_comm]
    simp [variableBlocks, declarationsOf, areNew_nil]
  | cons s body ih =>
    rw [variableBlocks_cons]
    cases hs : VariableBlock.ofStructure? text s with
    | none =>
      rw [readBody_cons_of_none hs, ih]
      rfl
    | some b =>
      rw [Option.toList_some, List.singleton_append]
      by_cases hlabel : ∃ label, b.labels = [label]
      · obtain ⟨label, hlabel⟩ := hlabel
        rw [readBody_cons_of_labelled hs hlabel, areNew_cons_of_labels hlabel,
          declarationsOf_cons hlabel]
        split_ifs with htaken
        · simp only [htaken, not_true_eq_false, false_and]
        · rw [ih, List.map_append, List.append_assoc]
          simp only [htaken, not_false_eq_true, true_and, List.map_singleton, List.singleton_append]
      · rw [readBody_cons_of_not_labelled hs (not_exists.mp hlabel)]
        refine ⟨nofun, fun h => ?_⟩
        exact absurd (h.1.labelled b List.mem_cons_self) hlabel

lemma readBody_eq_error_iff :
    readBody text done body = .error fault ↔
      IsRefusal (done.map Prod.fst) (variableBlocks text body) fault := by
  induction body generalizing done with
  | nil => exact ⟨nofun, fun h => absurd h not_isRefusal_nil⟩
  | cons s body ih =>
    rw [variableBlocks_cons]
    cases hs : VariableBlock.ofStructure? text s with
    | none =>
      rw [readBody_cons_of_none hs, ih]
      rfl
    | some b =>
      rw [Option.toList_some, List.singleton_append]
      by_cases hlabel : ∃ label, b.labels = [label]
      · obtain ⟨label, hlabel⟩ := hlabel
        rw [readBody_cons_of_labelled hs hlabel, isRefusal_cons_of_labels hlabel]
        split_ifs with htaken
        · rw [Except.error.injEq, eq_comm]
          simp only [htaken, true_and, not_true_eq_false, false_and, or_false]
        · rw [ih, List.map_append]
          simp only [htaken, false_and, false_or, not_false_eq_true, true_and, List.map_singleton]
      · rw [readBody_cons_of_not_labelled hs (not_exists.mp hlabel), isRefusal_cons_iff,
          VariableBlock.isRefused_iff_of_not_labelled (not_exists.mp hlabel), Except.error.injEq,
          eq_comm]
        refine ⟨.inl, ?_⟩
        rintro (hfault | ⟨label, h, -⟩)
        · exact hfault
        · exact absurd ⟨label, h⟩ hlabel

end Bodies

section Files

variable {parse? : Hcl.Parser} {file : String × String} {files : List (String × String)}
  {e : String × ConfigurationFault}

lemma blocksOf_cons_of_parse? (h : parse? file.2 = some body) :
    blocksOf parse? (file :: files) = variableBlocks file.2 body ++ blocksOf parse? files := by
  simp [blocksOf, h]

lemma declarationsOf_append (bs cs : List VariableBlock) :
    declarationsOf (bs ++ cs) = declarationsOf bs ++ declarationsOf cs :=
  List.flatMap_append

lemma map_fst_append_declarationsOf :
    (done ++ declarationsOf bs).map Prod.fst =
      done.map Prod.fst ++ bs.flatMap VariableBlock.labels := by
  rw [List.map_append, map_fst_declarationsOf]

lemma readFiles_cons_eq_ok_iff :
    readFiles parse? done (file :: files) = .ok all ↔
      ∃ body, parse? file.2 = some body ∧ AreNew (done.map Prod.fst) (variableBlocks file.2 body) ∧
        readFiles parse? (done ++ declarationsOf (variableBlocks file.2 body)) files = .ok all := by
  obtain ⟨path, text⟩ := file
  rw [readFiles]
  cases parse? text with
  | none => simp
  | some body =>
    simp only [Option.some.injEq, exists_eq_left']
    cases hbody : readBody text done body with
    | error fault =>
      refine ⟨nofun, fun ⟨hnew, _⟩ => ?_⟩
      simp [readBody_eq_ok_iff.mpr ⟨hnew, rfl⟩] at hbody
    | ok done' =>
      obtain ⟨hnew, rfl⟩ := readBody_eq_ok_iff.mp hbody
      simp only [hnew, true_and]

lemma isFault_iff_of_none {text : String} (h : parse? text = none) :
    IsFault parse? taken text fault ↔ fault = .syntaxError := by
  constructor
  · rintro (- | ⟨hparse, -⟩)
    · rfl
    · simp [h] at hparse
  · rintro rfl
    exact .syntaxError h

lemma isFault_iff_of_some {text : String} (h : parse? text = some body) :
    IsFault parse? taken text fault ↔ IsRefusal taken (variableBlocks text body) fault := by
  constructor
  · rintro (hparse | ⟨hparse, hrefusal⟩)
    · simp [h] at hparse
    · obtain rfl := Option.some.inj (h.symm.trans hparse)
      exact hrefusal
  · exact .refusal h

lemma readFiles_cons_eq_error_iff :
    readFiles parse? done (file :: files) = .error e ↔
      e.1 = file.1 ∧ IsFault parse? (done.map Prod.fst) file.2 e.2 ∨
        ∃ body, parse? file.2 = some body ∧
          AreNew (done.map Prod.fst) (variableBlocks file.2 body) ∧
            readFiles parse? (done ++ declarationsOf (variableBlocks file.2 body)) files =
              .error e := by
  obtain ⟨path, text⟩ := file
  obtain ⟨at', fault⟩ := e
  rw [readFiles]
  cases hparse : parse? text with
  | none => simp [isFault_iff_of_none hparse, eq_comm]
  | some body =>
    rw [isFault_iff_of_some hparse, ← readBody_eq_error_iff]
    simp only [Option.some.injEq, exists_eq_left']
    cases hbody : readBody text done body with
    | error fault' =>
      have hnot : ¬ AreNew (done.map Prod.fst) (variableBlocks text body) := fun hnew => by
        simp [readBody_eq_ok_iff.mpr ⟨hnew, rfl⟩] at hbody
      simp [hnot, eq_comm]
    | ok done' =>
      obtain ⟨hnew, rfl⟩ := readBody_eq_ok_iff.mp hbody
      simp [hnew]

lemma not_isFirstFault_nil : ¬ IsFirstFault parse? taken [] e := by
  rintro ⟨before, file, after, h, -⟩
  simp at h

lemma isFirstFault_cons_iff :
    IsFirstFault parse? taken (file :: files) e ↔
      e.1 = file.1 ∧ IsFault parse? taken file.2 e.2 ∨
        ∃ body, parse? file.2 = some body ∧ AreNew taken (variableBlocks file.2 body) ∧
          IsFirstFault parse? (taken ++ (variableBlocks file.2 body).flatMap VariableBlock.labels)
            files e := by
  constructor
  · rintro ⟨before, faulty, after, hsplit, hparses, hnew, hpath, hfault⟩
    cases before with
    | nil =>
      obtain ⟨rfl, -⟩ := List.cons.inj hsplit
      exact .inl ⟨hpath, by simpa [blocksOf] using hfault⟩
    | cons first before =>
      obtain ⟨rfl, hfiles⟩ := List.cons.inj hsplit
      obtain ⟨hparse, hparses⟩ := List.forall_mem_cons.mp hparses
      obtain ⟨body, hparse⟩ := Option.isSome_iff_exists.mp hparse
      rw [blocksOf_cons_of_parse? hparse] at hnew hfault
      obtain ⟨hbody, hnew⟩ := areNew_append_iff.mp hnew
      rw [List.flatMap_append, ← List.append_assoc] at hfault
      exact .inr ⟨body, hparse, hbody, before, faulty, after, hfiles, hparses, hnew, hpath, hfault⟩
  · rintro (⟨hpath, hfault⟩ |
      ⟨body, hparse, hbody, before, faulty, after, rfl, hparses, hnew, hpath, hfault⟩)
    · exact ⟨[], file, files, rfl, by simp, areNew_nil, hpath, by simpa [blocksOf] using hfault⟩
    · refine ⟨file :: before, faulty, after, rfl, List.forall_mem_cons.mpr ⟨?_, hparses⟩, ?_, hpath,
        ?_⟩
      · exact Option.isSome_iff_exists.mpr ⟨body, hparse⟩
      · rw [blocksOf_cons_of_parse? hparse]
        exact areNew_append_iff.mpr ⟨hbody, hnew⟩
      · rw [blocksOf_cons_of_parse? hparse, List.flatMap_append, ← List.append_assoc]
        exact hfault

lemma readFiles_eq_ok_iff :
    readFiles parse? done files = .ok all ↔
      (∀ file ∈ files, (parse? file.2).isSome) ∧
        AreNew (done.map Prod.fst) (blocksOf parse? files) ∧
          all = done ++ declarationsOf (blocksOf parse? files) := by
  induction files generalizing done with
  | nil =>
    rw [readFiles, Except.ok.injEq, eq_comm]
    simp [blocksOf, declarationsOf, areNew_nil]
  | cons file files ih =>
    rw [readFiles_cons_eq_ok_iff, List.forall_mem_cons, Option.isSome_iff_exists]
    constructor
    · rintro ⟨body, hparse, hbody, hfiles⟩
      obtain ⟨hparses, hnew, rfl⟩ := ih.mp hfiles
      rw [map_fst_append_declarationsOf] at hnew
      rw [blocksOf_cons_of_parse? hparse, areNew_append_iff, declarationsOf_append,
        List.append_assoc]
      exact ⟨⟨⟨body, hparse⟩, hparses⟩, ⟨hbody, hnew⟩, rfl⟩
    · rintro ⟨⟨⟨body, hparse⟩, hparses⟩, hnew, rfl⟩
      rw [blocksOf_cons_of_parse? hparse, areNew_append_iff] at hnew
      refine ⟨body, hparse, hnew.1, ih.mpr ⟨hparses, ?_, ?_⟩⟩
      · rw [map_fst_append_declarationsOf]
        exact hnew.2
      · rw [blocksOf_cons_of_parse? hparse, declarationsOf_append, List.append_assoc]

lemma readFiles_eq_error_iff :
    readFiles parse? done files = .error e ↔ IsFirstFault parse? (done.map Prod.fst) files e := by
  induction files generalizing done with
  | nil => exact ⟨nofun, fun h => absurd h not_isFirstFault_nil⟩
  | cons file files ih =>
    rw [readFiles_cons_eq_error_iff, isFirstFault_cons_iff]
    simp only [ih, map_fst_append_declarationsOf]

end Files

lemma areNew_nil_iff :
    AreNew [] bs ↔
      (∀ b ∈ bs, ∃ label, b.labels = [label]) ∧ (bs.flatMap VariableBlock.labels).Nodup := by
  constructor
  · rintro ⟨hlabelled, hdistinct, -⟩
    exact ⟨hlabelled, hdistinct⟩
  · rintro ⟨hlabelled, hdistinct⟩
    exact ⟨hlabelled, hdistinct, fun _ _ => List.not_mem_nil⟩

lemma toVariable_declaration (b : VariableBlock) (module label : String) :
    (declaration b.text b.body).toVariable module label = b.toVariable module label := by
  rw [declaration_eq, Declaration.toVariable, VariableBlock.toVariable, Declaration.constraintText,
    Declaration.isRequired, VariableBlock.type]
  cases (b.values "type").getLast? with
  | none => rfl
  | some value =>
    have htype : (if (Text.trimChars (b.source value).toList).isEmpty then "any"
        else b.source value) = if b.source value = "" then "any" else b.source value :=
      if_congr Text.isEmpty_trimChars_trim_iff rfl rfl
    rw [Option.map_some]
    dsimp only
    rw [htype]
    rfl

end Configuration

namespace Module

open ModuleBindings.Configuration

section Results

variable {parse? : Hcl.Parser} {name : String} {files : List (String × String)}

lemma ofConfigurationBy_eq_ok_iff {m : Module} :
    ofConfigurationBy parse? name files = .ok m ↔
      ∃ all, readFiles parse? [] files = .ok all ∧ m = ofDeclarations name all := by
  rw [ofConfigurationBy, toModule]
  cases readFiles parse? [] files with
  | error fault => simp [Bind.bind, Except.bind]
  | ok all => simp [Bind.bind, Except.bind, Pure.pure, Except.pure, eq_comm]

lemma ofConfigurationBy_eq_error_iff {e : LoadError} :
    ofConfigurationBy parse? name files = .error e ↔
      ∃ fault, e.fault = .badConfiguration fault ∧
        readFiles parse? [] files = .error (e.path, fault) := by
  obtain ⟨path, reason⟩ := e
  rw [ofConfigurationBy, toModule]
  cases readFiles parse? [] files with
  | error fault =>
    constructor
    · rintro ⟨⟩
      exact ⟨_, rfl, rfl⟩
    · rintro ⟨_, rfl, ⟨⟩⟩
      rfl
  | ok all => simp [Bind.bind, Except.bind, Pure.pure, Except.pure]

lemma ofDeclarations_declarationsOf (bs : List VariableBlock) :
    ofDeclarations name (declarationsOf bs) =
      ⟨name, bs.flatMap fun b => b.labels.map (b.toVariable name)⟩ := by
  rw [ofDeclarations, declarationsOf, List.map_flatMap]
  congr 1
  refine List.flatMap_congr fun b _ => ?_
  rw [List.map_map]
  exact List.map_congr_left fun label _ => toVariable_declaration b name label

end Results

/-- A module has one variable for each `variable` block at the top of its files, as long as every
file can be parsed and each of these blocks has one label that no other has. Else the first file
that is at fault is reported. What is read of a value is what the file holds at its range. -/
theorem ofConfiguration_collects_variables (parse? : Hcl.Parser) (name : String)
    (files : List (String × String)) :
    ofConfigurationBy Hcl.parse? = ofConfiguration ∧
    (∀ m, ofConfigurationBy parse? name files = .ok m ↔
      (∀ file ∈ files, (parse? file.2).isSome) ∧
        (∀ b ∈ blocksOf parse? files, ∃ label, b.labels = [label]) ∧
          ((blocksOf parse? files).flatMap VariableBlock.labels).Nodup ∧
            m = ⟨name, (blocksOf parse? files).flatMap fun b => b.labels.map (b.toVariable name)⟩) ∧
    (∀ e, ofConfigurationBy parse? name files = .error e ↔
      ∃ fault, e.fault = .badConfiguration fault ∧
        IsFirstFault parse? [] files (e.path, fault)) ∧
    ∀ (b : VariableBlock) value source,
      IsSource b.text value source ↔ source = b.source value := by
  refine ⟨rfl, fun m => ?_, fun e => ?_, fun b value source => isSource_iff⟩
  · simp only [ofConfigurationBy_eq_ok_iff, readFiles_eq_ok_iff]
    constructor
    · rintro ⟨_, ⟨hparses, hnew, rfl⟩, rfl⟩
      obtain ⟨hlabelled, hdistinct⟩ := areNew_nil_iff.mp hnew
      exact ⟨hparses, hlabelled, hdistinct, ofDeclarations_declarationsOf _⟩
    · rintro ⟨hparses, hlabelled, hdistinct, rfl⟩
      exact ⟨_, ⟨hparses, areNew_nil_iff.mpr ⟨hlabelled, hdistinct⟩, rfl⟩,
        (ofDeclarations_declarationsOf _).symm⟩
  · rw [ofConfigurationBy_eq_error_iff]
    simp only [readFiles_eq_error_iff, List.map_nil]

end Module

end ModuleBindings
