import Mathlib.Tactic.Lemma
import Mathlib.Tactic.SplitIfs
import ModuleBindings.CommandLine.Arguments
import ModuleBindings.Proofs.Except

/-!
# Accepted argument lists

An argument list is accepted if it is a command followed by options with their values, and it then
asks for just what these values say. The values come in the order in which they are given, wherever
their options stand.
-/

namespace ModuleBindings.CommandLine

open Proofs (bind_eq_ok pure_eq_ok)

namespace Choice

def longName : Choice → String
  | input => "input"
  | ignore => "ignore"
  | out => "out"
  | package => "package"

def letter? : Choice → Option Char
  | input => some 'i'
  | out => some 'o'
  | ignore | package => none

/-- The argument names an option, and may have a value joined to it. -/
inductive IsNamedBy (choice : Choice) : String → Option String → Prop
  | long : IsNamedBy choice ("--" ++ choice.longName) none
  | longJoined (value : String) :
    IsNamedBy choice ("--" ++ choice.longName ++ "=" ++ value) (some value)
  | letter {c : Char} : choice.letter? = some c → IsNamedBy choice (String.ofList ['-', c]) none
  | letterEquals {c : Char} (value : String) : choice.letter? = some c →
    IsNamedBy choice (String.ofList ['-', c, '='] ++ value) (some value)
  | letterJoined {c : Char} {value : String} : choice.letter? = some c → value ≠ "" →
    value.toList.head? ≠ some '=' → IsNamedBy choice (String.ofList ['-', c] ++ value) (some value)

variable {choice : Choice} {argument value : String} {joined : Option String}

lemma ofLongName?_eq_some_iff {name : String} :
    ofLongName? name = some choice ↔ name = choice.longName := by
  constructor
  · intro h
    rw [ofLongName?.eq_def] at h
    split at h <;> cases h <;> rfl
  · rintro rfl
    cases choice <;> rfl

lemma ofLetter?_eq_some_iff {c : Char} : ofLetter? c = some choice ↔ choice.letter? = some c := by
  constructor
  · intro h
    rw [ofLetter?.eq_def] at h
    split at h <;> cases h <;> rfl
  · intro h
    cases choice <;> cases h <;> rfl

lemma isNamedBy_of_ofArgument? (h : ofArgument? argument = some (choice, joined)) :
    choice.IsNamedBy argument joined := by
  rw [ofArgument?] at h
  split at h
  · next cs hargument =>
    obtain ⟨other, hname, heq⟩ := Option.map_eq_some_iff.mp h
    cases heq
    rw [ofLongName?_eq_some_iff] at hname
    have hsplit := List.takeWhile_append_dropWhile (p := (· ≠ '=')) (l := cs)
    have hchars : cs.takeWhile (· ≠ '=') = choice.longName.toList := by
      rw [← hname, String.toList_ofList]
    rw [hchars] at hsplit
    split
    · next hnil =>
      have harg : argument = "--" ++ choice.longName := by
        apply String.toList_inj.mp
        rw [hargument, ← hsplit, hnil]
        simp
      rw [harg]
      exact .long
    · next c value hrest =>
      have hc : c = '=' := by
        have hhead := List.head?_dropWhile_not (· ≠ '=') cs
        rw [hrest] at hhead
        simpa using hhead
      have harg : argument = "--" ++ choice.longName ++ "=" ++ String.ofList value := by
        apply String.toList_inj.mp
        rw [hargument, ← hsplit, hrest, hc]
        simp
      rw [harg]
      exact .longJoined _
  · next c hargument =>
    obtain ⟨other, hletter, heq⟩ := Option.map_eq_some_iff.mp h
    cases heq
    rw [← String.ofList_toList (s := argument), hargument]
    exact .letter (ofLetter?_eq_some_iff.mp hletter)
  · next c value _ hargument =>
    obtain ⟨other, hletter, heq⟩ := Option.map_eq_some_iff.mp h
    cases heq
    have harg : argument = String.ofList ['-', c, '='] ++ String.ofList value := by
      apply String.toList_inj.mp
      simp [hargument]
    rw [harg]
    exact .letterEquals _ (ofLetter?_eq_some_iff.mp hletter)
  · next c value _ hnil hequals hargument =>
    obtain ⟨other, hletter, heq⟩ := Option.map_eq_some_iff.mp h
    cases heq
    have harg : argument = String.ofList ['-', c] ++ String.ofList value := by
      apply String.toList_inj.mp
      simp [hargument]
    rw [harg]
    refine .letterJoined (ofLetter?_eq_some_iff.mp hletter) ?_ ?_
    · intro hempty
      have hvalue : value = [] := by simpa using hempty
      exact hnil hvalue
    · intro hhead
      obtain ⟨rest, hvalue⟩ := List.head?_eq_some_iff.mp hhead
      rw [String.toList_ofList] at hvalue
      exact hequals rest hvalue
  · cases h

lemma ofArgument?_of_isNamedBy (h : choice.IsNamedBy argument joined) :
    ofArgument? argument = some (choice, joined) := by
  cases h with
  | long => cases choice <;> rfl
  | longJoined value => cases choice <;> simp [ofArgument?, longName, ofLongName?]
  | letter hletter => cases choice <;> cases hletter <;> rfl
  | letterEquals value hletter => cases choice <;> cases hletter <;> simp [ofArgument?, ofLetter?]
  | @letterJoined c value hletter hne hequals =>
    obtain ⟨d, rest, hvalue⟩ := List.exists_cons_of_ne_nil (mt String.toList_eq_nil_iff.mp hne)
    have hd : d ≠ '=' := by simpa [hvalue] using hequals
    obtain rfl : value = String.ofList (d :: rest) := by
      rw [← hvalue, String.ofList_toList]
    cases choice <;> cases hletter <;> simp [ofArgument?, ofLetter?, hd]

lemma ofArgument?_eq_some_iff :
    ofArgument? argument = some (choice, joined) ↔ choice.IsNamedBy argument joined :=
  ⟨isNamedBy_of_ofArgument?, ofArgument?_of_isNamedBy⟩

end Choice

/-- The argument is a value and no option. -/
def StandsAlone (argument : String) : Prop :=
  argument = "-" ∨ argument.toList.head? ≠ some '-'

/-- The values that arguments give to options, in their order. -/
inductive Gives (allowed : Choice → Bool) : List String → List (Choice × String) → Prop
  | nil : Gives allowed [] []
  | dashes : Gives allowed ["--"] []
  | joined {choice : Choice} {argument value : String} {rest : List String}
    {given : List (Choice × String)} : allowed choice → choice.IsNamedBy argument (some value) →
      Gives allowed rest given → Gives allowed (argument :: rest) ((choice, value) :: given)
  | apart {choice : Choice} {argument : String} {values rest : List String}
    {given : List (Choice × String)} : allowed choice → choice.IsNamedBy argument none →
      values ≠ [] → (∀ value ∈ values, StandsAlone value) →
        (choice = .input ∨ choice = .ignore ∨ values.length = 1) → Gives allowed rest given →
          Gives allowed (argument :: (values ++ rest)) (values.map (choice, ·) ++ given)

/-- The values of one option. -/
def valuesOf (choice : Choice) (given : List (Choice × String)) : List String :=
  (given.filter (·.1 = choice)).map (·.2)

/-- The arguments ask for a command. An output file and a package can be given once, and an output
file has a name. -/
inductive Asks : List String → Command → Prop
  | records {args : List String} {given : List (Choice × String)} {out : Option String} :
    Gives (· ≠ .package) args given → valuesOf .input given ≠ [] →
      valuesOf .out given = out.toList → out ≠ some "" →
        Asks ("records" :: args) ⟨valuesOf .input given, valuesOf .ignore given, .json, out⟩
  | go {args : List String} {given : List (Choice × String)} {out package : Option String} :
    Gives (fun _ => true) args given → valuesOf .input given ≠ [] →
      valuesOf .out given = out.toList → out ≠ some "" → valuesOf .package given = package.toList →
        Asks ("go" :: args) ⟨valuesOf .input given, valuesOf .ignore given,
          .go (package.getD "modules"), out⟩

variable {allowed : Choice → Bool} {choice : Choice} {argument : String} {args values : List String}
  {given : List (Choice × String)} {d d' : Draft} {awaiting : Awaiting} {c : Command}

lemma isValue_iff : isValue argument = true ↔ StandsAlone argument := by
  rw [isValue, Bool.or_eq_true, decide_eq_true_eq, decide_eq_true_eq, StandsAlone, or_comm]

lemma valuesOf_cons (other : Choice) (value : String) :
    valuesOf choice ((other, value) :: given) =
      if other = choice then value :: valuesOf choice given else valuesOf choice given := by
  rw [valuesOf, List.filter_cons]
  simp only [decide_eq_true_eq]
  split_ifs <;> rfl

lemma ofArgument?_of_standsAlone (h : StandsAlone argument) :
    Choice.ofArgument? argument = none := by
  obtain rfl | halone := h
  · rfl
  · cases hcs : argument.toList with
    | nil => simp [Choice.ofArgument?, hcs]
    | cons c cs =>
      have hc : c ≠ '-' := by simpa [hcs] using halone
      simp [Choice.ofArgument?, hcs, hc]

/-- An option is no value. -/
lemma Choice.IsNamedBy.not_standsAlone {joined : Option String}
    (h : choice.IsNamedBy argument joined) : ¬ StandsAlone argument := by
  intro halone
  have hnone := ofArgument?_of_standsAlone halone
  rw [Choice.ofArgument?_of_isNamedBy h] at hnone
  cases hnone

lemma Choice.IsNamedBy.ne_dashes {joined : Option String}
    (h : choice.IsNamedBy argument joined) : argument ≠ "--" := by
  rintro rfl
  cases Choice.ofArgument?_of_isNamedBy h

/-- The draft that all values make of another one. -/
def addAll (d : Draft) (given : List (Choice × String)) : Except UsageError Draft :=
  given.foldlM (fun d (choice, value) => d.addValue value choice) d

lemma addAll_cons_eq_ok_iff {value : String} :
    addAll d ((choice, value) :: given) = .ok d' ↔
      ∃ d₁, d.addValue value choice = .ok d₁ ∧ addAll d₁ given = .ok d' := by
  rw [addAll, List.foldlM_cons, bind_eq_ok]
  rfl

/-- Values have been added to a draft: those of `out` and `package` only where there was none. -/
structure Draft.IsAddedTo (d : Draft) (given : List (Choice × String)) (d' : Draft) : Prop where
  inputs : d'.inputs = d.inputs ++ valuesOf .input given
  ignore : d'.ignore = d.ignore ++ valuesOf .ignore given
  out : d'.out.toList = d.out.toList ++ valuesOf .out given
  isNamed : "" ∉ valuesOf .out given
  package : d'.package.toList = d.package.toList ++ valuesOf .package given

lemma eq_of_toList_eq {α : Type} {o o' : Option α} (h : o.toList = o'.toList) : o = o' := by
  cases o <;> cases o' <;> simp_all

lemma toList_eq_append_cons {α : Type} {o o' : Option α} {a : α} {as : List α}
    (h : o'.toList = o.toList ++ a :: as) : o = none ∧ as = [] ∧ o' = some a := by
  cases o <;> cases o' <;> simp_all

namespace Draft

lemma isAddedTo_nil_iff : d.IsAddedTo [] d' ↔ d = d' := by
  constructor
  · rintro ⟨hinputs, hignore, hout, -, hpackage⟩
    obtain ⟨inputs, ignore, out, package⟩ := d
    obtain ⟨inputs', ignore', out', package'⟩ := d'
    simp only [valuesOf, List.filter_nil, List.map_nil, List.append_nil] at *
    rw [hinputs, hignore, eq_of_toList_eq hout, eq_of_toList_eq hpackage]
  · rintro rfl
    constructor <;> simp [valuesOf]

/-- The values are added one after another. -/
lemma isAddedTo_cons_iff {value : String} :
    d.IsAddedTo ((choice, value) :: given) d' ↔
      ∃ d₁, d.addValue value choice = .ok d₁ ∧ d₁.IsAddedTo given d' := by
  cases choice with
  | input | ignore =>
    simp only [addValue, Except.ok.injEq, exists_eq_left']
    constructor
    · rintro ⟨hinputs, hignore, hout, hnamed, hpackage⟩
      constructor <;> simp_all [valuesOf_cons]
    · rintro ⟨hinputs, hignore, hout, hnamed, hpackage⟩
      constructor <;> simp_all [valuesOf_cons]
  | out =>
    rw [addValue]
    constructor
    · rintro ⟨hinputs, hignore, hout, hnamed, hpackage⟩
      rw [valuesOf_cons, if_pos rfl] at hout hnamed
      obtain ⟨hnone, hrest, hsome⟩ := toList_eq_append_cons hout
      have hvalue : value ≠ "" := by
        rintro rfl
        exact hnamed List.mem_cons_self
      rw [hnone, if_neg (by simp), if_neg hvalue]
      refine ⟨_, rfl, ?_⟩
      constructor <;> simp_all [valuesOf_cons]
    · rintro ⟨d₁, hd₁, hinputs, hignore, hout, hnamed, hpackage⟩
      split_ifs at hd₁ with hgiven hempty
      cases hd₁
      constructor <;> simp_all [valuesOf_cons]
  | package =>
    rw [addValue]
    constructor
    · rintro ⟨hinputs, hignore, hout, hnamed, hpackage⟩
      rw [valuesOf_cons, if_pos rfl] at hpackage
      obtain ⟨hnone, hrest, hsome⟩ := toList_eq_append_cons hpackage
      rw [hnone, if_neg (by simp)]
      refine ⟨_, rfl, ?_⟩
      constructor <;> simp_all [valuesOf_cons]
    · rintro ⟨d₁, hd₁, hinputs, hignore, hout, hnamed, hpackage⟩
      split_ifs at hd₁ with hgiven
      cases hd₁
      constructor <;> simp_all [valuesOf_cons]

end Draft

lemma addAll_eq_ok_iff : addAll d given = .ok d' ↔ d.IsAddedTo given d' := by
  induction given generalizing d with
  | nil => rw [addAll, List.foldlM_nil, pure_eq_ok, Draft.isAddedTo_nil_iff]
  | cons g given ih =>
    obtain ⟨choice, value⟩ := g
    rw [addAll_cons_eq_ok_iff, Draft.isAddedTo_cons_iff]
    simp only [ih]

namespace Awaiting

/-- The values that may still come. -/
def Takes : Awaiting → List String → Prop
  | nothing, values => values = []
  | value choice, values => values ≠ [] ∧ (choice.isMany ∨ values.length = 1)
  | moreValues _, _ => True

/-- The values that still come, with their option. -/
def label (awaiting : Awaiting) (values : List String) : List (Choice × String) :=
  awaiting.choice?.toList.flatMap fun choice => values.map (choice, ·)

lemma takes_nil_iff : awaiting.Takes [] ↔ awaiting.finish = .ok () := by
  cases awaiting <;> simp [Takes, finish]

lemma label_nil : awaiting.label [] = [] := by
  simp [label]

lemma label_of_choice? (h : awaiting.choice? = some choice) :
    awaiting.label values = values.map (choice, ·) := by
  simp [label, h]

/-- More values are awaited only of an option that takes many. -/
def IsSound (awaiting : Awaiting) : Prop :=
  ∀ choice, awaiting = moreValues choice → choice.isMany

lemma isSound_nothing : nothing.IsSound :=
  nofun

lemma isSound_value (choice : Choice) : (value choice).IsSound :=
  nofun

lemma isSound_afterValue (choice : Choice) : (afterValue choice).IsSound := by
  intro other h
  rw [afterValue] at h
  split_ifs at h with hmany
  cases h
  exact hmany

lemma takes_afterValue_iff : (afterValue choice).Takes values ↔ choice.isMany ∨ values = [] := by
  rw [afterValue]
  split_ifs with hmany
  · simp [Takes, hmany]
  · simp [Takes, hmany]

lemma label_afterValue (h : (afterValue choice).Takes values) :
    (afterValue choice).label values = values.map (choice, ·) := by
  rw [takes_afterValue_iff] at h
  rw [afterValue]
  split_ifs with hmany
  · exact label_of_choice? rfl
  · rw [h.resolve_left hmany, label_nil, List.map_nil]

/-- After one value of an option the others come that it takes. -/
lemma takes_cons_iff (hsound : awaiting.IsSound) :
    awaiting.Takes (argument :: values) ↔
      ∃ choice, awaiting.choice? = some choice ∧ (afterValue choice).Takes values := by
  cases awaiting with
  | nothing => simp [Takes, choice?]
  | value choice =>
    simp only [choice?, Option.some.injEq, exists_eq_left', takes_afterValue_iff]
    simp [Takes]
  | moreValues choice =>
    simp only [choice?, Option.some.injEq, exists_eq_left', takes_afterValue_iff]
    simp [Takes, hsound choice rfl]

end Awaiting

lemma readOptions_value_iff {rest : List String} (halone : StandsAlone argument) :
    readOptions allowed awaiting d (argument :: rest) = .ok d' ↔
      ∃ choice d₁, awaiting.choice? = some choice ∧ d.addValue argument choice = .ok d₁ ∧
        readOptions allowed (.afterValue choice) d₁ rest = .ok d' := by
  rw [readOptions.eq_def]
  simp only [if_pos (isValue_iff.mpr halone)]
  cases awaiting.choice? with
  | none => simp
  | some choice => simp [bind_eq_ok]

lemma readOptions_option_iff {rest : List String} (halone : ¬ StandsAlone argument) :
    readOptions allowed awaiting d (argument :: rest) = .ok d' ↔
      awaiting.finish = .ok () ∧
        (argument = "--" ∧ rest = [] ∧ d = d' ∨
          (∃ choice value d₁, choice.IsNamedBy argument (some value) ∧ allowed choice ∧
            d.addValue value choice = .ok d₁ ∧ readOptions allowed .nothing d₁ rest = .ok d') ∨
          ∃ choice, choice.IsNamedBy argument none ∧ allowed choice ∧
            readOptions allowed (.value choice) d rest = .ok d') := by
  rw [readOptions.eq_def]
  simp only [if_neg (mt isValue_iff.mp halone), bind_eq_ok]
  constructor
  · rintro ⟨⟨⟩, hfinish, h⟩
    refine ⟨hfinish, ?_⟩
    split_ifs at h with hdashes
    · cases rest with
      | nil => exact .inl ⟨hdashes, rfl, pure_eq_ok.mp h⟩
      | cons stray rest => cases h
    · right
      split at h
      · next choice joined hoption =>
        rw [Choice.ofArgument?_eq_some_iff] at hoption
        split_ifs at h with hallowed
        cases joined with
        | none => exact .inr ⟨choice, hoption, hallowed, h⟩
        | some value =>
          obtain ⟨d₁, hd₁, hrest⟩ := bind_eq_ok.mp h
          exact .inl ⟨choice, value, d₁, hoption, hallowed, hd₁, hrest⟩
      · cases h
  · rintro ⟨hfinish, h⟩
    refine ⟨(), hfinish, ?_⟩
    obtain ⟨rfl, rfl, rfl⟩ | ⟨choice, value, d₁, hoption, hallowed, hd₁, hrest⟩ |
      ⟨choice, hoption, hallowed, hrest⟩ := h
    · rfl
    · rw [if_neg hoption.ne_dashes, Choice.ofArgument?_of_isNamedBy hoption]
      dsimp only
      rw [if_pos hallowed]
      exact bind_eq_ok.mpr ⟨d₁, hd₁, hrest⟩
    · rw [if_neg hoption.ne_dashes, Choice.ofArgument?_of_isNamedBy hoption]
      dsimp only
      rw [if_pos hallowed]
      exact hrest

lemma isMany_or_iff {p : Prop} :
    choice.isMany ∨ p ↔ choice = .input ∨ choice = .ignore ∨ p := by
  cases choice <;> simp [Choice.isMany]

lemma gives_cons_iff {rest : List String} :
    Gives allowed (argument :: rest) given ↔
      argument = "--" ∧ rest = [] ∧ given = [] ∨
        (∃ choice value more, choice.IsNamedBy argument (some value) ∧ allowed choice ∧
          Gives allowed rest more ∧ given = (choice, value) :: more) ∨
        ∃ choice values rest' more, choice.IsNamedBy argument none ∧ allowed choice ∧
          rest = values ++ rest' ∧ (∀ value ∈ values, StandsAlone value) ∧
            (Awaiting.value choice).Takes values ∧ Gives allowed rest' more ∧
              given = values.map (choice, ·) ++ more := by
  constructor
  · intro h
    cases h with
    | dashes => exact .inl ⟨rfl, rfl, rfl⟩
    | joined hallowed hoption hrest => exact .inr (.inl ⟨_, _, _, hoption, hallowed, hrest, rfl⟩)
    | apart hallowed hoption hne halone hcount hrest =>
      exact .inr (.inr ⟨_, _, _, _, hoption, hallowed, rfl, halone,
        ⟨hne, isMany_or_iff.mpr hcount⟩, hrest, rfl⟩)
  · rintro (⟨rfl, rfl, rfl⟩ | ⟨choice, value, more, hoption, hallowed, hrest, rfl⟩ |
      ⟨choice, values, rest', more, hoption, hallowed, rfl, halone, ⟨hne, hcount⟩, hrest, rfl⟩)
    · exact .dashes
    · exact .joined hallowed hoption hrest
    · exact .apart hallowed hoption hne halone (isMany_or_iff.mp hcount) hrest

lemma Gives.not_standsAlone {rest : List String} (h : Gives allowed (argument :: rest) given) :
    ¬ StandsAlone argument := by
  cases h with
  | dashes => simp [StandsAlone]
  | joined _ hoption _ => exact hoption.not_standsAlone
  | apart _ hoption _ _ _ _ => exact hoption.not_standsAlone

/-- The arguments give values that can be added to the draft. Those that are awaited stand in
front. -/
def Fills (allowed : Choice → Bool) (awaiting : Awaiting) (d : Draft) (args : List String)
    (d' : Draft) : Prop :=
  ∃ values rest given, args = values ++ rest ∧ (∀ value ∈ values, StandsAlone value) ∧
    awaiting.Takes values ∧ Gives allowed rest given ∧
      addAll d (awaiting.label values ++ given) = .ok d'

lemma fills_nil_iff : Fills allowed awaiting d [] d' ↔ awaiting.finish = .ok () ∧ d = d' := by
  constructor
  · rintro ⟨values, rest, given, hargs, halone, htakes, hgives, h⟩
    obtain ⟨rfl, rfl⟩ := List.append_eq_nil_iff.mp hargs.symm
    cases hgives
    rw [Awaiting.label_nil] at h
    exact ⟨Awaiting.takes_nil_iff.mp htakes, pure_eq_ok.mp h⟩
  · rintro ⟨hfinish, rfl⟩
    refine ⟨[], [], [], rfl, by simp, Awaiting.takes_nil_iff.mpr hfinish, .nil, ?_⟩
    rw [Awaiting.label_nil]
    rfl

/-- Where nothing is awaited, all values come with their options. -/
lemma fills_nothing_iff :
    Fills allowed .nothing d args d' ↔
      ∃ given, Gives allowed args given ∧ addAll d given = .ok d' := by
  constructor
  · rintro ⟨values, rest, given, rfl, -, rfl, hgives, h⟩
    exact ⟨given, hgives, h⟩
  · rintro ⟨given, hgives, h⟩
    exact ⟨[], args, given, rfl, by simp, rfl, hgives, h⟩

/-- A value in front is one that is awaited. -/
lemma fills_value_iff (hsound : awaiting.IsSound) (halone : StandsAlone argument) :
    Fills allowed awaiting d (argument :: args) d' ↔
      ∃ choice d₁, awaiting.choice? = some choice ∧ d.addValue argument choice = .ok d₁ ∧
        Fills allowed (.afterValue choice) d₁ args d' := by
  constructor
  · rintro ⟨values, rest, given, hargs, hvalues, htakes, hgives, h⟩
    cases values with
    | nil =>
      obtain rfl : argument :: args = rest := hargs
      exact absurd halone hgives.not_standsAlone
    | cons value values =>
      obtain ⟨rfl, rfl⟩ := List.cons.inj hargs
      obtain ⟨choice, hchoice, htakes⟩ := (Awaiting.takes_cons_iff hsound).mp htakes
      rw [Awaiting.label_of_choice? hchoice, List.map_cons, List.cons_append,
        addAll_cons_eq_ok_iff] at h
      obtain ⟨d₁, hd₁, h⟩ := h
      refine ⟨choice, d₁, hchoice, hd₁, values, rest, given, rfl,
        (List.forall_mem_cons.mp hvalues).2, htakes, hgives, ?_⟩
      rwa [Awaiting.label_afterValue htakes]
  · rintro ⟨choice, d₁, hchoice, hd₁, values, rest, given, rfl, hvalues, htakes, hgives, h⟩
    refine ⟨argument :: values, rest, given, rfl, List.forall_mem_cons.mpr ⟨halone, hvalues⟩,
      (Awaiting.takes_cons_iff hsound).mpr ⟨choice, hchoice, htakes⟩, hgives, ?_⟩
    rw [Awaiting.label_afterValue htakes] at h
    rw [Awaiting.label_of_choice? hchoice, List.map_cons, List.cons_append, addAll_cons_eq_ok_iff]
    exact ⟨d₁, hd₁, h⟩

/-- In front of an option no value can be missing. -/
lemma fills_iff_of_not_standsAlone (halone : ¬ StandsAlone argument) :
    Fills allowed awaiting d (argument :: args) d' ↔
      awaiting.finish = .ok () ∧
        ∃ given, Gives allowed (argument :: args) given ∧ addAll d given = .ok d' := by
  constructor
  · rintro ⟨values, rest, given, hargs, hvalues, htakes, hgives, h⟩
    cases values with
    | cons value values =>
      obtain ⟨rfl, -⟩ := List.cons.inj hargs
      exact absurd (hvalues argument List.mem_cons_self) halone
    | nil =>
      obtain rfl : argument :: args = rest := hargs
      rw [Awaiting.label_nil] at h
      exact ⟨Awaiting.takes_nil_iff.mp htakes, given, hgives, h⟩
  · rintro ⟨hfinish, given, hgives, h⟩
    refine ⟨[], argument :: args, given, rfl, by simp, Awaiting.takes_nil_iff.mpr hfinish,
      hgives, ?_⟩
    rwa [Awaiting.label_nil]

lemma fills_option_iff (halone : ¬ StandsAlone argument) :
    Fills allowed awaiting d (argument :: args) d' ↔
      awaiting.finish = .ok () ∧
        (argument = "--" ∧ args = [] ∧ d = d' ∨
          (∃ choice value d₁, choice.IsNamedBy argument (some value) ∧ allowed choice ∧
            d.addValue value choice = .ok d₁ ∧ Fills allowed .nothing d₁ args d') ∨
          ∃ choice, choice.IsNamedBy argument none ∧ allowed choice ∧
            Fills allowed (.value choice) d args d') := by
  rw [fills_iff_of_not_standsAlone halone]
  simp only [fills_nothing_iff, gives_cons_iff]
  refine and_congr_right fun _ => ?_
  constructor
  · rintro ⟨given, ⟨rfl, rfl, rfl⟩ | ⟨choice, value, more, hoption, hallowed, hmore, rfl⟩ |
      ⟨choice, values, rest, more, hoption, hallowed, rfl, hvalues, htakes, hmore, rfl⟩, h⟩
    · exact .inl ⟨rfl, rfl, pure_eq_ok.mp h⟩
    · obtain ⟨d₁, hd₁, h⟩ := addAll_cons_eq_ok_iff.mp h
      exact .inr (.inl ⟨choice, value, d₁, hoption, hallowed, hd₁, more, hmore, h⟩)
    · refine .inr (.inr ⟨choice, hoption, hallowed, values, rest, more, rfl, hvalues, htakes,
        hmore, ?_⟩)
      rwa [Awaiting.label_of_choice? rfl]
  · rintro (⟨rfl, rfl, rfl⟩ | ⟨choice, value, d₁, hoption, hallowed, hd₁, more, hmore, h⟩ |
      ⟨choice, hoption, hallowed, values, rest, more, rfl, hvalues, htakes, hmore, h⟩)
    · exact ⟨[], .inl ⟨rfl, rfl, rfl⟩, rfl⟩
    · exact ⟨_, .inr (.inl ⟨choice, value, more, hoption, hallowed, hmore, rfl⟩),
        addAll_cons_eq_ok_iff.mpr ⟨d₁, hd₁, h⟩⟩
    · rw [Awaiting.label_of_choice? rfl] at h
      exact ⟨_, .inr (.inr ⟨choice, values, rest, more, hoption, hallowed, rfl, hvalues, htakes,
        hmore, rfl⟩), h⟩

/-- Options are read just when the arguments give values that can be added to the draft. -/
lemma readOptions_eq_ok_iff (hsound : awaiting.IsSound) :
    readOptions allowed awaiting d args = .ok d' ↔ Fills allowed awaiting d args d' := by
  induction args generalizing awaiting d with
  | nil =>
    rw [readOptions, fills_nil_iff]
    simp only [bind_eq_ok, pure_eq_ok]
    exact ⟨fun ⟨⟨⟩, h⟩ => h, fun h => ⟨(), h⟩⟩
  | cons argument args ih =>
    by_cases halone : StandsAlone argument
    · simp only [readOptions_value_iff halone, fills_value_iff hsound halone,
        ih (Awaiting.isSound_afterValue _)]
    · simp only [readOptions_option_iff halone, fills_option_iff halone,
        ih Awaiting.isSound_nothing, ih (Awaiting.isSound_value _)]

lemma isAddedTo_start_iff :
    ({} : Draft).IsAddedTo given d ↔
      d.inputs = valuesOf .input given ∧ d.ignore = valuesOf .ignore given ∧
        valuesOf .out given = d.out.toList ∧ d.out ≠ some "" ∧
          valuesOf .package given = d.package.toList := by
  constructor
  · rintro ⟨hinputs, hignore, hout, hnamed, hpackage⟩
    simp only [Option.toList_none, List.nil_append] at hinputs hignore hout hpackage
    refine ⟨hinputs, hignore, hout.symm, ?_, hpackage.symm⟩
    intro hempty
    rw [← hout, hempty] at hnamed
    exact hnamed List.mem_cons_self
  · rintro ⟨hinputs, hignore, hout, hnamed, hpackage⟩
    refine ⟨hinputs, hignore, hout.symm, ?_, hpackage.symm⟩
    rw [hout, Option.mem_toList]
    exact hnamed

/-- The draft of a whole argument list. -/
lemma readOptions_start_eq_ok_iff :
    readOptions allowed .nothing {} args = .ok d ↔
      ∃ given, Gives allowed args given ∧ ({} : Draft).IsAddedTo given d := by
  rw [readOptions_eq_ok_iff Awaiting.isSound_nothing, fills_nothing_iff]
  simp only [addAll_eq_ok_iff]

lemma Gives.isAllowed (h : Gives allowed args given) : ∀ g ∈ given, allowed g.1 := by
  induction h with
  | nil => simp
  | dashes => simp
  | joined hallowed _ _ ih => exact List.forall_mem_cons.mpr ⟨hallowed, ih⟩
  | apart hallowed _ _ _ _ _ ih =>
    intro g hg
    rcases List.mem_append.mp hg with hvalue | hrest
    · obtain ⟨value, -, rfl⟩ := List.mem_map.mp hvalue
      exact hallowed
    · exact ih g hrest

lemma command_eq_ok_iff {format : Draft → Format} :
    command format d = .ok c ↔ d.inputs ≠ [] ∧ c = ⟨d.inputs, d.ignore, format d, d.out⟩ := by
  rw [command]
  split_ifs with hempty
  · simp [List.isEmpty_iff.mp hempty]
  · rw [List.isEmpty_iff] at hempty
    simp [hempty, eq_comm]

lemma valuesOf_eq_nil (h : Gives allowed args given) (hallowed : allowed choice = false) :
    valuesOf choice given = [] := by
  rw [valuesOf, List.map_eq_nil_iff, List.filter_eq_nil_iff]
  intro g hg
  rw [decide_eq_true_eq]
  rintro rfl
  rw [h.isAllowed g hg] at hallowed
  cases hallowed

lemma parse_records_eq_run_iff :
    parse ("records" :: args) = .ok (.run c) ↔
      ∃ d given, d.inputs ≠ [] ∧ ({} : Draft).IsAddedTo given d ∧ Gives (· ≠ .package) args given ∧
        c = ⟨d.inputs, d.ignore, .json, d.out⟩ := by
  rw [parse, if_neg (by decide), if_pos rfl]
  simp only [bind_eq_ok, pure_eq_ok, readOptions_start_eq_ok_iff, command_eq_ok_iff,
    Request.run.injEq]
  constructor
  · rintro ⟨d, ⟨given, hgives, hadded⟩, _, ⟨hinputs, rfl⟩, rfl⟩
    exact ⟨d, given, hinputs, hadded, hgives, rfl⟩
  · rintro ⟨d, given, hinputs, hadded, hgives, rfl⟩
    exact ⟨d, ⟨given, hgives, hadded⟩, _, ⟨hinputs, rfl⟩, rfl⟩

lemma parse_go_eq_run_iff :
    parse ("go" :: args) = .ok (.run c) ↔
      ∃ d given, d.inputs ≠ [] ∧ ({} : Draft).IsAddedTo given d ∧
        Gives (fun _ => true) args given ∧
          c = ⟨d.inputs, d.ignore, .go (d.package.getD "modules"), d.out⟩ := by
  rw [parse, if_neg (by decide), if_neg (by decide), if_pos rfl]
  simp only [bind_eq_ok, pure_eq_ok, readOptions_start_eq_ok_iff, command_eq_ok_iff,
    Request.run.injEq]
  constructor
  · rintro ⟨d, ⟨given, hgives, hadded⟩, _, ⟨hinputs, rfl⟩, rfl⟩
    exact ⟨d, given, hinputs, hadded, hgives, rfl⟩
  · rintro ⟨d, given, hinputs, hadded, hgives, rfl⟩
    exact ⟨d, ⟨given, hgives, hadded⟩, _, ⟨hinputs, rfl⟩, rfl⟩

/-- Only two commands run. -/
lemma exists_command_of_parse (h : parse args = .ok (.run c)) :
    ∃ rest, args = "records" :: rest ∨ args = "go" :: rest := by
  cases args with
  | nil => cases h
  | cons first rest =>
    rw [parse] at h
    split_ifs at h with hversion hrecords hgo hvalue
    · cases h
    · exact ⟨rest, .inl (by rw [hrecords])⟩
    · exact ⟨rest, .inr (by rw [hgo])⟩

/-- The accepted argument lists, and what they ask for. -/
theorem parse_eq_run_iff : parse args = .ok (.run c) ↔ Asks args c := by
  constructor
  · intro h
    obtain ⟨rest, rfl | rfl⟩ := exists_command_of_parse h
    · obtain ⟨⟨inputs, ignore, out, package⟩, given, hinputs, hadded, hgives, rfl⟩ :=
        parse_records_eq_run_iff.mp h
      obtain ⟨rfl, rfl, hout, hnamed, -⟩ := isAddedTo_start_iff.mp hadded
      exact .records hgives hinputs hout hnamed
    · obtain ⟨⟨inputs, ignore, out, package⟩, given, hinputs, hadded, hgives, rfl⟩ :=
        parse_go_eq_run_iff.mp h
      obtain ⟨rfl, rfl, hout, hnamed, hpackage⟩ := isAddedTo_start_iff.mp hadded
      exact .go hgives hinputs hout hnamed hpackage
  · intro h
    cases h with
    | @records args given out hgives hinputs hout hnamed =>
      have hpackage : valuesOf .package given = [] := valuesOf_eq_nil hgives rfl
      have hadded : ({} : Draft).IsAddedTo given
          ⟨valuesOf .input given, valuesOf .ignore given, out, none⟩ :=
        isAddedTo_start_iff.mpr ⟨rfl, rfl, hout, hnamed, hpackage⟩
      exact parse_records_eq_run_iff.mpr ⟨_, given, hinputs, hadded, hgives, rfl⟩
    | @go args given out package hgives hinputs hout hnamed hpackage =>
      have hadded : ({} : Draft).IsAddedTo given
          ⟨valuesOf .input given, valuesOf .ignore given, out, package⟩ :=
        isAddedTo_start_iff.mpr ⟨rfl, rfl, hout, hnamed, hpackage⟩
      exact parse_go_eq_run_iff.mpr ⟨_, given, hinputs, hadded, hgives, rfl⟩

end ModuleBindings.CommandLine
