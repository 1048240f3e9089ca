import ModuleBindings.Proofs.Lexemes
import ModuleBindings.Proofs.Nodes
import ModuleBindings.Proofs.Parsing

/-!
# Printing and parsing

A tree is printed as symbols, with any number of `optional` layers where its nodes are optional, and
the symbols as characters, with any blanks around them. Parsing gives the tree back.
-/

namespace ModuleBindings.Constraint

/-- A word that is read as one name. -/
def IsName (word : String) : Prop :=
  word ≠ "" ∧ ∀ c ∈ word.toList, isNameChar c = true

instance (word : String) : Decidable (IsName word) :=
  decidable_of_iff (word ≠ "" ∧ word.toList.all isNameChar = true)
    (and_congr_right' List.all_eq_true)

/-- The node can be written: it has the name of its kind, and its fields have names that can be
read. -/
structure IsWritable (t : Constraint) : Prop where
  suits : t.SuitsKind
  name : t.name = t.kind.keyword
  fields : ∀ f ∈ t.fields, IsName f.name

instance (t : Constraint) : Decidable t.IsWritable :=
  decidable_of_iff (t.SuitsKind ∧ t.name = t.kind.keyword ∧ ∀ f ∈ t.fields, IsName f.name)
    ⟨fun ⟨suits, name, fields⟩ => ⟨suits, name, fields⟩, fun h => ⟨h.suits, h.name, h.fields⟩⟩

/-- Some symbols in layers of `optional`. -/
def inLayers : Nat → List Symbol → List Symbol
  | 0, ss => ss
  | n + 1, ss => .word "optional" :: .mark .parenL :: (inLayers n ss ++ [.mark .parenR])

/-- How many layers of `optional` to print more than one, by the way from the root to the node. -/
abbrev ExtraLayers := List Nat → Nat

/-- The layers within the child at that place. -/
def ExtraLayers.below (extra : ExtraLayers) (i : Nat) : ExtraLayers :=
  fun path => extra (i :: path)

/-- The layers around a node. -/
def ExtraLayers.around (extra : ExtraLayers) (optional : Bool) : Nat :=
  if optional then extra [] + 1 else 0

mutual

/-- The symbols of a tree. -/
def symbols (extra : ExtraLayers) : Constraint → List Symbol
  | node name kind elem optional fields _ =>
    inLayers (extra.around optional) <|
      match kind with
      | .list | .map =>
        .word name :: .mark .parenL :: (elemSymbols (extra.below 0) elem ++ [.mark .parenR])
      | .object =>
        .word name :: .mark .parenL :: .mark .braceL ::
          (fieldSymbols extra 0 fields ++ [.mark .braceR, .mark .parenR])
      | _ => [.word name]

def elemSymbols (extra : ExtraLayers) : Option Constraint → List Symbol
  | none => []
  | some t => symbols extra t

/-- The symbols of the fields from place `i` on. -/
def fieldSymbols (extra : ExtraLayers) (i : Nat) : List (Field Constraint) → List Symbol
  | [] => []
  | ⟨name, _, t⟩ :: rest =>
    .word name :: .mark .equals :: (symbols (extra.below i) t ++ fieldSymbols extra (i + 1) rest)

end

mutual

/-- The levels of types in the print of a tree, layers of `optional` included. -/
def levels (extra : ExtraLayers) : Constraint → Nat
  | node _ _ elem optional fields _ =>
    extra.around optional + max (elemLevels (extra.below 0) elem) (fieldLevels extra 0 fields) + 1

def elemLevels (extra : ExtraLayers) : Option Constraint → Nat
  | none => 0
  | some t => levels extra t

def fieldLevels (extra : ExtraLayers) (i : Nat) : List (Field Constraint) → Nat
  | [] => 0
  | ⟨_, _, t⟩ :: rest => max (levels (extra.below i) t) (fieldLevels extra (i + 1) rest)

end

/-- The characters of a kind of token that is always written the same. -/
def TokenKind.chars : TokenKind → List Char
  | parenL => ['(']
  | parenR => [')']
  | braceL => ['\x7b']
  | braceR => ['\x7d']
  | equals => ['=']
  | name | eof => []

def Symbol.chars : Symbol → List Char
  | word text => text.toList
  | mark kind => kind.chars

/-- The characters of some symbols, with `gap 0` before the first and `gap i` behind the `i`-th. -/
def layOut (gap : Nat → List Char) : List Symbol → List Char
  | [] => gap 0
  | s :: ss => gap 0 ++ (s.chars ++ layOut (fun i => gap (i + 1)) ss)

def Symbol.isWord : Symbol → Bool
  | word _ => true
  | mark _ => false

/-- Nothing but blanks around the symbols, and some wherever two words meet. -/
structure Separates (gap : Nat → List Char) (ss : List Symbol) : Prop where
  blank : ∀ i, AreBlank (gap i)
  words : ∀ i, ss[i]?.any Symbol.isWord → ss[i + 1]?.any Symbol.isWord → gap (i + 1) ≠ []

/-- The symbol can be the symbol of a token that is not the last one. -/
def Symbol.IsReadable : Symbol → Prop
  | word text => IsName text
  | mark kind => kind ≠ .name ∧ kind ≠ .eof

section Layouts

variable {gap : Nat → List Char} {ss : List Symbol} {s : Symbol}

lemma Separates.tail (h : Separates gap (s :: ss)) : Separates (fun i => gap (i + 1)) ss where
  blank i := h.blank (i + 1)
  words i hi hnext := h.words (i + 1) hi hnext

lemma exists_ofPunctuation? {kind : TokenKind} (h : kind ≠ .name ∧ kind ≠ .eof) :
    ∃ c, kind.chars = [c] ∧ TokenKind.ofPunctuation? c = some kind := by
  cases kind with
  | name => exact absurd rfl h.1
  | eof => exact absurd rfl h.2
  | parenL | parenR | braceL | braceR | equals => exact ⟨_, rfl, rfl⟩

/-- A word stops where its layout goes on. -/
lemma isNameChar_head_layOut {text : String} (hgap : Separates gap (.word text :: ss))
    (hss : ∀ s ∈ ss, s.IsReadable) :
    ∀ c ∈ (layOut (fun i => gap (i + 1)) ss).head?, isNameChar c = false := by
  intro c hc
  by_cases hnil : gap 1 = []
  · cases ss with
    | nil => simp [layOut, hnil] at hc
    | cons s ss =>
      cases s with
      | word w => exact absurd hnil (hgap.words 0 rfl rfl)
      | mark kind =>
        obtain ⟨d, hchars, hd⟩ := exists_ofPunctuation? (hss (.mark kind) List.mem_cons_self)
        obtain rfl : d = c := by simpa [layOut, hnil, Symbol.chars, hchars] using hc
        exact isNameChar_of_ofPunctuation? hd
  · obtain ⟨b, bs, hb⟩ := List.exists_cons_of_ne_nil hnil
    have hhead : b = c := by
      cases ss with
      | nil => simpa [layOut, hb] using hc
      | cons => simpa [layOut, hb] using hc
    subst hhead
    exact isNameChar_of_isBlank (hgap.blank 1 b (by simp [hb]))

lemma isLexeme_chars (hgap : Separates gap (s :: ss)) (hs : s.IsReadable)
    (hss : ∀ s ∈ ss, s.IsReadable) :
    ∃ kind, IsLexeme (layOut (fun i => gap (i + 1)) ss) kind s.chars ∧
      ∀ location, Token.symbol ⟨kind, String.ofList s.chars, location⟩ = s := by
  cases s with
  | mark kind =>
    obtain ⟨c, hchars, hc⟩ := exists_ofPunctuation? hs
    refine ⟨kind, ?_, ?_⟩
    · rw [Symbol.chars, hchars]
      exact .mark c hc
    · intro location
      exact (Token.symbol_eq_mark_iff hs.1).mpr rfl
  | word text =>
    obtain ⟨hne, hname⟩ := hs
    refine ⟨.name, ?_, ?_⟩
    · have hnil : text.toList ≠ [] := by simpa using hne
      obtain ⟨c, cs, hcs⟩ := List.exists_cons_of_ne_nil hnil
      rw [Symbol.chars, hcs]
      rw [hcs] at hname
      exact .name c cs hname (isNameChar_head_layOut hgap hss)
    · intro location
      refine Token.symbol_eq_word_iff.mpr ⟨rfl, ?_⟩
      simp [Symbol.chars]

/-- Every layout is read as its symbols. -/
theorem spells_layOut (source : String) (k : Cursor) (hgap : Separates gap ss)
    (hss : ∀ s ∈ ss, s.IsReadable) : Lexer.Spells ⟨source, k, layOut gap ss⟩ ss := by
  induction ss generalizing gap k with
  | nil =>
    rw [layOut, Lexer.Spells, Lexer.stream_blanks (hgap.blank 0)]
    exact ⟨⟨_, rfl⟩, rfl⟩
  | cons s ss ih =>
    rw [List.forall_mem_cons] at hss
    obtain ⟨kind, hlexeme, hsymbol⟩ := isLexeme_chars hgap hss.1 hss.2
    obtain ⟨hend, htokens⟩ := ih (k.advanceAll (gap 0 ++ s.chars)) hgap.tail hss.2
    rw [layOut, Lexer.Spells, Lexer.stream_lexeme (hgap.blank 0) hlexeme]
    refine ⟨hend, ?_⟩
    rw [List.map_cons, hsymbol, htokens]

end Layouts

lemma isReadable_parenL : (Symbol.mark .parenL).IsReadable := ⟨by decide, by decide⟩

lemma isReadable_parenR : (Symbol.mark .parenR).IsReadable := ⟨by decide, by decide⟩

lemma isReadable_inLayers {n : Nat} {ss : List Symbol} (h : ∀ s ∈ ss, s.IsReadable) :
    ∀ s ∈ inLayers n ss, s.IsReadable := by
  induction n with
  | zero => exact h
  | succ n ih =>
    have hword : IsName "optional" := by decide
    simp only [inLayers, List.forall_mem_cons, List.forall_mem_append]
    exact ⟨hword, isReadable_parenL, ih, isReadable_parenR, by simp⟩

lemma isName_keyword (kind : Kind) : IsName kind.keyword := by
  cases kind <;> decide

mutual

theorem isReadable_symbols : ∀ (t : Constraint) (extra : ExtraLayers),
    (∀ n ∈ t.nodes, n.IsWritable) → ∀ s ∈ t.symbols extra, s.IsReadable
  | node name kind elem optional fields location, extra, h => by
    rw [nodes, List.forall_mem_cons, List.forall_mem_append] at h
    obtain ⟨hself, helem, hfields⟩ := h
    have hname : IsName name := by
      have hkeyword : name = kind.keyword := hself.name
      rw [hkeyword]
      exact isName_keyword kind
    have hbraceL : (Symbol.mark .braceL).IsReadable := ⟨by decide, by decide⟩
    have hbraceR : (Symbol.mark .braceR).IsReadable := ⟨by decide, by decide⟩
    simp only [symbols]
    apply isReadable_inLayers
    cases kind
    case string | boolean | number | null | any =>
      rw [List.forall_mem_singleton]
      exact hname
    case list | map =>
      have hinner := isReadable_elemSymbols elem (extra.below 0) helem
      simp only [List.forall_mem_cons, List.forall_mem_append]
      exact ⟨hname, isReadable_parenL, hinner, isReadable_parenR, by simp⟩
    case object =>
      have hinner := isReadable_fieldSymbols fields extra 0 hfields hself.fields
      simp only [List.forall_mem_cons, List.forall_mem_append]
      exact ⟨hname, isReadable_parenL, hbraceL, hinner, hbraceR, isReadable_parenR, by simp⟩

theorem isReadable_elemSymbols : ∀ (elem : Option Constraint) (extra : ExtraLayers),
    (∀ n ∈ elemNodes elem, n.IsWritable) → ∀ s ∈ elemSymbols extra elem, s.IsReadable
  | none, extra, h => by simp [elemSymbols]
  | some t, extra, h => isReadable_symbols t extra h

theorem isReadable_fieldSymbols : ∀ (fields : List (Field Constraint)) (extra : ExtraLayers)
    (i : Nat), (∀ n ∈ fieldNodes fields, n.IsWritable) → (∀ f ∈ fields, IsName f.name) →
    ∀ s ∈ fieldSymbols extra i fields, s.IsReadable
  | [], extra, i, h, hnames => by simp [fieldSymbols]
  | ⟨name, location, t⟩ :: rest, extra, i, h, hnames => by
    rw [fieldNodes, List.forall_mem_append] at h
    rw [List.forall_mem_cons] at hnames
    have ht := isReadable_symbols t (extra.below i) h.1
    have hrest := isReadable_fieldSymbols rest extra (i + 1) h.2 hnames.2
    simp only [fieldSymbols, List.forall_mem_cons, List.forall_mem_append]
    exact ⟨hnames.1, ⟨by decide, by decide⟩, ht, hrest⟩

end

/-- The derivation with that many layers of `optional` around it. -/
def Derivation.layered : Nat → Derivation → Derivation
  | 0, d => d
  | n + 1, d => .optional (layered n d)

namespace Derivation

lemma symbols_layered (n : Nat) (d : Derivation) :
    (layered n d).symbols = inLayers n d.symbols := by
  induction n with
  | zero => rfl
  | succ n ih => rw [layered, symbols, ih, inLayers]

lemma depth_layered (n : Nat) (d : Derivation) : (layered n d).depth = n + d.depth := by
  induction n with
  | zero => simp [layered]
  | succ n ih =>
    rw [layered, depth, ih]
    omega

lemma tree_layered_succ (n : Nat) (d : Derivation) :
    (layered (n + 1) d).tree = d.tree.withOptional true := by
  induction n with
  | zero => rfl
  | succ n ih =>
    rw [layered, tree, ih]
    cases d.tree
    rfl

/-- The layers around a node flag it just when it is optional. -/
lemma tree_layered_around {d : Derivation} {name : String} {kind : Kind}
    {elem : Option Constraint} {fields : List (Field Constraint)}
    (h : d.tree = node name kind elem false fields none) (extra : ExtraLayers) (optional : Bool) :
    (layered (extra.around optional) d).tree = node name kind elem optional fields none := by
  cases optional with
  | false => exact h
  | true =>
    have haround : extra.around true = extra [] + 1 := rfl
    rw [haround, tree_layered_succ, h]
    rfl

end Derivation

mutual

theorem exists_derivation : ∀ (t : Constraint) (extra : ExtraLayers),
    (∀ n ∈ t.nodes, n.IsWritable) → ∃ d : Derivation, d.symbols = t.symbols extra ∧
      d.depth = t.levels extra ∧ d.tree = t.erase
  | node name kind elem optional fields location, extra, h => by
    rw [nodes, List.forall_mem_cons, List.forall_mem_append] at h
    obtain ⟨hself, helem, hfields⟩ := h
    have hshapely := isShapelyNode_iff.mpr hself.suits
    have hname : name = kind.keyword := hself.name
    -- The layers are the same for every kind; what is inside them is not.
    suffices hbody : ∃ d : Derivation,
        (Derivation.layered (extra.around optional) d).symbols =
            (node name kind elem optional fields location).symbols extra ∧
          d.depth = max (elemLevels (extra.below 0) elem) (fieldLevels extra 0 fields) + 1 ∧
          d.tree = node name kind (eraseElem elem) false (eraseFields fields) none by
      obtain ⟨d, hsymbols, hdepth, htree⟩ := hbody
      refine ⟨_, hsymbols, ?_, Derivation.tree_layered_around htree extra optional⟩
      rw [Derivation.depth_layered, hdepth, levels]
      omega
    simp only [Derivation.symbols_layered, symbols]
    cases hkind : kind
    all_goals
      simp only [hkind] at hname hshapely ⊢
    case string | boolean | number | null | any =>
      obtain ⟨rfl, rfl⟩ := (isShapelyNode_scalar rfl).mp hshapely
      exact ⟨.scalar _ rfl, by rw [Derivation.symbols, hname], rfl, by rw [hname]; rfl⟩
    case list | map =>
      obtain ⟨hsome, rfl⟩ := (isShapelyNode_wrapper rfl).mp hshapely
      obtain ⟨d, hsymbols, hdepth, htree⟩ :=
        exists_elem_derivation elem (extra.below 0) hsome helem
      have hwraps : kind.wraps = true := by rw [hkind]; rfl
      refine ⟨.wrapper kind hwraps d, ?_, ?_, ?_⟩
      · rw [Derivation.symbols, hsymbols, hname, hkind]
      · rw [Derivation.depth, hdepth, fieldLevels, Nat.max_zero]
      · rw [Derivation.tree, htree, hname, hkind, eraseFields]
    case object =>
      obtain rfl := isShapelyNode_object.mp hshapely
      obtain ⟨ds, hsymbols, hdepth, htrees⟩ := exists_field_derivations fields extra 0 hfields
      refine ⟨.object ds, ?_, ?_, ?_⟩
      · rw [Derivation.symbols, hsymbols, hname, Kind.keyword]
      · rw [Derivation.depth, hdepth, elemLevels, Nat.zero_max]
      · rw [Derivation.tree, htrees, hname, Kind.keyword, eraseElem]

theorem exists_elem_derivation : ∀ (elem : Option Constraint) (extra : ExtraLayers),
    elem.isSome = true → (∀ n ∈ elemNodes elem, n.IsWritable) →
    ∃ d : Derivation, d.symbols = elemSymbols extra elem ∧ d.depth = elemLevels extra elem ∧
      some d.tree = eraseElem elem
  | none, extra, hsome, h => absurd hsome (by simp)
  | some t, extra, hsome, h => by
    obtain ⟨d, hsymbols, hdepth, htree⟩ := exists_derivation t extra h
    exact ⟨d, hsymbols, hdepth, congrArg some htree⟩

theorem exists_field_derivations : ∀ (fields : List (Field Constraint)) (extra : ExtraLayers)
    (i : Nat), (∀ n ∈ fieldNodes fields, n.IsWritable) →
    ∃ ds : List (String × Derivation), Derivation.fieldSymbols ds = fieldSymbols extra i fields ∧
      Derivation.fieldDepth ds = fieldLevels extra i fields ∧
      Derivation.fieldTrees ds = eraseFields fields
  | [], extra, i, h => ⟨[], rfl, rfl, rfl⟩
  | ⟨name, location, t⟩ :: rest, extra, i, h => by
    rw [fieldNodes, List.forall_mem_append] at h
    obtain ⟨d, hsymbols, hdepth, htree⟩ := exists_derivation t (extra.below i) h.1
    obtain ⟨ds, hsymbols', hdepth', htrees⟩ := exists_field_derivations rest extra (i + 1) h.2
    refine ⟨(name, d) :: ds, ?_, ?_, ?_⟩
    · rw [Derivation.fieldSymbols, hsymbols, hsymbols', fieldSymbols]
    · rw [Derivation.fieldDepth, hdepth, hdepth', fieldLevels]
    · rw [Derivation.fieldTrees, htree, htrees, eraseFields]

end

/-- A tree is what its print is parsed into, however many layers and blanks it is printed with, if
there are at most 256 levels in it. -/
theorem parse_layOut_symbols (source : String) (t : Constraint) (extra : ExtraLayers)
    (gap : Nat → List Char) (ht : ∀ n ∈ t.nodes, n.IsWritable)
    (hgap : Separates gap (t.symbols extra)) (hlevels : t.levels extra ≤ 256) :
    ∃ u, parse ⟨source, String.ofList (layOut gap (t.symbols extra))⟩ = .ok u ∧
      u.same t = true := by
  obtain ⟨d, hsymbols, hdepth, htree⟩ := exists_derivation t extra ht
  have hreadable := isReadable_symbols t extra ht
  have hspells := spells_layOut source Cursor.start hgap hreadable
  simp only [parse, Lexer.ofSource, String.toList_ofList, same_iff]
  refine Parser.parseStream_iff_derivation.mpr ⟨hspells.1, d, ?_, ?_, htree⟩
  · rw [hspells.2, hsymbols]
  · intro limit hlimit
    obtain rfl : maxDepth = limit := Option.some.inj hlimit
    rw [hdepth]
    exact hlevels

/-- Two layers around a list, a field with the name of a keyword, and blanks only where two words
meet. -/
theorem parse_layOut_symbols_rules :
    let t : Constraint := object
      [⟨"optional", none, (list (scalar "any" .any)).withOptional true⟩,
        ⟨"a-1", none, scalar "number" .number⟩, ⟨"b", none, scalar "null" .null⟩]
    let extra : ExtraLayers := fun path => if path = [0] then 1 else 0
    let gap : Nat → List Char := fun i => if i = 18 then ['\u3000', '\n'] else []
    (∀ n ∈ t.nodes, n.IsWritable) ∧ Separates gap (t.symbols extra) ∧ t.levels extra ≤ 256 ∧
      ∃ u, parse ⟨"rules",
        "object(\x7boptional=optional(optional(list(any)))a-1=number\u3000\nb=null\x7d)"⟩ = .ok u ∧
        u.same t = true := by
  intro t extra gap
  have ht : ∀ n ∈ t.nodes, n.IsWritable := by decide +kernel
  have hgap : Separates gap (t.symbols extra) := by
    have hmeet : ∀ i < 23, (t.symbols extra)[i]?.any Symbol.isWord →
        (t.symbols extra)[i + 1]?.any Symbol.isWord → gap (i + 1) ≠ [] := by decide +kernel
    have hlength : (t.symbols extra).length = 23 := by decide +kernel
    constructor
    · intro i c hc
      by_cases hi : i = 18
      · have hblank : (gap 18).all Text.isBlank = true := by decide +kernel
        exact List.all_eq_true.mp hblank c (hi ▸ hc)
      · simp [gap, hi] at hc
    · intro i hi hnext
      by_cases hlt : i < 23
      · exact hmeet i hlt hi hnext
      · rw [List.getElem?_eq_none (by omega)] at hi
        cases hi
  have hlevels : t.levels extra ≤ 256 := by decide +kernel
  exact ⟨ht, hgap, hlevels, parse_layOut_symbols "rules" t extra gap ht hgap hlevels⟩

end ModuleBindings.Constraint
