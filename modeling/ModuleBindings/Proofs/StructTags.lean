import Mathlib.Data.List.Basic
import Mathlib.Data.Option.Basic
import Mathlib.Tactic.Lemma
import Mathlib.Tactic.SplitIfs
import ModuleBindings.Go.Source
import ModuleBindings.Json.Lexeme
import ModuleBindings.Proofs.Printing

/-!
# Struct tags as Go reads them

A tag is written between backquotes, so it holds none. By convention it is made of formats, each
with a colon and its key as a quoted string behind it, and blanks between them where one likes. Keys
are written into tags as they are. Only the text as it is written between the backquotes is read
here, although the language drops carriage returns from it. Keys can be read back from this text
unless one of them has a backquote or a character that means something else in a quoted string.
-/

namespace ModuleBindings.Go

/-- The bytes of a text. A quoted string has a byte sequence as its value. -/
def bytes (cs : List Char) : List UInt8 :=
  cs.flatMap String.utf8EncodeChar

/-- A number with one more digit. -/
def addDigit? (base n : Nat) (c : Char) : Option Nat :=
  ((Json.Lexeme.hexValue? c).filter (· < base)).map (base * n + ·)

/-- The value of the number with `count` digits at the beginning of the text. -/
def number? (base count : Nat) (cs : List Char) : Option Nat :=
  if count ≤ cs.length then (cs.take count).foldlM (addDigit? base) 0 else none

/-- The character that a letter stands for after a backslash. -/
def escaped? (c : Char) : Option Char :=
  if c = 'a' then some '\x07'
  else if c = 'b' then some '\x08'
  else if c = 'f' then some '\x0c'
  else if c = 'n' then some '\n'
  else if c = 'r' then some '\r'
  else if c = 't' then some '\t'
  else if c = 'v' then some '\x0b'
  else if c = '\\' then some '\\'
  else if c = '"' then some '"'
  else none

def ofByte? (n : Nat) : Option (List UInt8) :=
  if n < 256 then some [UInt8.ofNat n] else none

def ofCodePoint? (n : Nat) : Option (List UInt8) :=
  if n.isValidChar then some (bytes [Char.ofNat n]) else none

/-- What a number stands for, and how many digits it has. -/
def coded? (base count : Nat) (value? : Nat → Option (List UInt8)) (cs : List Char) :
    Option (List UInt8 × Nat) :=
  (number? base count cs).bind fun n => (value? n).map (·, count)

/-- What an escape sequence stands for, and the number of its characters after the backslash. -/
def unescape? (cs : List Char) : Option (List UInt8 × Nat) :=
  match cs with
  | [] => none
  | 'x' :: rest => (coded? 16 2 ofByte? rest).map fun (value, n) => (value, n + 1)
  | 'u' :: rest => (coded? 16 4 ofCodePoint? rest).map fun (value, n) => (value, n + 1)
  | 'U' :: rest => (coded? 16 8 ofCodePoint? rest).map fun (value, n) => (value, n + 1)
  | c :: _ =>
    match escaped? c with
    | some d => some (bytes [d], 1)
    | none => coded? 8 3 ofByte? cs

/-- The value of a quoted string after its opening mark, and what follows the closing one. The
first `skip` characters belong to an escape sequence that has been read. -/
def unquote? (skip : Nat) (cs : List Char) : Option (List UInt8 × List Char) :=
  match cs, skip with
  | [], _ => none
  | _ :: rest, skip + 1 => unquote? skip rest
  | c :: rest, 0 =>
    if c = '"' then some ([], rest)
    else if c = '\n' then none
    else if c = '\\' then do
      let (value, length) ← unescape? rest
      let (more, rest) ← unquote? length rest
      pure (value ++ more, rest)
    else do
      let (more, rest) ← unquote? 0 rest
      pure (bytes [c] ++ more, rest)

/-- Formats are made of anything but controls, blanks, colons and quotation marks. -/
def isFormatChar (c : Char) : Bool :=
  ' ' < c && c ≠ ':' && c ≠ '"' && c ≠ '\x7f'

lemma unquote?_length {skip : Nat} {cs rest : List Char} {value : List UInt8}
    (h : unquote? skip cs = some (value, rest)) : rest.length < cs.length := by
  induction cs generalizing skip value rest with
  | nil => simp [unquote?] at h
  | cons c cs ih =>
    cases skip with
    | succ skip => exact Nat.lt_succ_of_lt (ih (by simpa [unquote?] using h))
    | zero =>
      rw [unquote?] at h
      split_ifs at h with mark lineFeed backslash
      · simp_all
      · simp only [Option.bind_eq_bind, Option.bind_eq_some_iff, Prod.exists] at h
        obtain ⟨_, length, -, _, _, hrest, hpair⟩ := h
        cases hpair
        exact Nat.lt_succ_of_lt (ih hrest)
      · simp only [Option.bind_eq_bind, Option.bind_eq_some_iff, Prod.exists] at h
        obtain ⟨_, _, hrest, hpair⟩ := h
        cases hpair
        exact Nat.lt_succ_of_lt (ih hrest)

/-- A format and the value of its key, and what follows them. -/
def readPair? (cs : List Char) : Option ((String × List UInt8) × List Char) :=
  match cs.takeWhile isFormatChar, cs.dropWhile isFormatChar with
  | c :: format, ':' :: '"' :: quoted =>
    (unquote? 0 quoted).map fun (value, rest) => ((String.ofList (c :: format), value), rest)
  | _, _ => none

lemma readPair?_length {cs rest : List Char} {pair : String × List UInt8}
    (h : readPair? cs = some (pair, rest)) : rest.length < cs.length := by
  unfold readPair? at h
  split at h
  · rename_i hquoted
    obtain ⟨_, hvalue, hpair⟩ := Option.map_eq_some_iff.mp h
    cases hpair
    have hlength := unquote?_length hvalue
    have hsuffix := (List.dropWhile_suffix (l := cs) isFormatChar).length_le
    rw [hquoted, List.length_cons, List.length_cons] at hsuffix
    omega
  · cases h

/-- The formats of a tag and the values of their keys, in their order. -/
def readTag? (cs : List Char) : Option (List (String × List UInt8)) :=
  match cs with
  | [] => some []
  | c :: rest =>
    if c = ' ' then readTag? rest
    else
      match _ : readPair? (c :: rest) with
      | some (pair, after) => (readTag? after).map (pair :: ·)
      | none => none
termination_by cs.length
decreasing_by
  · simp
  · exact readPair?_length ‹_›

/-- A tag that can stand between backquotes, and whose text is read as these formats with these
keys. -/
def IsReadable (tags : Tags) : Prop :=
  '\x60' ∉ (structTag tags).toList ∧
    readTag? (structTag tags).toList =
      some (tags.map fun (format, key) => (format, bytes key.toList))

/-- The characters that end or break a quoted string, or begin an escape sequence in it. -/
def isMark (c : Char) : Bool :=
  c = '"' || c = '\\' || c = '\n'

/-- A key that stands for itself in the text of a tag. -/
def IsPlain (key : String) : Prop :=
  ∀ c ∈ key.toList, isMark c = false ∧ c ≠ '\x60'

instance (key : String) : Decidable (IsPlain key) :=
  List.decidableBAll (fun c => isMark c = false ∧ c ≠ '\x60') key.toList

/-- A format that can be told from what follows it. -/
def IsFormat (format : String) : Prop :=
  format ≠ "" ∧ ∀ c ∈ format.toList, isFormatChar c = true ∧ c ≠ '\x60'

instance (format : String) : Decidable (IsFormat format) :=
  @instDecidableAnd _ _ inferInstance
    (List.decidableBAll (fun c => isFormatChar c = true ∧ c ≠ '\x60') format.toList)

lemma bytes_append (cs ds : List Char) : bytes (cs ++ ds) = bytes cs ++ bytes ds :=
  List.flatMap_append

lemma bytes_cons (c : Char) (cs : List Char) : bytes (c :: cs) = bytes [c] ++ bytes cs :=
  bytes_append [c] cs

lemma isMark_eq_false_iff {c : Char} : isMark c = false ↔ c ≠ '"' ∧ c ≠ '\\' ∧ c ≠ '\n' := by
  simp [isMark, and_assoc]

lemma unquote?_plain {key : List Char} (h : ∀ c ∈ key, isMark c = false) (rest : List Char) :
    unquote? 0 (key ++ '"' :: rest) = some (bytes key, rest) := by
  induction key with
  | nil => rfl
  | cons c key ih =>
    rw [List.forall_mem_cons] at h
    obtain ⟨hquote, hbackslash, hlineFeed⟩ := isMark_eq_false_iff.mp h.1
    rw [List.cons_append, unquote?, if_neg hquote, if_neg hlineFeed, if_neg hbackslash, ih h.2,
      bytes_cons c key]
    rfl

lemma length_bytes_singleton (c : Char) : (bytes [c]).length = c.utf8Size := by
  rw [bytes, List.flatMap_singleton, String.length_utf8EncodeChar]

lemma length_le_bytes (cs : List Char) : cs.length ≤ (bytes cs).length := by
  induction cs with
  | nil => exact Nat.le_refl 0
  | cons c cs ih =>
    have hsize := c.utf8Size_pos
    rw [bytes_cons, List.length_append, List.length_cons, length_bytes_singleton]
    omega

lemma add_length_bytes_drop {cs : List Char} {n : Nat} (h : n ≤ cs.length) :
    n + (bytes (cs.drop n)).length ≤ (bytes cs).length := by
  have htake := length_le_bytes (cs.take n)
  rw [List.length_take_of_le h] at htake
  rw [← List.take_append_drop n cs, bytes_append, List.length_append, List.take_append_drop]
  omega

/-- No byte of another character is that of a quotation mark. -/
lemma mem_of_quote_mem_bytes {cs : List Char} (h : 0x22 ∈ bytes cs) : '"' ∈ cs := by
  obtain ⟨c, hc, hbyte⟩ := List.mem_flatMap.mp h
  have hval : c.toNat = 0x22 := by
    simp only [String.utf8EncodeChar, Char.toNat_val] at hbyte
    split_ifs at hbyte <;> simp [← UInt8.toNat_inj] at hbyte <;> omega
  have hquote : c = '"' := Char.toNat_inj.mp hval
  exact hquote ▸ hc

lemma foldlM_addDigit?_quote {cs : List Char} (h : '"' ∈ cs) (base n : Nat) :
    cs.foldlM (addDigit? base) n = none := by
  induction cs generalizing n with
  | nil => cases h
  | cons c cs ih =>
    rw [List.foldlM_cons]
    rcases List.mem_cons.mp h with rfl | h
    · rfl
    · cases addDigit? base n c with
      | none => rfl
      | some n => exact ih h n

/-- A number before a quotation mark ends before it. -/
lemma le_length_of_number? {base count n : Nat} {key rest : List Char}
    (h : number? base count (key ++ '"' :: rest) = some n) : count ≤ key.length := by
  by_contra hlt
  have hmem : '"' ∈ (key ++ '"' :: rest).take count := by
    obtain ⟨k, hk⟩ := Nat.exists_eq_add_of_lt (Nat.lt_of_not_le hlt)
    rw [hk, Nat.add_assoc, List.take_append, List.take_of_length_le (by omega)]
    simp
  rw [number?, foldlM_addDigit?_quote hmem, ite_self] at h
  cases h

lemma length_of_escaped? {c d : Char} (h : escaped? c = some d) : (bytes [d]).length = 1 := by
  unfold escaped? at h
  split_ifs at h <;> cases h <;> rfl

lemma length_of_ofByte? {n : Nat} {value : List UInt8} (h : ofByte? n = some value) :
    value.length ≤ 1 := by
  unfold ofByte? at h
  split_ifs at h
  cases h
  exact Nat.le_refl 1

lemma length_of_ofCodePoint? {n : Nat} {value : List UInt8} (h : ofCodePoint? n = some value) :
    value.length ≤ 4 := by
  unfold ofCodePoint? at h
  split_ifs at h
  cases h
  rw [length_bytes_singleton]
  exact Char.utf8Size_le_four _

/-- Numbers do not go on behind a quotation mark, and have at least as many digits as bytes. -/
lemma coded?_quote {base count length : Nat} {value? : Nat → Option (List UInt8)}
    {key rest : List Char} {value : List UInt8}
    (hvalue : ∀ {n value}, value? n = some value → value.length ≤ count)
    (h : coded? base count value? (key ++ '"' :: rest) = some (value, length)) :
    length ≤ key.length ∧ value.length ≤ length := by
  obtain ⟨n, hn, hpair⟩ := Option.bind_eq_some_iff.mp h
  obtain ⟨_, hbytes, hpair⟩ := Option.map_eq_some_iff.mp hpair
  cases hpair
  exact ⟨le_length_of_number? hn, hvalue hbytes⟩

/-- The same for a number behind a letter. -/
lemma coded?_letter_quote {base count length : Nat} {value? : Nat → Option (List UInt8)} {c : Char}
    {key rest : List Char} {value : List UInt8}
    (hvalue : ∀ {n value}, value? n = some value → value.length ≤ count)
    (h : ((coded? base count value? (key ++ '"' :: rest)).map fun (value, n) => (value, n + 1)) =
      some (value, length)) :
    length ≤ (c :: key).length ∧ value.length ≤ length := by
  obtain ⟨_, hcoded, hpair⟩ := Option.map_eq_some_iff.mp h
  cases hpair
  obtain ⟨hlength, hvalue⟩ := coded?_quote hvalue hcoded
  rw [List.length_cons]
  omega

/-- An escape sequence before a quotation mark ends before it, unless it escapes the mark. It
stands for no more bytes than it has characters after the backslash. -/
lemma unescape?_quote {key rest : List Char} {value : List UInt8} {length : Nat}
    (h : unescape? (key ++ '"' :: rest) = some (value, length)) :
    (key = [] ∧ value = [0x22] ∧ length = 1) ∨ (length ≤ key.length ∧ value.length ≤ length) := by
  cases key with
  | nil =>
    have hmark : unescape? ('"' :: rest) = some ([0x22], 1) := rfl
    rw [List.nil_append, hmark, Option.some_inj, Prod.mk.injEq] at h
    exact .inl ⟨rfl, h.1.symm, h.2.symm⟩
  | cons c key =>
    right
    rw [List.cons_append] at h
    unfold unescape? at h
    split at h
    case h_1 heq => cases heq
    case h_2 heq =>
      cases heq
      exact coded?_letter_quote (fun h => Nat.le_succ_of_le (length_of_ofByte? h)) h
    case h_3 heq =>
      cases heq
      exact coded?_letter_quote length_of_ofCodePoint? h
    case h_4 heq =>
      cases heq
      exact coded?_letter_quote (fun h => Nat.le_trans (length_of_ofCodePoint? h) (by decide)) h
    case h_5 heq =>
      cases heq
      split at h
      · rename_i hescaped
        cases h
        rw [length_of_escaped? hescaped, List.length_cons]
        omega
      · rw [← List.cons_append] at h
        exact coded?_quote (fun h => Nat.le_trans (length_of_ofByte? h) (by decide)) h

/-- What is read of a quoted string that has the key and a quotation mark in it: no more bytes than
the key has, and as many only of a key without marks, or else a quotation mark before that. -/
lemma unquote?_quote {key rest after : List Char} {value : List UInt8} {skip : Nat}
    (hkey : '"' ∉ key) (hskip : skip ≤ key.length)
    (h : unquote? skip (key ++ '"' :: rest) = some (value, after)) :
    (value.length ≤ (bytes (key.drop skip)).length ∧
      (value.length = (bytes (key.drop skip)).length → ∀ c ∈ key.drop skip, isMark c = false)) ∨
    ∃ before more, value = before ++ 0x22 :: more ∧
      before.length < (bytes (key.drop skip)).length := by
  induction key generalizing skip value with
  | nil =>
    obtain rfl : skip = 0 := by simpa using hskip
    have hmark : unquote? 0 ('"' :: rest) = some ([], rest) := rfl
    rw [List.nil_append, hmark, Option.some_inj, Prod.mk.injEq] at h
    obtain ⟨rfl, -⟩ := h
    exact .inl ⟨Nat.zero_le _, by simp⟩
  | cons c key ih =>
    rw [List.mem_cons, not_or] at hkey
    obtain ⟨hc, hkey⟩ := hkey
    cases skip with
    | succ skip => exact ih hkey (Nat.le_of_succ_le_succ hskip) (by simpa [unquote?] using h)
    | zero =>
      have hsize : (bytes (c :: key)).length = c.utf8Size + (bytes key).length := by
        rw [bytes_cons, List.length_append, length_bytes_singleton]
      have hpos := c.utf8Size_pos
      rw [List.cons_append, unquote?, if_neg (Ne.symm hc)] at h
      rw [List.drop_zero, hsize]
      split_ifs at h with hlineFeed hbackslash
      · simp only [Option.bind_eq_bind, Option.bind_eq_some_iff, Prod.exists] at h
        obtain ⟨front, length, hescape, more, _, hmore, hpair⟩ := h
        cases hpair
        rcases unescape?_quote hescape with ⟨-, rfl, -⟩ | ⟨hlength, hfront⟩
        · exact .inr ⟨[], more, rfl, by rw [List.length_nil]; omega⟩
        · -- the sequence stands for less than it takes up, so the value stays behind the key
          have hdrop := add_length_bytes_drop hlength
          rcases ih hkey hlength hmore with ⟨hle, -⟩ | ⟨before, tail, rfl, hlt⟩
          · rw [List.length_append]
            exact .inl ⟨by omega, fun heq => by omega⟩
          · refine .inr ⟨front ++ before, tail, by simp, ?_⟩
            rw [List.length_append]
            omega
      · simp only [Option.bind_eq_bind, Option.bind_eq_some_iff, Prod.exists] at h
        obtain ⟨more, _, hmore, hpair⟩ := h
        cases hpair
        rcases ih hkey (Nat.zero_le _) hmore with ⟨hle, hplain⟩ | ⟨before, tail, rfl, hlt⟩
        · rw [List.length_append, length_bytes_singleton]
          refine .inl ⟨Nat.add_le_add_left hle _, fun heq => List.forall_mem_cons.mpr ⟨?_, ?_⟩⟩
          · exact isMark_eq_false_iff.mpr ⟨Ne.symm hc, hbackslash, hlineFeed⟩
          · exact hplain (Nat.add_left_cancel heq)
        · refine .inr ⟨bytes [c] ++ before, tail, by simp, ?_⟩
          rw [List.length_append, length_bytes_singleton]
          exact Nat.add_lt_add_left hlt _

lemma isMark_of_unquote? {key rest after : List Char}
    (h : unquote? 0 (key ++ '"' :: rest) = some (bytes key, after)) :
    ∀ c ∈ key, isMark c = false := by
  by_cases hquote : '"' ∈ key
  · -- the value ends at the first mark in the key, or has one before it
    exfalso
    obtain ⟨front, back, rfl, hfront⟩ := List.eq_append_cons_of_mem hquote
    rw [List.append_assoc, List.cons_append] at h
    rcases unquote?_quote hfront (Nat.zero_le _) h with ⟨hlength, -⟩ | ⟨before, more, hbytes, hlt⟩
    · rw [bytes_append, bytes_cons, List.length_append, List.length_append,
        length_bytes_singleton] at hlength
      have := Char.utf8Size_pos '"'
      rw [List.drop_zero] at hlength
      omega
    · refine hfront (mem_of_quote_mem_bytes (List.mem_of_getElem? (i := before.length) ?_))
      have hat := congrArg (·[before.length]?) hbytes
      rw [List.drop_zero] at hlt
      simpa [bytes_append, List.getElem?_append_left hlt] using hat
  · rcases unquote?_quote hquote (Nat.zero_le _) h with ⟨-, hplain⟩ | ⟨before, more, hbytes, -⟩
    · exact hplain rfl
    · refine absurd (mem_of_quote_mem_bytes ?_) hquote
      rw [hbytes]
      simp

/-- The characters of a format, its key and the marks around it. -/
def pairChars (format key : String) : List Char :=
  format.toList ++ ':' :: '"' :: (key.toList ++ ['"'])

/-- The characters of the tags behind a pair. -/
def tailChars (tags : Tags) : List Char :=
  if tags = [] then [] else ' ' :: (structTag tags).toList

lemma structTag_cons (format key : String) (tags : Tags) :
    (structTag ((format, key) :: tags)).toList = pairChars format key ++ tailChars tags := by
  cases tags with
  | nil => simp [structTag, pairChars, tailChars]
  | cons pair tags => simp [structTag, pairChars, tailChars, String.intercalate_cons_cons]

lemma readTag?_tailChars (tags : Tags) :
    readTag? (tailChars tags) = readTag? (structTag tags).toList := by
  unfold tailChars
  split_ifs with h
  · rw [h]
    rfl
  · rw [readTag?, if_pos rfl]

lemma exists_toList_eq_cons {s : String} (h : s ≠ "") : ∃ c cs, s.toList = c :: cs :=
  List.exists_cons_of_ne_nil fun hnil => h (String.toList_eq_nil_iff.mp hnil)

lemma readPair?_pairChars {format : String} (hformat : IsFormat format) (key : String)
    (tail : List Char) :
    readPair? (pairChars format key ++ tail) =
      (unquote? 0 (key.toList ++ '"' :: tail)).map fun (value, rest) =>
        ((format, value), rest) := by
  have hchars : ∀ c ∈ format.toList, isFormatChar c = true := fun c hc => (hformat.2 c hc).1
  obtain ⟨c, cs, hcons⟩ := exists_toList_eq_cons hformat.1
  have htake : (pairChars format key ++ tail).takeWhile isFormatChar = c :: cs := by
    rw [pairChars, List.append_assoc, List.takeWhile_append_of_pos hchars, hcons]
    simp [isFormatChar]
  have hdrop : (pairChars format key ++ tail).dropWhile isFormatChar =
      ':' :: '"' :: (key.toList ++ '"' :: tail) := by
    rw [pairChars, List.append_assoc, List.dropWhile_append_of_pos hchars]
    simp [isFormatChar]
  have hformat' : String.ofList (c :: cs) = format := by rw [← hcons, String.ofList_toList]
  simp only [readPair?, htake, hdrop, hformat']

lemma readTag?_pairChars {format : String} (hformat : IsFormat format) (key : String)
    (tail : List Char) :
    readTag? (pairChars format key ++ tail) =
      (unquote? 0 (key.toList ++ '"' :: tail)).bind fun (value, rest) =>
        (readTag? rest).map ((format, value) :: ·) := by
  have hpair := readPair?_pairChars hformat key tail
  obtain ⟨c, cs, hcons⟩ := exists_toList_eq_cons hformat.1
  have hblank : c ≠ ' ' := by
    rintro rfl
    have hc := (hformat.2 ' ' (by simp [hcons])).1
    simp [isFormatChar] at hc
  have htext : pairChars format key ++ tail =
      c :: (cs ++ ':' :: '"' :: (key.toList ++ '"' :: tail)) := by
    simp [pairChars, hcons]
  rw [htext] at hpair ⊢
  rw [readTag?, if_neg hblank]
  cases hvalue : unquote? 0 (key.toList ++ '"' :: tail) with
  | none =>
    rw [hvalue, Option.map_none] at hpair
    split <;> simp_all
  | some pair =>
    rw [hvalue, Option.map_some] at hpair
    split <;> simp_all

lemma readTag?_structTag_iff {tags : Tags} (hformats : ∀ p ∈ tags, IsFormat p.1) :
    readTag? (structTag tags).toList =
        some (tags.map fun (format, key) => (format, bytes key.toList)) ↔
      ∀ p ∈ tags, ∀ c ∈ p.2.toList, isMark c = false := by
  induction tags with
  | nil => simp [structTag, readTag?]
  | cons p tags ih =>
    obtain ⟨format, key⟩ := p
    rw [List.forall_mem_cons] at hformats ⊢
    rw [structTag_cons, readTag?_pairChars hformats.1, List.map_cons, ← ih hformats.2]
    constructor
    · intro h
      obtain ⟨⟨value, rest⟩, hvalue, hrest⟩ := Option.bind_eq_some_iff.mp h
      obtain ⟨_, hread, hcons⟩ := Option.map_eq_some_iff.mp hrest
      cases hcons
      have hkey := isMark_of_unquote? hvalue
      rw [unquote?_plain hkey] at hvalue
      cases hvalue
      exact ⟨hkey, (readTag?_tailChars tags).symm.trans hread⟩
    · rintro ⟨hkey, hread⟩
      rw [unquote?_plain hkey, Option.bind_some]
      simp only [readTag?_tailChars, hread, Option.map_some]

/-- Nothing but formats, keys and the marks around them is written. -/
lemma mem_structTag_iff {c : Char} (hcolon : c ≠ ':') (hquote : c ≠ '"') (hblank : c ≠ ' ')
    (tags : Tags) :
    c ∈ (structTag tags).toList ↔ ∃ p ∈ tags, c ∈ p.1.toList ∨ c ∈ p.2.toList := by
  induction tags with
  | nil => simp [structTag]
  | cons p tags ih =>
    have htail : c ∈ tailChars tags ↔ c ∈ (structTag tags).toList := by
      unfold tailChars
      split_ifs with h <;> simp [h, structTag, hblank]
    rw [structTag_cons, List.mem_append, htail, ih]
    simp [pairChars, hcolon, hquote]

/-- Tags are read back just when all their keys are plain. -/
lemma isReadable_iff {tags : Tags} (hformats : ∀ p ∈ tags, IsFormat p.1) :
    IsReadable tags ↔ ∀ p ∈ tags, IsPlain p.2 := by
  rw [IsReadable, readTag?_structTag_iff hformats,
    mem_structTag_iff (by decide) (by decide) (by decide)]
  constructor
  · rintro ⟨hbackquote, hmarks⟩ p hp c hc
    refine ⟨hmarks p hp c hc, ?_⟩
    rintro rfl
    exact hbackquote ⟨p, hp, .inr hc⟩
  · intro hplain
    refine ⟨?_, fun p hp c hc => (hplain p hp c hc).1⟩
    rintro ⟨p, hp, hformat | hkey⟩
    · exact ((hformats p hp).2 _ hformat).2 rfl
    · exact (hplain p hp _ hkey).2 rfl

section Words

open Constraint (IsName isNameChar)

lemma not_mem_of_isName {word : String} (h : IsName word) {c : Char}
    (hc : isNameChar c = false) : c ∉ word.toList := by
  intro hmem
  rw [h.2 c hmem] at hc
  cases hc

lemma isFormatChar_of_isNameChar {c : Char} (h : isNameChar c = true) : isFormatChar c = true := by
  have hcontrol : ∀ n < 0x21, isNameChar (Char.ofNat n) = false := by decide
  have hblank : 0x20 < c.toNat := by
    by_contra hle
    have hc := hcontrol c.toNat (by omega)
    rw [Char.ofNat_toNat, h] at hc
    cases hc
  have hmark : ∀ d, isNameChar d = false → c ≠ d := by
    rintro d hd rfl
    exact absurd h (by rw [hd]; decide)
  simp only [isFormatChar, Bool.and_eq_true, decide_eq_true_eq]
  exact ⟨⟨⟨hblank, hmark ':' (by decide)⟩, hmark '"' (by decide)⟩, hmark '\x7f' (by decide)⟩

lemma isFormat_of_isName {word : String} (h : IsName word) : IsFormat word := by
  refine ⟨h.1, fun c hc => ⟨isFormatChar_of_isNameChar (h.2 c hc), ?_⟩⟩
  rintro rfl
  exact not_mem_of_isName h (by decide) hc

lemma isPlain_of_isName {word : String} (h : IsName word) : IsPlain word := by
  intro c hc
  rw [isMark_eq_false_iff]
  refine ⟨⟨?_, ?_, ?_⟩, ?_⟩ <;> rintro rfl <;> exact not_mem_of_isName h (by decide) hc

end Words

end ModuleBindings.Go
