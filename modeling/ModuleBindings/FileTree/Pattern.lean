/-!
# Name patterns

A pattern matches names character by character: `?` stands for any character, `*` for any
number of them, and brackets for one character among, or with `!` not among, some characters
and ranges. `**` stands for any number of directories and must be all of a piece between
slashes. `Pattern.Matches` says what matching means; `Pattern.matchesChars_iff` that the matcher
decides it.
-/

namespace ModuleBindings.FileTree

inductive PatternFault where
  | tooManyStars
  | starsWithinPiece
  | invalidRange
  deriving DecidableEq, Repr

/-- A fault of a pattern and the number of characters before it. -/
structure PatternError where
  position : Nat
  fault : PatternFault
  deriving DecidableEq, Repr

namespace PatternError

def message (e : PatternError) : String :=
  "Pattern syntax error near position " ++ toString e.position ++ ": " ++
    match e.fault with
    | .tooManyStars => "wildcards are either regular `*` or recursive `**`"
    | .starsWithinPiece => "recursive wildcards must form a single path component"
    | .invalidRange => "invalid range pattern"

end PatternError

/-- Characters from `first` to `last`. -/
structure CharSpan where
  first : Char
  last : Char
  deriving DecidableEq, Repr

namespace CharSpan

def contains (s : CharSpan) (c : Char) : Bool :=
  s.first ≤ c && c ≤ s.last

/-- The spans between two brackets. A character alone is a span of its own. -/
def ofChars : List Char → List CharSpan
  | a :: '-' :: b :: rest => ⟨a, b⟩ :: ofChars rest
  | a :: rest => ⟨a, a⟩ :: ofChars rest
  | [] => []

end CharSpan

inductive Pattern.Item where
  | char (c : Char)
  | anyChar
  | anyRun
  | anyDirectories
  | within (spans : List CharSpan)
  | except (spans : List CharSpan)
  deriving DecidableEq, Repr

abbrev Pattern := List Pattern.Item

namespace Pattern

/-- What follows an opening bracket: the item and the number of characters it takes up. The
first character within the brackets may be a closing bracket. -/
def bracket? (cs : List Char) : Option (Item × Nat) :=
  match cs with
  | '!' :: c :: rest =>
    let inner := rest.takeWhile (· ≠ ']')
    if inner.length < rest.length then
      some (.except (CharSpan.ofChars (c :: inner)), inner.length + 3)
    else none
  | '!' :: [] => none
  | c :: rest =>
    let inner := rest.takeWhile (· ≠ ']')
    if inner.length < rest.length then
      some (.within (CharSpan.ofChars (c :: inner)), inner.length + 2)
    else none
  | [] => none

/-- Reads a pattern from the character number `n` on; `atStart` if it begins a piece. -/
def readFrom (n : Nat) (atStart : Bool) (cs : List Char) : Except PatternError Pattern :=
  match cs with
  | [] => .ok []
  | '*' :: '*' :: '*' :: _ => .error ⟨n + 2, .tooManyStars⟩
  | '*' :: '*' :: rest =>
    if !atStart then .error ⟨n - 1, .starsWithinPiece⟩
    else
      match rest with
      | [] => .ok [.anyDirectories]
      | '/' :: more => (readFrom (n + 3) true more).map (.anyDirectories :: ·)
      | _ => .error ⟨n + 2, .starsWithinPiece⟩
  | '*' :: rest => (readFrom (n + 1) false rest).map (.anyRun :: ·)
  | '?' :: rest => (readFrom (n + 1) false rest).map (.anyChar :: ·)
  | '[' :: rest =>
    match bracket? rest with
    | some (item, used) => (readFrom (n + 1 + used) false (rest.drop used)).map (item :: ·)
    | none => .error ⟨n, .invalidRange⟩
  | c :: rest => (readFrom (n + 1) (c = '/') rest).map (.char c :: ·)
termination_by cs.length

def parse (text : String) : Except PatternError Pattern :=
  readFrom 0 true text.toList

/-- The text that a pattern without wildcards stands for. -/
def literal? : Pattern → Option (List Char)
  | [] => some []
  | .char c :: rest => (literal? rest).map (c :: ·)
  | _ :: _ => none

def isRecursive (p : Pattern) : Bool :=
  p.contains .anyDirectories

/-- Whether an item stands for this one character. -/
def Item.admits : Item → Char → Bool
  | .char d, c => c = d
  | .anyChar, _ => true
  | .within spans, c => spans.any (·.contains c)
  | .except spans, c => !spans.any (·.contains c)
  | .anyRun, _ | .anyDirectories, _ => false

def Item.isRun : Item → Bool
  | .anyRun | .anyDirectories => true
  | _ => false

/-- What it is for a name to match a pattern. -/
inductive Matches : Pattern → List Char → Prop where
  | nil : Matches [] []
  | one {item : Item} {p : Pattern} {c : Char} {cs : List Char} :
      item.admits c = true → Matches p cs → Matches (item :: p) (c :: cs)
  | run {item : Item} {p : Pattern} {skipped cs : List Char} :
      item.isRun = true → Matches p cs → Matches (item :: p) (skipped ++ cs)

/-- Whether the rest of a name matches after some characters, possibly none, are skipped. -/
def skipThen (matchRest : List Char → Bool) : List Char → Bool
  | [] => matchRest []
  | c :: cs => matchRest (c :: cs) || skipThen matchRest cs

def matchesChars : Pattern → List Char → Bool
  | [], cs => cs.isEmpty
  | item :: p, cs =>
    if item.isRun then skipThen (matchesChars p) cs
    else
      match cs with
      | [] => false
      | c :: cs => item.admits c && matchesChars p cs

def matchesName (p : Pattern) (name : String) : Bool :=
  matchesChars p name.toList

theorem skipThen_iff {f : List Char → Bool} {cs : List Char} :
    skipThen f cs = true ↔ ∃ skipped rest, cs = skipped ++ rest ∧ f rest = true := by
  induction cs with
  | nil =>
    constructor
    · intro h
      exact ⟨[], [], rfl, h⟩
    · rintro ⟨skipped, rest, h, hf⟩
      obtain ⟨rfl, rfl⟩ := List.append_eq_nil_iff.1 h.symm
      exact hf
  | cons c cs ih =>
    rw [skipThen, Bool.or_eq_true, ih]
    constructor
    · rintro (h | ⟨skipped, rest, rfl, h⟩)
      · exact ⟨[], c :: cs, rfl, h⟩
      · exact ⟨c :: skipped, rest, rfl, h⟩
    · rintro ⟨skipped, rest, h, hf⟩
      cases skipped with
      | nil => exact .inl (by simpa [h] using hf)
      | cons d skipped =>
        obtain ⟨rfl, rfl⟩ := List.cons.inj h
        exact .inr ⟨skipped, rest, rfl, hf⟩

/-- The matcher decides matching. -/
theorem matchesChars_iff {p : Pattern} {cs : List Char} :
    matchesChars p cs = true ↔ Matches p cs := by
  induction p generalizing cs with
  | nil =>
    constructor
    · intro h
      rw [List.isEmpty_iff.1 h]
      exact .nil
    · rintro ⟨⟩
      rfl
  | cons item p ih =>
    rw [matchesChars.eq_def]
    dsimp only
    split
    · next hr =>
      rw [skipThen_iff]
      constructor
      · rintro ⟨skipped, rest, rfl, h⟩
        exact .run hr (ih.1 h)
      · intro h
        cases h with
        | one ha _ => cases item <;> simp_all [Item.admits, Item.isRun]
        | run _ h => exact ⟨_, _, rfl, ih.2 h⟩
    · next hr =>
      constructor
      · intro h
        split at h
        · contradiction
        · next c cs =>
          obtain ⟨ha, h⟩ := Bool.and_eq_true _ _ ▸ h
          exact .one ha (ih.1 h)
      · intro h
        cases h with
        | one ha h => simp [ha, ih.2 h]
        | run h' _ => exact absurd h' hr

end Pattern

end ModuleBindings.FileTree
