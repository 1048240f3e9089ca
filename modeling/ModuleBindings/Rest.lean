/-!
# What a reader leaves

A reader takes something from the front of a list and gives back the rest. The types here carry
the proof that it gives back no more than it was given, which is why reading again ends.
-/

namespace ModuleBindings

/-- What is left by a reader that may have read nothing. -/
abbrev Rest {α : Type} (xs : List α) := { rest : List α // rest.length ≤ xs.length }

/-- What is left by a reader that has read something. -/
abbrev ProperRest {α : Type} (xs : List α) := { rest : List α // rest.length < xs.length }

namespace Rest

variable {α : Type}

def all (xs : List α) : Rest xs :=
  ⟨xs, Nat.le_refl _⟩

def tail (x : α) (xs : List α) : Rest (x :: xs) :=
  ⟨xs, Nat.le_succ _⟩

def none (xs : List α) : Rest xs :=
  ⟨[], Nat.zero_le _⟩

def drop (n : Nat) (xs : List α) : Rest xs :=
  ⟨xs.drop n, (List.drop_suffix n xs).length_le⟩

def trans {xs : List α} (r : Rest xs) (s : Rest r.val) : Rest xs :=
  ⟨s.val, Nat.le_trans s.property r.property⟩

/-- What follows the items in front that have the property `p`. -/
def dropWhile (p : α → Bool) (xs : List α) : Rest xs :=
  ⟨xs.dropWhile p, (List.dropWhile_suffix _).length_le⟩

/-- Something read first makes the rest a proper one. -/
def proper {xs : List α} (r : ProperRest xs) (s : Rest r.val) : ProperRest xs :=
  ⟨s.val, Nat.lt_of_le_of_lt s.property r.property⟩

def ofProper {xs : List α} (r : ProperRest xs) : Rest xs :=
  ⟨r.val, Nat.le_of_lt r.property⟩

end Rest

namespace ProperRest

variable {α : Type}

def tail (x : α) (xs : List α) : ProperRest (x :: xs) :=
  ⟨xs, Nat.lt_succ_self _⟩

def second (x y : α) (xs : List α) : ProperRest (x :: y :: xs) :=
  ⟨xs, Nat.lt_succ_of_lt (Nat.lt_succ_self _)⟩

/-- What is left after skipping and then reading something. -/
def after {xs : List α} (r : Rest xs) (s : ProperRest r.val) : ProperRest xs :=
  ⟨s.val, Nat.lt_of_lt_of_le s.property r.property⟩

/-- Something read before. -/
def cons (x : α) {xs : List α} (r : Rest xs) : ProperRest (x :: xs) :=
  ⟨r.val, Nat.lt_succ_of_le r.property⟩

end ProperRest

end ModuleBindings
