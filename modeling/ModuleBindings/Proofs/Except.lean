import Mathlib.Data.List.Forall2
import Mathlib.Tactic.Lemma

/-!
# Results of steps that may fail
-/

namespace ModuleBindings.Proofs

variable {ε α β : Type}

lemma bind_eq_ok {x : Except ε α} {f : α → Except ε β} {b : β} :
    x >>= f = .ok b ↔ ∃ a, x = .ok a ∧ f a = .ok b := by
  cases x with
  | error e => simp [Bind.bind, Except.bind]
  | ok a => simp [Bind.bind, Except.bind]

lemma bind_eq_error {x : Except ε α} {f : α → Except ε β} {e : ε} :
    x >>= f = .error e ↔ x = .error e ∨ ∃ a, x = .ok a ∧ f a = .error e := by
  cases x with
  | error e' => simp [Bind.bind, Except.bind]
  | ok a => simp [Bind.bind, Except.bind]

lemma pure_eq_ok {a b : α} : (pure a : Except ε α) = .ok b ↔ a = b := by
  simp [Pure.pure, Except.pure]

lemma pure_ne_error {a : α} {e : ε} : (pure a : Except ε α) ≠ .error e := by
  simp [Pure.pure, Except.pure]

lemma mapError_eq_ok {ε' : Type} {x : Except ε α} {f : ε → ε'} {a : α} :
    x.mapError f = .ok a ↔ x = .ok a := by
  cases x with
  | error e => exact ⟨nofun, nofun⟩
  | ok a' =>
    constructor
    · rintro ⟨⟩
      rfl
    · rintro ⟨⟩
      rfl

lemma mapError_eq_error {ε' : Type} {x : Except ε α} {f : ε → ε'} {e : ε'} :
    x.mapError f = .error e ↔ ∃ e', x = .error e' ∧ f e' = e := by
  cases x with
  | error e' =>
    constructor
    · rintro ⟨⟩
      exact ⟨e', rfl, rfl⟩
    · rintro ⟨e'', ⟨⟩, rfl⟩
      rfl
  | ok a => exact ⟨nofun, nofun⟩

/-- A step whose errors are put otherwise, followed by another one. -/
lemma bind_eq_mapError {ε' : Type} {g : ε → ε'} {x : Except ε α} {x' : Except ε' α}
    {f : α → Except ε β} {f' : α → Except ε' β} (hx : x' = x.mapError g)
    (hf : ∀ a, f' a = (f a).mapError g) : x' >>= f' = (x >>= f).mapError g := by
  subst hx
  cases x with
  | error e => rfl
  | ok a => exact hf a

@[simp] lemma isOk_ok {a : α} : (Except.ok a : Except ε α).isOk = true := rfl

@[simp] lemma isOk_error {e : ε} : (Except.error e : Except ε α).isOk = false := rfl

lemma throw_ne_ok {e : ε} {a : α} : (throw e : Except ε α) ≠ .ok a := by
  simp [throw, throwThe, MonadExceptOf.throw]

/-- What is in the results is the result of something. -/
lemma exists_of_mem_mapM {f : α → Except ε β} {xs : List α} {ys : List β}
    (h : xs.mapM f = .ok ys) : ∀ y ∈ ys, ∃ x ∈ xs, f x = .ok y := by
  induction xs generalizing ys with
  | nil =>
    rw [List.mapM_nil, pure_eq_ok] at h
    simp [← h]
  | cons x xs ih =>
    rw [List.mapM_cons, bind_eq_ok] at h
    obtain ⟨y, hy, h⟩ := h
    obtain ⟨rest, hrest, h⟩ := bind_eq_ok.mp h
    obtain rfl := pure_eq_ok.mp h
    rw [List.forall_mem_cons]
    refine ⟨⟨x, List.mem_cons_self, hy⟩, fun y' hy' => ?_⟩
    obtain ⟨x', hx', h⟩ := ih hrest y' hy'
    exact ⟨x', List.mem_cons_of_mem _ hx', h⟩

section Traversals

variable {f : α → Except ε β} {x : α} {xs ys : List α} {zs : List β} {e : ε}

/-- The error is that of the first input that fails. -/
def FirstError (f : α → Except ε β) (xs : List α) (e : ε) : Prop :=
  ∃ done x rest, xs = done ++ x :: rest ∧ (∀ y ∈ done, (f y).isOk) ∧ f x = .error e

lemma not_firstError_nil : ¬ FirstError f [] e := by
  rintro ⟨done, x, rest, h, -⟩
  simp at h

lemma firstError_cons_iff :
    FirstError f (x :: xs) e ↔ f x = .error e ∨ (f x).isOk ∧ FirstError f xs e := by
  constructor
  · rintro ⟨done, y, rest, hsplit, hdone, hy⟩
    cases done with
    | nil =>
      obtain ⟨rfl, -⟩ := List.cons.inj hsplit
      exact .inl hy
    | cons first done =>
      obtain ⟨rfl, hxs⟩ := List.cons.inj hsplit
      rw [List.forall_mem_cons] at hdone
      exact .inr ⟨hdone.1, done, y, rest, hxs, hdone.2, hy⟩
  · rintro (hx | ⟨hx, done, y, rest, rfl, hdone, hy⟩)
    · exact ⟨[], x, xs, rfl, by simp, hx⟩
    · exact ⟨x :: done, y, rest, rfl, List.forall_mem_cons.mpr ⟨hx, hdone⟩, hy⟩

lemma mapM_eq_ok_iff : xs.mapM f = .ok zs ↔ List.Forall₂ (fun x z => f x = .ok z) xs zs := by
  induction xs generalizing zs with
  | nil => rw [List.mapM_nil, pure_eq_ok, List.forall₂_nil_left_iff, eq_comm]
  | cons x xs ih =>
    simp only [List.mapM_cons, bind_eq_ok, pure_eq_ok, ih, List.forall₂_cons_left_iff]
    constructor
    · rintro ⟨z, hz, rest, hrest, rfl⟩
      exact ⟨z, rest, hz, hrest, rfl⟩
    · rintro ⟨z, rest, hz, hrest, rfl⟩
      exact ⟨z, hz, rest, hrest, rfl⟩

lemma mapM_eq_error_iff : xs.mapM f = .error e ↔ FirstError f xs e := by
  induction xs with
  | nil => simp [not_firstError_nil, pure_ne_error]
  | cons x xs ih =>
    simp only [List.mapM_cons, bind_eq_error, pure_ne_error, and_false, exists_false, or_false, ih,
      firstError_cons_iff]
    cases hx : f x with
    | error e' => simp
    | ok z => simp

lemma mapM_append_eq_ok_iff :
    (xs ++ ys).mapM f = .ok zs ↔
      ∃ zs₁ zs₂, xs.mapM f = .ok zs₁ ∧ ys.mapM f = .ok zs₂ ∧ zs = zs₁ ++ zs₂ := by
  simp only [List.mapM_append, bind_eq_ok, pure_eq_ok]
  constructor
  · rintro ⟨zs₁, h₁, zs₂, h₂, rfl⟩
    exact ⟨zs₁, zs₂, h₁, h₂, rfl⟩
  · rintro ⟨zs₁, zs₂, h₁, h₂, rfl⟩
    exact ⟨zs₁, h₁, zs₂, h₂, rfl⟩

end Traversals

end ModuleBindings.Proofs
