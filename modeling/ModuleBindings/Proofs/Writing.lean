import ModuleBindings.FileTree.Basic
import Mathlib.Data.List.Basic
import Mathlib.Tactic.Lemma
import Mathlib.Tactic.SplitIfs

/-!
# Writing files

A text that was written to a path is read from it. Writing replaces a file or adds one, so every
directory that a path leads through is still there, and the path leads where it led.
-/

namespace ModuleBindings.FileTree

variable {t t' u : FileTree}

lemma at?_append (t : FileTree) (xs ys : List String) :
    t.at? (xs ++ ys) = (t.at? xs).bind fun u => u.at? ys := by
  induction xs generalizing t with
  | nil => rfl
  | cons x xs ih =>
    rw [List.cons_append, at?, at?]
    cases t.entries.lookup x with
    | none => rfl
    | some v => exact ih v

lemma at?_singleton (es : List (String × FileTree)) (name : String) :
    (directory es).at? [name] = es.lookup name := by
  rw [at?, entries]
  cases es.lookup name with
  | none => rfl
  | some v => rfl

/-- The directories of the first tree are in the second one, with all of their names. -/
def Extends (t t' : FileTree) : Prop :=
  ∀ here es, t.at? here = some (directory es) → ∃ es', t'.at? here = some (directory es') ∧
    ∀ name, (es.lookup name).isSome → (es'.lookup name).isSome

lemma isSome_lookup_setEntry {name other : String} {es : List (String × FileTree)}
    (h : (es.lookup other).isSome) : ((setEntry name u es).lookup other).isSome := by
  by_cases heq : other = name
  · rw [heq, lookup_setEntry]
    rfl
  · rwa [lookup_setEntry_of_ne heq]

/-- No directory is lost when something is put where none is. -/
lemma extends_put (u : FileTree) (names : List String) (t : FileTree)
    (h : ∀ es, t.at? names ≠ some (directory es)) : Extends t (put u names t) := by
  induction names generalizing t with
  | nil =>
    intro here es hhere
    cases t with
    | directory es' => exact absurd rfl (h es')
    | file content => cases here <;> simp [at?, entries] at hhere
  | cons name names ih =>
    intro here es hhere
    cases here with
    | nil =>
      obtain rfl : t = directory es := by simpa [at?] using hhere
      refine ⟨_, rfl, ?_⟩
      intro other hother
      exact isSome_lookup_setEntry hother
    | cons first here =>
      rw [at?] at hhere
      rw [put, at?, entries]
      by_cases heq : first = name
      · subst heq
        rw [lookup_setEntry]
        cases hv : t.entries.lookup first with
        | none => simp [hv] at hhere
        | some v =>
          rw [hv] at hhere
          refine ih v ?_ here es hhere
          intro es'
          have hne := h es'
          rwa [at?, hv] at hne
      · rw [lookup_setEntry_of_ne heq]
        refine ⟨es, hhere, ?_⟩
        intro other hother
        exact hother

lemma resolvePieces_append (t : FileTree) (here ps qs : List String) :
    resolvePieces t here (ps ++ qs) =
      (resolvePieces t here ps).bind fun names => resolvePieces t names.reverse qs := by
  induction ps generalizing here with
  | nil => simp [resolvePieces, Except.bind]
  | cons piece ps ih =>
    rw [List.cons_append, resolvePieces, resolvePieces]
    split
    · split_ifs
      · exact ih here
      · exact ih here.tail
      · rfl
      · exact ih (piece :: here)
      · rfl
    · rfl

/-- A path leads on where it led before. -/
lemma Extends.resolvePieces (h : Extends t t') {here ps names : List String}
    (hps : t.resolvePieces here ps = .ok names) : t'.resolvePieces here ps = .ok names := by
  induction ps generalizing here with
  | nil => simpa [FileTree.resolvePieces] using hps
  | cons piece ps ih =>
    rw [FileTree.resolvePieces] at hps
    split at hps
    · next es hhere =>
      obtain ⟨es', hhere', hsub⟩ := h _ _ hhere
      rw [FileTree.resolvePieces, hhere']
      dsimp only
      split_ifs at hps with hstays hup hlong hthere
      · rw [if_pos hstays]
        exact ih hps
      · rw [if_neg hstays, if_pos hup]
        exact ih hps
      · rw [if_neg hstays, if_neg hup, if_neg hlong, if_pos (hsub _ hthere)]
        exact ih hps
    · cases hps

lemma Extends.resolve (h : Extends t t') {path : String} {names : List String}
    (hpath : t.resolve path = .ok names) : t'.resolve path = .ok names := by
  rw [FileTree.resolve] at hpath ⊢
  split_ifs at hpath ⊢ with hzero hempty
  exact h.resolvePieces hpath

/-- Where one more name leads from a directory. -/
lemma resolvePieces_name {names : List String} {es : List (String × FileTree)} {name : String}
    (hnames : t.at? names = some (directory es)) :
    t.resolvePieces names.reverse [name] =
      if staysPut name then .ok names
      else if name = ".." then .ok names.dropLast
      else if maxNameBytes < name.utf8ByteSize then .error .nameTooLong
      else if (es.lookup name).isSome then .ok (names ++ [name])
      else .error .notFound := by
  rw [resolvePieces, List.reverse_reverse, hnames]
  simp only [resolvePieces, List.reverse_reverse, List.reverse_cons, List.tail_reverse]

/-- What is created at a path that leads nowhere is found there. -/
lemma resolve_create {u : FileTree} {path : String}
    (hpath : t.resolve path = .error .notFound) (hne : path ≠ "")
    (h : t.create (pieces path) u = .ok t') :
    ∃ names, t'.resolve path = .ok names ∧ t'.at? names = some u := by
  have hzero : ¬ path.toList.contains '\x00' := by
    intro hzero
    rw [resolve, if_pos hzero] at hpath
    cases hpath
  rw [resolve, if_neg hzero, if_neg hne] at hpath ⊢
  rw [create] at h
  split at h
  · next names hnames =>
    split at h
    · next es name hes hlast =>
      cases h
      have hpieces : (pieces path).dropLast ++ [name] = pieces path :=
        List.dropLast_append_getLast? name hlast
      rw [← hpieces, resolvePieces_append, hnames] at hpath
      change t.resolvePieces names.reverse [name] = .error .notFound at hpath
      rw [resolvePieces_name hes] at hpath
      split_ifs at hpath with hstays hup hlong hthere
      · cases hpath
      -- the name is free, so that the new tree keeps the directories of the old one
      have hfree : t.at? (names ++ [name]) = none := by
        rw [at?_append, hes]
        change (directory es).at? [name] = none
        rw [at?_singleton]
        exact Option.not_isSome_iff_eq_none.mp hthere
      have hext : Extends t (put u (names ++ [name]) t) := by
        apply extends_put
        intro es' hes'
        rw [hfree] at hes'
        cases hes'
      obtain ⟨es', hes', -⟩ := hext names es hes
      have hput : (put u (names ++ [name]) t).at? (names ++ [name]) = some u :=
        at?_put u (names ++ [name]) t
      have hnew : es'.lookup name = some u := by
        rw [at?_append, hes'] at hput
        rwa [← at?_singleton]
      refine ⟨names ++ [name], ?_, hput⟩
      rw [← hpieces, resolvePieces_append, hext.resolvePieces hnames]
      change (put u (names ++ [name]) t).resolvePieces names.reverse [name] = _
      rw [resolvePieces_name hes', if_neg hstays, if_neg hup, if_neg hlong, hnew]
      rfl
    · cases h
    · cases h
  · cases h

lemma readText_of_at? {path text : String} {names : List String}
    (hpath : t.resolve path = .ok names) (hfile : t.at? names = some (file text.toUTF8)) :
    t.readText path = .ok text := by
  have htext : String.fromUTF8? text.toUTF8 = some text := by
    simp [String.fromUTF8?, text.isValidUTF8]
    rfl
  rw [readText, lookup, hpath]
  simp only [hfile, htext]

/-- A text that was written is read. -/
theorem readText_write {path text : String} (h : t.write path text = .ok t') :
    t'.readText path = .ok text := by
  rw [write] at h
  split at h
  · split at h <;> cases h
  · split at h
    · next names hnames =>
      split at h
      · next content hfile =>
        cases h
        have hext : Extends t (put (file text.toUTF8) names t) := by
          apply extends_put
          intro es hes
          rw [hfile] at hes
          cases hes
        exact readText_of_at? (hext.resolve hnames) (at?_put _ names t)
      · cases h
    · next hpath =>
      split at h
      · cases h
      · next hne =>
        obtain ⟨names, hnames, hfile⟩ := resolve_create hpath hne h
        exact readText_of_at? hnames hfile
    · cases h

end ModuleBindings.FileTree
