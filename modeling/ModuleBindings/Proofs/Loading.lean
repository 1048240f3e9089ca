import Mathlib.Data.List.Basic
import ModuleBindings.Module.Load
import ModuleBindings.Proofs.Except

/-!
# Loading what many patterns find

All patterns are resolved before the first module is loaded, so a pattern that finds nothing is
reported before a module that cannot be loaded, wherever the two stand. Otherwise the patterns do
not meet: what some of them find comes in front of what the others find.

A finder may come upon a directory that cannot be read. A file tree has none, but nothing here
depends on that.
-/

namespace ModuleBindings.Module

open FileTree (Glob)
open Proofs

/-- The paths that a pattern asks for, in a tree that lists its own directories. -/
def resolveBy (find : Finder) (t : FileTree) : String → Except LoadError (List String) :=
  resolveWith find t.lister t

/-- The modules that some patterns ask for. -/
def loadAllBy (find : Finder) (t : FileTree) : List String → Except LoadError (List Module) :=
  loadAllWith find t.lister t

/-- Why a pattern is not resolved: it is no glob pattern, it comes upon something that cannot be
looked at, or nothing that it finds is a module. -/
inductive Unresolved (find : Finder) (t : FileTree) (pattern : String) : LoadFault → Prop
  | badPattern {e : FileTree.PatternError} :
    Glob.parse pattern = .error e → Unresolved find t pattern (.badPattern e)
  | unreadable {glob : Glob} {fault : LoadFault} {before : List String}
      {after : List (Except LoadFault String)} :
    Glob.parse pattern = .ok glob → find glob = before.map .ok ++ .error fault :: after →
      Unresolved find t pattern fault
  | noMatch {glob : Glob} {paths : List String} :
    Glob.parse pattern = .ok glob → find glob = paths.map .ok →
      (∀ path ∈ paths, t.isModule path = false) → Unresolved find t pattern .noMatch

variable {find : Finder} {t : FileTree} {ps qs : List String} {pattern : String} {e : LoadError}
  {ms : List Module}

section Resolving

variable {found : List (Except LoadFault String)} {paths : List String}

lemma mapM_mapError_eq_ok_iff :
    (found.mapM fun path => path.mapError (LoadError.mk pattern)) = .ok paths ↔
      found = paths.map .ok := by
  simp only [mapM_eq_ok_iff, mapError_eq_ok]
  induction found generalizing paths with
  | nil => cases paths <;> simp
  | cons path found ih => cases paths <;> simp [ih]

lemma firstError_mapError_iff :
    FirstError (fun path => path.mapError (LoadError.mk pattern)) found e ↔
      e.path = pattern ∧
        ∃ (before : List String) (after : List (Except LoadFault String)),
          found = before.map .ok ++ .error e.fault :: after := by
  induction found with
  | nil => simp [not_firstError_nil]
  | cons path found ih =>
    rw [firstError_cons_iff, ih]
    cases path with
    | error fault =>
      constructor
      · rintro (⟨⟨⟩⟩ | ⟨⟨⟩, -⟩)
        exact ⟨rfl, [], found, rfl⟩
      · rintro ⟨rfl, before, after, hfound⟩
        cases before with
        | nil =>
          cases hfound
          exact .inl rfl
        | cons path before => cases hfound
    | ok path =>
      constructor
      · rintro (⟨⟨⟩⟩ | ⟨-, hpath, before, after, rfl⟩)
        exact ⟨hpath, path :: before, after, rfl⟩
      · rintro ⟨hpath, before, after, hfound⟩
        cases before with
        | nil => cases hfound
        | cons path' before =>
          cases hfound
          exact .inr ⟨rfl, hpath, before, after, rfl⟩

end Resolving

/-- A text without wildcards is always resolved. -/
lemma resolveBy_eq_error_iff :
    resolveBy find t pattern = .error e ↔
      Glob.hasWildcards pattern ∧ e.path = pattern ∧ Unresolved find t pattern e.fault := by
  unfold resolveBy resolveWith
  split_ifs with hwild
  · simp only [hwild, true_and, bind_eq_error, mapError_eq_ok, mapError_eq_error,
      mapM_eq_error_iff, firstError_mapError_iff, mapM_mapError_eq_ok_iff]
    constructor
    · rintro (⟨fault, hparse, rfl⟩ |
        ⟨glob, hparse, ⟨hpath, before, after, hfind⟩ | ⟨paths, hfind, h⟩⟩)
      · exact ⟨rfl, .badPattern hparse⟩
      · exact ⟨hpath, .unreadable hparse hfind⟩
      · split_ifs at h with hnone
        · cases h
          refine ⟨rfl, .noMatch hparse hfind ?_⟩
          simpa [FileTree.isModule] using hnone
        · cases h
    · rintro ⟨rfl, hfault⟩
      generalize hreason : e.fault = reason at hfault
      cases hfault with
      | badPattern hparse => exact .inl ⟨_, hparse, by rw [← hreason]⟩
      | unreadable hparse hfind =>
        subst hreason
        exact .inr ⟨_, hparse, .inl ⟨rfl, _, _, hfind⟩⟩
      | noMatch hparse hfind hnone =>
        refine .inr ⟨_, hparse, .inr ⟨_, hfind, ?_⟩⟩
        rw [if_pos (by simpa [FileTree.isModule] using hnone), ← hreason]
  · simp [hwild, pure_ne_error]

lemma loadAllBy_eq_ok_iff :
    loadAllBy find t ps = .ok ms ↔
      ∃ found, ps.mapM (resolveBy find t) = .ok found ∧ found.flatten.mapM (load t) = .ok ms := by
  exact bind_eq_ok

lemma loadAllBy_append_eq_ok_iff :
    loadAllBy find t (ps ++ qs) = .ok ms ↔
      ∃ ms₁ ms₂, loadAllBy find t ps = .ok ms₁ ∧ loadAllBy find t qs = .ok ms₂ ∧
        ms = ms₁ ++ ms₂ := by
  simp only [loadAllBy_eq_ok_iff, mapM_append_eq_ok_iff]
  constructor
  · rintro ⟨found, ⟨found₁, found₂, hps, hqs, rfl⟩, hload⟩
    rw [List.flatten_append, mapM_append_eq_ok_iff] at hload
    obtain ⟨ms₁, ms₂, h₁, h₂, hms⟩ := hload
    exact ⟨ms₁, ms₂, ⟨found₁, hps, h₁⟩, ⟨found₂, hqs, h₂⟩, hms⟩
  · rintro ⟨ms₁, ms₂, ⟨found₁, hps, h₁⟩, ⟨found₂, hqs, h₂⟩, hms⟩
    refine ⟨found₁ ++ found₂, ⟨found₁, found₂, hps, hqs, rfl⟩, ?_⟩
    rw [List.flatten_append, mapM_append_eq_ok_iff]
    exact ⟨ms₁, ms₂, h₁, h₂, hms⟩

lemma loadAllBy_eq_error_iff :
    loadAllBy find t ps = .error e ↔
      FirstError (resolveBy find t) ps e ∨
        ∃ found, List.Forall₂ (fun p paths => resolveBy find t p = .ok paths) ps found ∧
          FirstError (load t) found.flatten e := by
  unfold loadAllBy loadAllWith
  simp only [bind_eq_error, mapM_eq_error_iff, mapM_eq_ok_iff]
  rfl

/-- Loading distributes over patterns and keeps nothing if it fails. It fails for the first pattern
that is not resolved, wherever that stands, else for the first path that is not loaded. -/
theorem loadAll_concatenates (t : FileTree) (find : Finder) (ps qs : List String) :
    loadAllBy (findIn t) t = loadAll t ∧
    (∀ ms, loadAllBy find t (ps ++ qs) = .ok ms ↔
      ∃ ms₁ ms₂, loadAllBy find t ps = .ok ms₁ ∧ loadAllBy find t qs = .ok ms₂ ∧
        ms = ms₁ ++ ms₂) ∧
    (∀ e, loadAllBy find t ps = .error e ↔
      FirstError (resolveBy find t) ps e ∨
        ∃ found, List.Forall₂ (fun p paths => resolveBy find t p = .ok paths) ps found ∧
          FirstError (load t) found.flatten e) ∧
    ∀ p e, resolveBy find t p = .error e ↔
      Glob.hasWildcards p ∧ e.path = p ∧ Unresolved find t p e.fault := by
  exact ⟨rfl, fun ms => loadAllBy_append_eq_ok_iff, fun e => loadAllBy_eq_error_iff,
    fun p e => resolveBy_eq_error_iff⟩

end ModuleBindings.Module
