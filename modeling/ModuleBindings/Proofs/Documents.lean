import Mathlib
import ModuleBindings.Module.Load
import ModuleBindings.Proofs.JsonDecoding
import ModuleBindings.Proofs.Writing

/-!
# Documents at the front of a text

A manifest is accepted together with anything behind it: what is read is the document at the front
of the text, and nothing asks whether the text ends there.
-/

namespace ModuleBindings.Json

open Proofs

/-- The text is one JSON value with nothing but space before and after it. -/
def HoldsOneValue (text : String) : Prop :=
  IsValue (tokenize Mark.start text.toList).1

namespace Decoder

variable {α : Type} {d : Decoder α} {a : α} {text : String}

lemma run_eq_ok_iff :
    d.run text = .ok a ↔
      ∃ r, d ⟨(tokenize Mark.start text.toList).2, []⟩ (tokenize Mark.start text.toList).1 =
        .ok (a, r) := by
  rw [run]
  dsimp only
  cases d ⟨(tokenize Mark.start text.toList).2, []⟩ (tokenize Mark.start text.toList).1 with
  | error e => exact ⟨nofun, nofun⟩
  | ok found =>
    obtain ⟨b, r⟩ := found
    simp

/-- Only lists and objects are read. -/
def RefusesScalars (d : Decoder α) : Prop :=
  ∀ ⦃s : Site⦄ ⦃t : Token⦄ ⦃rest : List Token⦄ ⦃x : α × ProperRest (t :: rest)⦄,
    t.lexeme.isScalar = true → d s (t :: rest) ≠ .ok x

/-- A document in brackets ends where its text does not matter any more. -/
lemma run_front (hlocal : IsLocal d) (hscalar : RefusesScalars d) (h : d.run text = .ok a) :
    ∃ front rest, text = front ++ rest ∧ HoldsOneValue front ∧
      ∀ more, d.run (front ++ more) = .ok a := by
  obtain ⟨r, hread⟩ := run_eq_ok_iff.mp h
  obtain ⟨front, hvalue, hts, hreads⟩ := hlocal hread
  obtain ⟨t, rfl, ht⟩ | ⟨init, t, rfl, ht⟩ := hvalue.closes
  · obtain ⟨_, hread⟩ := hreads ⟨Mark.start, []⟩ (List.append_nil [t]).symm
    exact absurd hread (hscalar ht)
  · rw [List.append_assoc, List.singleton_append] at hts
    obtain ⟨used, left, -, hcs, hall⟩ := tokenize_front hts ht
    have hused (more : String) : (String.ofList used ++ more).toList = used ++ more.toList := by
      simp
    refine ⟨String.ofList used, String.ofList left, ?_, ?_, fun more => ?_⟩
    · rw [← String.ofList_append, ← hcs, String.ofList_toList]
    · have hfront : (tokenize Mark.start used).1 = init ++ [t] := by
        have hnone := hall []
        rw [List.append_nil] at hnone
        rw [hnone, tokenize]
      rw [HoldsOneValue, String.toList_ofList, hfront]
      exact hvalue
    · have htokens : (tokenize Mark.start (used ++ more.toList)).1 =
          init ++ [t] ++ (tokenize t.stop more.toList).1 := by
        rw [hall, List.append_assoc, List.singleton_append]
      obtain ⟨_, hread⟩ := hreads ⟨(tokenize Mark.start (used ++ more.toList)).2, []⟩ htokens
      rw [run_eq_ok_iff, hused]
      exact ⟨_, hread⟩

end Decoder

end ModuleBindings.Json

namespace ModuleBindings.JsonManifest

open Json Json.Decoder

lemma variableDecoder_isLocal : IsLocal variableDecoder := by
  refine structOf_isLocal _ _ ?_
  simp only [variableFields, List.forall_mem_cons, List.not_mem_nil, false_implies, implies_true,
    and_true]
  refine ⟨?_, ?_, ?_, ?_⟩
  · exact map_isLocal _ (optional_isLocal string_isLocal)
  · exact map_isLocal _ string_isLocal
  · exact map_isLocal _ (map_isLocal (!·) fun _ _ _ _ h => isNull_isLocal h)
  · exact map_isLocal _ (optional_isLocal boolean_isLocal)

lemma decoder_isLocal : IsLocal decoder := by
  refine structOf_isLocal _ _ ?_
  simp only [fields, List.forall_mem_cons, List.not_mem_nil, false_implies, implies_true, and_true]
  exact ⟨map_isLocal _ (optional_isLocal string_isLocal),
    map_isLocal _ (mapOf_isLocal variableDecoder_isLocal)⟩

lemma decoder_refusesScalars : RefusesScalars decoder :=
  fun _ _ _ _ h => structOf_ne_ok_of_isScalar h

variable {text : String}

/-- A text holds a manifest just when it begins with one document that does. -/
lemma ofText_iff_front (P : JsonManifest → Prop) :
    (∃ m, ofText text = .ok m ∧ P m) ↔
      ∃ front rest, text = front ++ rest ∧ HoldsOneValue front ∧
        ∃ m, ofText front = .ok m ∧ P m := by
  constructor
  · rintro ⟨m, h, hm⟩
    obtain ⟨front, rest, htext, hone, hall⟩ := run_front decoder_isLocal decoder_refusesScalars h
    have hfront := hall ""
    rw [String.append_empty] at hfront
    exact ⟨front, rest, htext, hone, m, hfront, hm⟩
  · rintro ⟨front, rest, rfl, -, m, h, hm⟩
    obtain ⟨used, left, rfl, -, hall⟩ := run_front decoder_isLocal decoder_refusesScalars h
    refine ⟨m, ?_, hm⟩
    rw [String.append_assoc]
    exact hall _

end ModuleBindings.JsonManifest

namespace ModuleBindings.Module

open Json FileTree Proofs

/-- The manifest of a path is in a file with some text, and tells the name of the module or leaves
it to the path. -/
inductive HasManifest (t : FileTree) (path text : String) : (JsonManifest → String) → Prop
  | directory :
    t.isDirectory path = true → t.hasManifest path = true →
      t.readText (join path manifestName) = .ok text →
        HasManifest t path text fun _ => baseName path
  | file :
    t.isDirectory path = false → t.isConfigurationFile path = false → t.readText path = .ok text →
      HasManifest t path text fun m => firstName (baseName (m.path.getD "")) (stem path)

variable {t : FileTree} {path text : String} {m : Module}

lemma ofManifest_eq_ok_iff {name : String} :
    ofManifest name path text = .ok m ↔
      ∃ manifest, JsonManifest.ofText text = .ok manifest ∧ m = manifest.toModule name := by
  rw [ofManifest]
  cases JsonManifest.ofText text with
  | error e => simp
  | ok manifest => simp [eq_comm]

lemma readText_of_ok (h : t.readText path = .ok text) : readText t path = .ok text := by
  rw [readText, h]
  rfl

/-- A path with a manifest is loaded if the manifest is accepted. -/
lemma load_eq_ok_iff_manifest {name : JsonManifest → String} (h : HasManifest t path text name) :
    load t path = .ok m ↔
      ∃ manifest, JsonManifest.ofText text = .ok manifest ∧
        m = manifest.toModule (name manifest) := by
  cases h with
  | directory hdirectory hmanifest hread =>
    rw [load, loadFrom, if_pos hdirectory, loadDirectoryFrom, if_pos hmanifest]
    simp only [bind_eq_ok, readText_of_ok hread, Except.ok.injEq, exists_eq_left',
      ofManifest_eq_ok_iff]
  | file hdirectory hconfiguration hread =>
    rw [load, loadFrom, hdirectory, if_neg Bool.false_ne_true, hconfiguration,
      if_neg Bool.false_ne_true, loadManifest]
    simp only [bind_eq_ok, readText_of_ok hread, Except.ok.injEq, exists_eq_left']
    cases JsonManifest.ofText text with
    | error e => simp
    | ok manifest =>
      dsimp only
      rw [pure_eq_ok, eq_comm]
      simp

/-- A manifest is accepted together with anything behind the document that it begins with, and gives
the same module as that document alone. -/
theorem load_eq_ok_iff_front {name : JsonManifest → String} (h : HasManifest t path text name) :
    (∀ name path text m, ofManifest name path text = .ok m ↔
      ∃ front rest, text = front ++ rest ∧ HoldsOneValue front ∧
        ofManifest name path front = .ok m) ∧
    ∀ m, load t path = .ok m ↔
      ∃ front rest, text = front ++ rest ∧ HoldsOneValue front ∧
        ∃ manifest, JsonManifest.ofText front = .ok manifest ∧
          m = manifest.toModule (name manifest) := by
  constructor
  · intro name path text m
    simp only [ofManifest_eq_ok_iff]
    exact JsonManifest.ofText_iff_front fun manifest => m = manifest.toModule name
  · intro m
    rw [load_eq_ok_iff_manifest h]
    exact JsonManifest.ofText_iff_front fun manifest => m = manifest.toModule (name manifest)

/-- A file with a manifest that declares nothing and another document behind it. -/
def twiceTree : FileTree :=
  .directory [("m.json", .file "\x7b\x7d \x7b\x7d".toUTF8)]

lemma holdsOneValue_braces : HoldsOneValue "\x7b\x7d" := by
  have htokens : (tokenize Mark.start "\x7b\x7d".toList).1 =
      [⟨.openObject, ⟨1, 0⟩, ⟨1, 1⟩⟩, ⟨.closeObject, ⟨1, 1⟩, ⟨1, 2⟩⟩] := by
    cbv
  rw [HoldsOneValue, htokens]
  exact .object rfl (.close rfl)

lemma ofText_braces : JsonManifest.ofText "\x7b\x7d" = .ok {} := by
  cbv

lemma hasManifest_twiceTree :
    HasManifest twiceTree "m.json" "\x7b\x7d \x7b\x7d"
      fun m => firstName (baseName (m.path.getD "")) (stem "m.json") := by
  have hfile : twiceTree.resolve "m.json" = .ok ["m.json"] := by
    decide
  exact .file (by decide) (by decide) (FileTree.readText_of_at? hfile rfl)

theorem load_eq_ok_iff_front_twice :
    HasManifest twiceTree "m.json" "\x7b\x7d \x7b\x7d"
        (fun m => firstName (baseName (m.path.getD "")) (stem "m.json")) ∧
      load twiceTree "m.json" = .ok ⟨"m", []⟩ :=
  ⟨hasManifest_twiceTree, ((load_eq_ok_iff_front hasManifest_twiceTree).2 _).mpr
    ⟨"\x7b\x7d", " \x7b\x7d", by decide, holdsOneValue_braces, {}, ofText_braces, by decide⟩⟩

lemma not_holdsOneValue_twice : ¬ HoldsOneValue "\x7b\x7d \x7b\x7d" := by
  have htokens : (tokenize Mark.start "\x7b\x7d \x7b\x7d".toList).1 =
      [⟨.openObject, ⟨1, 0⟩, ⟨1, 1⟩⟩, ⟨.closeObject, ⟨1, 1⟩, ⟨1, 2⟩⟩,
        ⟨.openObject, ⟨1, 3⟩, ⟨1, 4⟩⟩, ⟨.closeObject, ⟨1, 4⟩, ⟨1, 5⟩⟩] := by
    cbv
  rw [HoldsOneValue, htokens]
  rintro (- | ⟨hlist, -⟩ | ⟨-, hends⟩)
  · cases hlist
  · cases hends.eq_nil rfl

/-- A second document behind the first is passed over. -/
theorem exists_accepted_not_holdsOneValue :
    ∃ name path text m, ofManifest name path text = .ok m ∧ ¬ HoldsOneValue text := by
  have haccepted : JsonManifest.ofText "\x7b\x7d \x7b\x7d" = .ok {} := by
    cbv
  exact ⟨"m", "m.json", "\x7b\x7d \x7b\x7d", ⟨"m", []⟩,
    ofManifest_eq_ok_iff.mpr ⟨{}, haccepted, rfl⟩, not_holdsOneValue_twice⟩

end ModuleBindings.Module
