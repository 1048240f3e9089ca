import Mathlib.Data.List.DropRight
import ModuleBindings.Module.Load
import ModuleBindings.Proofs.Documents
import ModuleBindings.Proofs.Except
import ModuleBindings.Proofs.Writing

/-!
# Names of loaded modules

A module that is loaded from a file has a name, since the path of a file ends in one. A directory
may also be reached by a path that ends in no name, like `.` or `a/..`, and then its module is left
without one.
-/

namespace ModuleBindings

open Proofs

namespace FileTree

variable {t : FileTree} {path name : String}

/-- The last piece of a path that leads somewhere. -/
def lastStep? (path : String) : Option String :=
  ((pieces path).filter fun piece => !staysPut piece).getLast?

/-- A path that leads nowhere else, or up at its end. -/
def EndsUnnamed (path : String) : Prop :=
  lastStep? path = none ∨ lastStep? path = some ".."

instance (path : String) : Decidable (EndsUnnamed path) :=
  inferInstanceAs (Decidable (_ ∨ _))

lemma getLast?_rdropWhile {α : Type} (p : α → Bool) (xs : List α) :
    (xs.rdropWhile p).getLast? = (xs.filter fun x => !p x).getLast? := by
  induction xs using List.reverseRecOn with
  | nil => rfl
  | append_singleton xs x ih =>
    rw [List.rdropWhile_concat, List.filter_append]
    cases hx : p x <;> simp [hx, ih]

lemma trimPieces_cons (first : String) (rest : List String) :
    trimPieces (first :: rest) =
      if (rest.rdropWhile staysPut).isEmpty && first = "" then []
      else first :: rest.rdropWhile staysPut :=
  rfl

/-- What is trimmed from a path leads nowhere. -/
lemma getLast?_trimPieces (ps : List String) :
    (trimPieces ps).getLast?.filter (fun piece => !staysPut piece) =
      (ps.filter fun piece => !staysPut piece).getLast? := by
  cases ps with
  | nil => rfl
  | cons first rest =>
    have hlast := getLast?_rdropWhile staysPut rest
    rw [trimPieces_cons, ← List.singleton_append, ← List.singleton_append (l := rest),
      List.filter_append, List.getLast?_append]
    cases hrest : (rest.filter fun piece => !staysPut piece).getLast? with
    | none =>
      rw [hrest, List.getLast?_eq_none_iff] at hlast
      rw [hlast]
      by_cases hfirst : first = ""
      · rw [hfirst]
        decide
      · cases hstays : staysPut first <;> simp [Option.filter, hfirst, hstays]
    | some last =>
      rw [hrest] at hlast
      have hne : (rest.rdropWhile staysPut).isEmpty = false := by
        cases hnil : rest.rdropWhile staysPut <;> simp [hnil] at hlast ⊢
      have hstays : staysPut last = false := by
        simpa using (List.mem_filter.mp (List.mem_of_getLast? hrest)).2
      rw [hne, Bool.false_and, if_neg Bool.false_ne_true, List.getLast?_append, hlast]
      simp [Option.filter, hstays]

lemma fileName?_eq (path : String) : fileName? path = (lastStep? path).filter (· ≠ "..") := by
  rw [fileName?, lastStep?, ← getLast?_trimPieces]
  cases (trimPieces (pieces path)).getLast? with
  | none => rfl
  | some piece => cases hstays : staysPut piece <;> simp [Option.filter, hstays]

lemma fileName?_eq_none_iff : fileName? path = none ↔ EndsUnnamed path := by
  rw [fileName?_eq, EndsUnnamed, Option.filter_eq_none_iff]
  cases lastStep? path <;> simp

lemma ne_empty_of_fileName? (h : fileName? path = some name) : name ≠ "" := by
  rintro rfl
  rw [fileName?_eq, Option.filter_eq_some_iff] at h
  have hmem := List.mem_of_getLast? h.1
  exact absurd (List.mem_filter.mp hmem).2 (by decide)

lemma baseName_eq_empty_iff : baseName path = "" ↔ EndsUnnamed path := by
  rw [← fileName?_eq_none_iff, baseName]
  cases hname : fileName? path with
  | none => simp
  | some name => simpa using ne_empty_of_fileName? hname

lemma stem_ne_empty (h : fileName? path = some name) : stem path ≠ "" := by
  have hname := ne_empty_of_fileName? h
  simp only [stem, h, splitName]
  split_ifs with hwhole
  · exact hname
  · intro hbefore
    simp_all

lemma cutAtSlashes_ne_nil (cs : List Char) : cutAtSlashes cs ≠ [] := by
  induction cs with
  | nil => simp [cutAtSlashes]
  | cons c cs ih =>
    rw [cutAtSlashes]
    split
    · simp
    · split_ifs <;> simp

/-- A path has a last piece. -/
lemma exists_pieces_eq_concat (path : String) : ∃ dir name, pieces path = dir ++ [name] := by
  have hne : pieces path ≠ [] := by
    simpa [pieces] using cutAtSlashes_ne_nil path.toList
  exact (List.eq_nil_or_concat' (pieces path)).resolve_left hne

lemma at?_dropLast_ne_file {names : List String} {es : List (String × FileTree)}
    (h : t.at? names = some (directory es)) (content : ByteArray) :
    t.at? names.dropLast ≠ some (file content) := by
  intro hfile
  cases names using List.reverseRecOn with
  | nil => simp_all
  | append_singleton names name =>
    rw [List.dropLast_concat] at hfile
    rw [at?_append, hfile] at h
    cases h

/-- A step that leads to a file is its name. -/
lemma last_of_resolvePieces {before names : List String} {last : String} {content : ByteArray}
    (h : t.resolvePieces [] (before ++ [last]) = .ok names)
    (hfile : t.at? names = some (file content)) : staysPut last = false ∧ last ≠ ".." := by
  rw [resolvePieces_append] at h
  cases hbefore : t.resolvePieces [] before with
  | error e => simp [hbefore, Except.bind] at h
  | ok here =>
    replace h : t.resolvePieces here.reverse [last] = .ok names := by
      simpa [hbefore, Except.bind] using h
    cases hhere : t.at? here with
    | none => simp [resolvePieces, hhere] at h
    | some u =>
      cases u with
      | file content' => simp [resolvePieces, hhere] at h
      | directory es =>
        rw [resolvePieces_name hhere] at h
        split_ifs at h with hstays hup
        · cases h
          simp [hhere] at hfile
        · cases h
          exact absurd hfile (at?_dropLast_ne_file hhere content)
        · exact ⟨by simpa using hstays, hup⟩

/-- The path of a file ends in a name. -/
lemma not_endsUnnamed_of_file {content : ByteArray} (h : t.lookup path = .ok (file content)) :
    ¬ EndsUnnamed path := by
  obtain ⟨before, last, hpieces⟩ := exists_pieces_eq_concat path
  rw [lookup, resolve] at h
  split_ifs at h with hzero hempty
  rw [hpieces] at h
  cases hnames : t.resolvePieces [] (before ++ [last]) with
  | error e => simp [hnames] at h
  | ok names =>
    cases hat : t.at? names with
    | none => simp [hnames, hat] at h
    | some u =>
      obtain rfl : u = file content := by simpa [hnames, hat] using h
      obtain ⟨hstays, hup⟩ := last_of_resolvePieces hnames hat
      simp [EndsUnnamed, lastStep?, hpieces, hstays, hup]

lemma stem_ne_empty_of_file {content : ByteArray} (h : t.lookup path = .ok (file content)) :
    stem path ≠ "" := by
  cases hname : fileName? path with
  | none => exact absurd (fileName?_eq_none_iff.mp hname) (not_endsUnnamed_of_file h)
  | some name => exact stem_ne_empty hname

lemma exists_file_of_isFile (h : t.isFile path = true) :
    ∃ content, t.lookup path = .ok (file content) := by
  rw [isFile] at h
  split at h
  · exact ⟨_, ‹_›⟩
  · cases h

lemma exists_file_of_readText {text : String} (h : t.readText path = .ok text) :
    ∃ content, t.lookup path = .ok (file content) := by
  rw [readText] at h
  split at h
  · exact ⟨_, ‹_›⟩
  · cases h
  · cases h

end FileTree

namespace Module

open FileTree (EndsUnnamed)

variable {t : FileTree} {path name text : String} {m : Module}

lemma name_ofManifest (h : ofManifest name path text = .ok m) : m.name = name := by
  rw [ofManifest] at h
  split at h <;> cases h
  rfl

lemma name_ofConfiguration {files : List (String × String)}
    (h : ofConfiguration name files = .ok m) : m.name = name := by
  rw [ofConfiguration, ofConfigurationBy] at h
  split at h
  · next m' hm' =>
    cases h
    rw [Configuration.toModule, bind_eq_ok] at hm'
    obtain ⟨vars, -, hvars⟩ := hm'
    rw [← pure_eq_ok.mp hvars]
    rfl
  · cases h

lemma firstName_ne_empty {other : String} (h : other ≠ "") : firstName name other ≠ "" := by
  rw [firstName]
  split_ifs with hname
  · exact h
  · exact hname

/-- A directory gives its module the name that its path ends in, whatever it holds. -/
lemma name_loadDirectoryFrom {list : FileTree.Lister} (h : loadDirectoryFrom list t path = .ok m) :
    m.name = FileTree.baseName path := by
  rw [loadDirectoryFrom] at h
  split_ifs at h with hmanifest
  · obtain ⟨text, -, h⟩ := bind_eq_ok.mp h
    exact name_ofManifest h
  · obtain ⟨paths, -, h⟩ := bind_eq_ok.mp h
    split_ifs at h with hnone
    · cases h
    · obtain ⟨texts, -, h⟩ := bind_eq_ok.mp h
      exact name_ofConfiguration h

lemma name_loadConfigurationFile_ne_empty (hfile : t.isConfigurationFile path = true)
    (h : loadConfigurationFile t path = .ok m) : m.name ≠ "" := by
  rw [FileTree.isConfigurationFile, Bool.and_eq_true] at hfile
  obtain ⟨content, hcontent⟩ := FileTree.exists_file_of_isFile hfile.1
  obtain ⟨texts, -, h⟩ := bind_eq_ok.mp h
  rw [name_ofConfiguration h]
  exact firstName_ne_empty (FileTree.stem_ne_empty_of_file hcontent)

lemma name_loadManifest_ne_empty (h : loadManifest t path = .ok m) : m.name ≠ "" := by
  obtain ⟨text, htext, h⟩ := bind_eq_ok.mp h
  obtain ⟨content, hcontent⟩ := FileTree.exists_file_of_readText (mapError_eq_ok.mp htext)
  split at h
  · rw [← pure_eq_ok.mp h]
    exact firstName_ne_empty (FileTree.stem_ne_empty_of_file hcontent)
  · cases h

lemma name_load_eq_empty_iff (h : load t path = .ok m) :
    m.name = "" ↔ t.isDirectory path = true ∧ EndsUnnamed path := by
  rw [load, loadFrom] at h
  split_ifs at h with hdirectory hconfiguration
  · rw [name_loadDirectoryFrom h, FileTree.baseName_eq_empty_iff]
    simp [hdirectory]
  · simp [hdirectory, name_loadConfigurationFile_ne_empty hconfiguration h]
  · simp [hdirectory, name_loadManifest_ne_empty h]

/-- Every path that some patterns find gives one module. The module has no name just when the path
leads to a directory and ends in no name. -/
theorem loadAll_name_eq_empty_iff {patterns : List String} {modules : List Module}
    (h : loadAll t patterns = .ok modules) :
    ∃ found, List.Forall₂ (fun pattern paths => resolve t pattern = .ok paths) patterns found ∧
      List.Forall₂
        (fun path m => load t path = .ok m ∧
          (m.name = "" ↔ t.isDirectory path = true ∧ EndsUnnamed path))
        found.flatten modules := by
  obtain ⟨found, hfound, hmodules⟩ := bind_eq_ok.mp h
  refine ⟨found, mapM_eq_ok_iff.mp hfound, (mapM_eq_ok_iff.mp hmodules).imp ?_⟩
  intro path m hm
  exact ⟨hm, name_load_eq_empty_iff hm⟩

/-- A directory with a manifest that declares nothing, and another directory in it. -/
def nestedTree : FileTree :=
  .directory [("a", .directory [("module.json", .file "\x7b\x7d".toUTF8), ("b", .directory [])])]

lemma load_nestedTree (hdirectory : nestedTree.isDirectory path = true)
    (hmanifest : nestedTree.resolve (FileTree.join path "module.json") = .ok ["a", "module.json"]) :
    load nestedTree path = .ok ⟨FileTree.baseName path, []⟩ := by
  have htext : nestedTree.readText (FileTree.join path "module.json") = .ok "\x7b\x7d" :=
    FileTree.readText_of_at? hmanifest rfl
  have hthere : nestedTree.hasManifest path = true := by
    rw [FileTree.hasManifest, FileTree.isFile, FileTree.lookup, FileTree.manifestName, hmanifest]
    rfl
  rw [load_eq_ok_iff_manifest (.directory hdirectory hthere htext)]
  exact ⟨{}, ofText_braces, rfl⟩

lemma loadAll_nestedTree (hwild : FileTree.Glob.hasWildcards path = false)
    (hdirectory : nestedTree.isDirectory path = true)
    (hmanifest : nestedTree.resolve (FileTree.join path "module.json") = .ok ["a", "module.json"]) :
    loadAll nestedTree [path] = .ok [⟨FileTree.baseName path, []⟩] := by
  rw [loadAll, loadAllWith, List.mapM_cons, resolveWith, if_neg (by simp [hwild])]
  have hload := load_nestedTree hdirectory hmanifest
  rw [load] at hload
  simp [Bind.bind, Except.bind, Pure.pure, Except.pure, hload]

theorem loadAll_name_eq_empty_iff_nested :
    loadAll nestedTree ["a/."] = .ok [⟨"a", []⟩] ∧
      ∃ found, List.Forall₂ (fun pattern paths => resolve nestedTree pattern = .ok paths)
          ["a/."] found ∧
        List.Forall₂
          (fun path m => load nestedTree path = .ok m ∧
            (m.name = "" ↔ nestedTree.isDirectory path = true ∧ EndsUnnamed path))
          found.flatten [⟨"a", []⟩] := by
  have hload : loadAll nestedTree ["a/."] = .ok [⟨"a", []⟩] :=
    loadAll_nestedTree (by decide) (by decide) (by decide)
  exact ⟨hload, loadAll_name_eq_empty_iff hload⟩

/-- A module is loaded without a name from a path that leads up at its end, although the directory
that it leads to has one. -/
theorem exists_name_eq_empty :
    ∃ (t : FileTree) (path : String) (modules : List Module), t.exists? path = true ∧
      loadAll t [path] = .ok modules ∧ ∃ m ∈ modules, m.name = "" := by
  refine ⟨nestedTree, "a/b/..", [⟨"", []⟩], by decide, ?_, ⟨"", []⟩, by simp, rfl⟩
  exact loadAll_nestedTree (by decide) (by decide) (by decide)

end Module

end ModuleBindings
