import ModuleBindings.Proofs.Entries
import ModuleBindings.Proofs.Loading

/-!
# Listing directories

A system lists the entries of a directory in any order, and may fail to list them. What is loaded
from a directory does not depend on the order: it is determined by the entries. What a glob pattern
finds is kept by the same question that loading asks, so that no directory is kept that holds no
configuration, and none is dropped that can be loaded.
-/

namespace ModuleBindings

open Proofs

namespace FileTree

section Sorting

variable {names names' : List String}

lemma pairwise_sortNames (names : List String) : (sortNames names).Pairwise (· ≤ ·) := by
  have hsorted : (sortNames names).Pairwise fun a b => decide (a ≤ b) = true := by
    apply List.pairwise_mergeSort
    · intro a b c hab hbc
      simp only [decide_eq_true_eq] at hab hbc ⊢
      exact String.le_trans hab hbc
    · intro a b
      simpa using String.le_total a b
  simpa using hsorted

lemma eq_of_sorted (hsorted : names.Pairwise (· ≤ ·)) (hsorted' : names'.Pairwise (· ≤ ·))
    (hperm : names.Perm names') : names = names' :=
  hperm.eq_of_pairwise (fun _ _ _ _ => String.le_antisymm) hsorted hsorted'

lemma sortNames_perm (names : List String) : (sortNames names).Perm names :=
  List.mergeSort_perm names _

lemma sortNames_congr (h : names.Perm names') : sortNames names = sortNames names' :=
  eq_of_sorted (pairwise_sortNames names) (pairwise_sortNames names')
    ((sortNames_perm names).trans (h.trans (sortNames_perm names').symm))

lemma map_fst_sortByName {α : Type} (es : List (String × α)) :
    (sortByName es).map (·.1) = sortNames (es.map (·.1)) :=
  List.map_mergeSort fun _ _ _ _ => rfl

end Sorting

variable {list list' : Lister} {t : FileTree} {dir : String} {names names' : List String}
  {es : List (String × FileTree)}

lemma configurationFilesFrom_congr (h : list dir = .ok names) (h' : list' dir = .ok names')
    (hperm : names.Perm names') :
    configurationFilesFrom list t dir = configurationFilesFrom list' t dir := by
  unfold configurationFilesFrom
  rw [h, h']
  change Except.ok _ = Except.ok _
  rw [sortNames_congr (hperm.filter _)]

/-- The configuration files among some entries, with what they hold. -/
def configurationsAmong (es : List (String × FileTree)) : List (String × ByteArray) :=
  es.filterMap fun
    | (name, file content) =>
      if extension? name = some configurationExtension then some (name, content) else none
    | (_, directory _) => none

lemma mem_of_mem_configurationsAmong {name : String} {content : ByteArray}
    (h : (name, content) ∈ configurationsAmong es) : (name, file content) ∈ es := by
  obtain ⟨⟨other, u⟩, hmem, hentry⟩ := List.mem_filterMap.mp h
  cases u with
  | file content' =>
    simp only [Option.ite_none_right_eq_some, Option.some.injEq, Prod.mk.injEq] at hentry
    obtain ⟨-, rfl, rfl⟩ := hentry
    exact hmem
  | directory es' => cases hentry

lemma isFile_join (hdir : t.lookup dir = .ok (directory es)) (hname : IsEntryName name) :
    t.isFile (join dir name) = true ↔ ∃ content, es.lookup name = some (file content) := by
  rw [isFile, lookup_join hdir hname]
  cases hentry : es.lookup name with
  | none => simp
  | some u => cases u <;> simp

lemma map_fst_configurationsAmong {xs : List (String × FileTree)}
    (hdir : t.lookup dir = .ok (directory es)) (hes : AreEntries es) (hxs : xs ⊆ es) :
    (configurationsAmong xs).map (·.1) =
      (xs.map (·.1)).filter fun name => t.isConfigurationFile (join dir name) := by
  have hempty : dir ≠ "" := by
    obtain ⟨names, hresolve, -⟩ := exists_resolve_of_lookup hdir
    exact (resolve_eq_ok_iff.mp hresolve).2.1
  induction xs with
  | nil => rfl
  | cons x xs ih =>
    obtain ⟨name, u⟩ := x
    obtain ⟨hmem, hrest⟩ := List.cons_subset.mp hxs
    have hname : IsEntryName name := hes.isEntryName name (List.mem_map.mpr ⟨_, hmem, rfl⟩)
    have hlookup : es.lookup name = some u := lookup_of_mem hes.nodup hmem
    have hentry : t.isConfigurationFile (join dir name) = true ↔
        (∃ content, u = file content) ∧ extension? name = some configurationExtension := by
      rw [isConfigurationFile, Bool.and_eq_true, isFile_join hdir hname,
        extension?_join hempty hname, hlookup]
      simp
    rw [List.map_cons, List.filter_cons, ← ih hrest]
    cases u with
    | directory es' =>
      rw [if_neg (by simp [hentry])]
      rfl
    | file content =>
      by_cases hext : extension? name = some configurationExtension
      · rw [if_pos (hentry.mpr ⟨⟨content, rfl⟩, hext⟩)]
        simp [configurationsAmong, hext]
      · rw [if_neg fun h => hext (hentry.mp h).2]
        simp [configurationsAmong, hext]

lemma configurationFilesFrom_eq (hdir : t.lookup dir = .ok (directory es)) (hes : AreEntries es)
    (hlist : list dir = .ok names) (hperm : names.Perm (es.map (·.1))) :
    configurationFilesFrom list t dir =
      .ok ((sortByName (configurationsAmong es)).map fun f => join dir f.1) := by
  have hnames : sortNames (names.filter fun name => t.isConfigurationFile (join dir name)) =
      (sortByName (configurationsAmong es)).map (·.1) := by
    rw [map_fst_sortByName, map_fst_configurationsAmong hdir hes (List.Subset.refl es)]
    exact sortNames_congr (hperm.filter _)
  rw [configurationFilesFrom, hlist]
  change Except.ok _ = Except.ok _
  rw [hnames, List.map_map]
  rfl

end FileTree

namespace Module

open FileTree (Lister Glob isModuleFrom isModuleDirectoryFrom configurationFilesFrom join baseName)

/-- The paths that a pattern asks for, in a tree whose directories are listed. -/
def resolveFrom (list : Lister) (t : FileTree) : String → Except LoadError (List String) :=
  resolveWith (findIn t) list t

/-- The modules that some patterns ask for. -/
def loadAllFrom (list : Lister) (t : FileTree) : List String → Except LoadError (List Module) :=
  loadAllWith (findIn t) list t

variable {list list' : Lister} {t : FileTree} {dir path name pattern : String}
  {names names' paths patterns : List String} {e : LoadError} {m : Module}

/-- Loading finds nothing in a directory: it holds no configuration, or it cannot be listed. -/
inductive FindsNothing (dir : String) : LoadError → Prop
  | noConfiguration : FindsNothing dir ⟨dir, .noConfiguration⟩
  | unlisted (e : FileTree.SystemError) : FindsNothing dir ⟨dir, .system e⟩

/-- What loading some files fails with: one of them is not read, or a text is no configuration. -/
inductive FileFault (paths : List String) : LoadError → Prop
  | unread {path : String} (e : FileTree.SystemError) :
    path ∈ paths → FileFault paths ⟨path, .system e⟩
  | badManifest (path : String) (e : Json.Error) : FileFault paths ⟨path, .badManifest e⟩
  | badConfiguration (path : String) (fault : ConfigurationFault) :
    FileFault paths ⟨path, .badConfiguration fault⟩

lemma FileFault.fault_ne (h : FileFault paths e) : e.fault ≠ .noConfiguration := by
  cases h <;> exact nofun

/-- No file stands where a directory does. -/
lemma FileFault.not_findsNothing (hdir : t.isDirectory dir = true)
    (hfiles : ∀ path ∈ paths, t.isFile path = true) (h : FileFault paths e) :
    ¬ FindsNothing dir e := by
  intro hnothing
  cases hnothing with
  | noConfiguration => exact h.fault_ne rfl
  | unlisted e =>
    cases h with
    | unread e hmem =>
      obtain ⟨content, hfile⟩ := FileTree.exists_file_of_isFile (hfiles dir hmem)
      rw [FileTree.isDirectory, hfile] at hdir
      cases hdir

lemma fileFault_of_readText (hmem : path ∈ paths) (h : readText t path = .error e) :
    FileFault paths e := by
  obtain ⟨e', -, rfl⟩ := mapError_eq_error.mp h
  exact .unread e' hmem

lemma fileFault_of_ofManifest {text : String} (h : ofManifest name path text = .error e) :
    FileFault paths e := by
  rw [ofManifest] at h
  split at h <;> cases h
  exact .badManifest _ _

lemma fileFault_of_ofConfiguration {files : List (String × String)}
    (h : ofConfiguration name files = .error e) : FileFault paths e := by
  rw [ofConfiguration, ofConfigurationBy] at h
  split at h <;> cases h
  exact .badConfiguration _ _

lemma fileFault_of_readTexts (h : readTexts t paths >>= ofConfiguration name = .error e) :
    FileFault paths e := by
  rcases bind_eq_error.mp h with h | ⟨texts, -, h⟩
  · obtain ⟨done, path, rest, rfl, -, h⟩ := mapM_eq_error_iff.mp h
    rcases bind_eq_error.mp h with h | ⟨text, -, h⟩
    · exact fileFault_of_readText (by simp) h
    · exact absurd h pure_ne_error
  · exact fileFault_of_ofConfiguration h

lemma fileFault_of_loadManifest (h : loadManifest t path = .error e) : FileFault [path] e := by
  rcases bind_eq_error.mp h with h | ⟨text, -, h⟩
  · exact fileFault_of_readText List.mem_cons_self h
  · split at h
    · exact absurd h pure_ne_error
    · cases h
      exact .badManifest _ _

lemma isFile_of_mem_configurationFilesFrom
    (h : configurationFilesFrom list t dir = .ok paths) : ∀ path ∈ paths, t.isFile path = true := by
  obtain ⟨names, -, h⟩ := bind_eq_ok.mp h
  obtain rfl := pure_eq_ok.mp h
  intro path hpath
  obtain ⟨name, hname, rfl⟩ := List.mem_map.mp hpath
  have hfound := (FileTree.sortNames_perm _).mem_iff.mp hname
  have hfile := (List.mem_filter.mp hfound).2
  rw [FileTree.isConfigurationFile, Bool.and_eq_true] at hfile
  exact hfile.1

lemma loadDirectoryFrom_manifest (h : t.hasManifest dir = true) :
    loadDirectoryFrom list t dir =
      readText t (join dir FileTree.manifestName) >>=
        ofManifest (baseName dir) (join dir FileTree.manifestName) := by
  rw [loadDirectoryFrom, if_pos h]

lemma loadDirectoryFrom_files (h : t.hasManifest dir = false)
    (hpaths : configurationFilesFrom list t dir = .ok paths) :
    loadDirectoryFrom list t dir =
      if paths.isEmpty then .error ⟨dir, .noConfiguration⟩
      else readTexts t paths >>= ofConfiguration (baseName dir) := by
  rw [loadDirectoryFrom, h, if_neg Bool.false_ne_true, hpaths]
  cases paths with
  | nil => rfl
  | cons path paths => rfl

/-- A directory that is kept is loaded from files. -/
lemma fileFault_of_kept (hkept : isModuleDirectoryFrom list t dir = true)
    (h : loadDirectoryFrom list t dir = .error e) :
    ∃ paths, (∀ path ∈ paths, t.isFile path = true) ∧ FileFault paths e := by
  rw [isModuleDirectoryFrom] at hkept
  cases hmanifest : t.hasManifest dir with
  | true =>
    rw [loadDirectoryFrom_manifest hmanifest] at h
    refine ⟨[join dir FileTree.manifestName], by simpa [FileTree.hasManifest] using hmanifest, ?_⟩
    rcases bind_eq_error.mp h with h | ⟨text, -, h⟩
    · exact fileFault_of_readText List.mem_cons_self h
    · exact fileFault_of_ofManifest h
  | false =>
    cases hpaths : configurationFilesFrom list t dir with
    | error e' => simp [hmanifest, hpaths] at hkept
    | ok paths =>
      have hsome : paths.isEmpty = false := by simpa [hmanifest, hpaths] using hkept
      rw [loadDirectoryFrom_files hmanifest hpaths, hsome, if_neg Bool.false_ne_true] at h
      exact ⟨paths, isFile_of_mem_configurationFilesFrom hpaths, fileFault_of_readTexts h⟩

lemma findsNothing_of_dropped (hdropped : isModuleDirectoryFrom list t dir = false) :
    ∃ e, loadDirectoryFrom list t dir = .error e ∧ FindsNothing dir e := by
  rw [isModuleDirectoryFrom, Bool.or_eq_false_iff] at hdropped
  obtain ⟨hmanifest, hdropped⟩ := hdropped
  cases hpaths : configurationFilesFrom list t dir with
  | error e =>
    rw [loadDirectoryFrom, hmanifest, if_neg Bool.false_ne_true, hpaths]
    exact ⟨_, rfl, .unlisted e⟩
  | ok paths =>
    rw [hpaths] at hdropped
    obtain rfl : paths = [] := by simpa using hdropped
    rw [loadDirectoryFrom_files hmanifest hpaths]
    exact ⟨_, rfl, .noConfiguration⟩

/-- The filter keeps a directory just when loading finds something in it. -/
lemma isModuleFrom_iff (hdir : t.isDirectory dir = true) :
    isModuleFrom list t dir = true ↔
      ∀ e, loadFrom list t dir = .error e → ¬ FindsNothing dir e := by
  rw [isModuleFrom, loadFrom, if_pos hdir, if_pos hdir]
  constructor
  · intro hkept e h
    obtain ⟨paths, hfiles, hfault⟩ := fileFault_of_kept hkept h
    exact hfault.not_findsNothing hdir hfiles
  · intro hall
    by_contra hdropped
    obtain ⟨e, h, hnothing⟩ := findsNothing_of_dropped (Bool.eq_false_iff.mpr hdropped)
    exact hall e h hnothing

/-- Only a directory that is dropped fails for want of configuration. -/
lemma dropped_of_noConfiguration (h : loadFrom list t path = .error e)
    (hfault : e.fault = .noConfiguration) :
    e.path = path ∧ isModuleFrom list t path = false := by
  by_cases hdir : t.isDirectory path = true
  · rw [loadFrom, if_pos hdir] at h
    rw [isModuleFrom, if_pos hdir]
    cases hkept : isModuleDirectoryFrom list t path with
    | true =>
      obtain ⟨paths, -, hfile⟩ := fileFault_of_kept hkept h
      exact absurd hfault hfile.fault_ne
    | false =>
      obtain ⟨e', h', hnothing⟩ := findsNothing_of_dropped hkept
      rw [h] at h'
      cases h'
      cases hnothing with
      | noConfiguration => exact ⟨rfl, rfl⟩
      | unlisted e => exact ⟨rfl, rfl⟩
  · rw [loadFrom, if_neg hdir] at h
    split_ifs at h with hconfiguration
    · exact absurd hfault (fileFault_of_readTexts h).fault_ne
    · exact absurd hfault (fileFault_of_loadManifest h).fault_ne

lemma resolveFrom_of_not_wild (h : Glob.hasWildcards pattern = false) :
    resolveFrom list t pattern = .ok [pattern] := by
  rw [resolveFrom, resolveWith, h]
  rfl

lemma resolveFrom_of_wild (h : Glob.hasWildcards pattern = true) :
    resolveFrom list t pattern =
      (Glob.parse pattern).mapError (⟨pattern, .badPattern ·⟩) >>= fun glob =>
        if ((glob.find t).filter (isModuleFrom list t)).isEmpty then .error ⟨pattern, .noMatch⟩
        else pure ((glob.find t).filter (isModuleFrom list t)) := by
  rw [resolveFrom, resolveWith, if_pos h]
  congr
  funext glob
  have hfound : ((findIn t glob).mapM fun path => path.mapError (LoadError.mk pattern)) =
      .ok (glob.find t) := mapM_mapError_eq_ok_iff.mpr rfl
  rw [hfound]
  rfl

/-- What a glob pattern gives is what it finds and the filter keeps. -/
lemma resolveFrom_eq_ok_iff (h : Glob.hasWildcards pattern = true) :
    resolveFrom list t pattern = .ok paths ↔
      ∃ glob, Glob.parse pattern = .ok glob ∧ paths ≠ [] ∧
        paths = (glob.find t).filter (isModuleFrom list t) := by
  rw [resolveFrom_of_wild h]
  simp only [bind_eq_ok, mapError_eq_ok]
  refine exists_congr fun glob => and_congr_right fun _ => ?_
  split_ifs with hnone
  · rw [List.isEmpty_iff] at hnone
    simp only [hnone]
    constructor
    · exact nofun
    · rintro ⟨hne, heq⟩
      exact absurd heq hne
  · rw [List.isEmpty_iff] at hnone
    rw [pure_eq_ok]
    constructor
    · rintro rfl
      exact ⟨hnone, rfl⟩
    · rintro ⟨-, rfl⟩
      rfl

lemma resolveFrom_fault_ne (h : resolveFrom list t pattern = .error e) :
    e.fault ≠ .noConfiguration := by
  cases hwild : Glob.hasWildcards pattern with
  | true =>
    rw [resolveFrom_of_wild hwild] at h
    rcases bind_eq_error.mp h with h | ⟨glob, -, h⟩
    · obtain ⟨e', -, rfl⟩ := mapError_eq_error.mp h
      exact nofun
    · split_ifs at h
      · cases h
        exact nofun
      · exact absurd h pure_ne_error
  | false =>
    rw [resolveFrom_of_not_wild hwild] at h
    cases h

lemma not_mem_of_dropped (hwild : Glob.hasWildcards pattern = true)
    (hpaths : resolveFrom list t pattern = .ok paths)
    (hdropped : isModuleFrom list t path = false) : path ∉ paths := by
  obtain ⟨glob, -, -, rfl⟩ := (resolveFrom_eq_ok_iff hwild).mp hpaths
  intro hmem
  rw [(List.mem_filter.mp hmem).2] at hdropped
  cases hdropped

/-- Loading fails for want of configuration only at a path that was itself asked for. -/
lemma asked_of_noConfiguration (h : loadAllFrom list t patterns = .error e)
    (hfault : e.fault = .noConfiguration) :
    e.path ∈ patterns ∧ Glob.hasWildcards e.path = false ∧
      ∀ pattern ∈ patterns, Glob.hasWildcards pattern = true →
        ∀ paths, resolveFrom list t pattern = .ok paths → e.path ∉ paths := by
  rcases bind_eq_error.mp h with h | ⟨found, hfound, h⟩
  · obtain ⟨done, pattern, rest, -, -, h⟩ := mapM_eq_error_iff.mp h
    exact absurd hfault (resolveFrom_fault_ne h)
  · obtain ⟨done, path, rest, hpaths, -, h⟩ := mapM_eq_error_iff.mp h
    obtain ⟨rfl, hdropped⟩ := dropped_of_noConfiguration h hfault
    have hmem : e.path ∈ found.flatten := by simp [hpaths]
    obtain ⟨paths, hmemPaths, hmem⟩ := List.mem_flatten.mp hmem
    obtain ⟨pattern, hpattern, hresolve⟩ := exists_of_mem_mapM hfound paths hmemPaths
    change resolveFrom list t pattern = .ok paths at hresolve
    cases hwild : Glob.hasWildcards pattern with
    | true => exact absurd hmem (not_mem_of_dropped hwild hresolve hdropped)
    | false =>
      rw [resolveFrom_of_not_wild hwild] at hresolve
      cases hresolve
      obtain rfl := List.mem_singleton.mp hmem
      exact ⟨hpattern, hwild, fun pattern _ hwild paths hpaths =>
        not_mem_of_dropped hwild hpaths hdropped⟩

/-- A directory that can be loaded is not dropped from what a glob pattern finds. -/
lemma exists_resolveFrom_of_loaded {glob : Glob} (hwild : Glob.hasWildcards pattern = true)
    (hglob : Glob.parse pattern = .ok glob) (hmem : dir ∈ glob.find t)
    (hdir : t.isDirectory dir = true) (h : loadFrom list t dir = .ok m) :
    ∃ paths, resolveFrom list t pattern = .ok paths ∧ dir ∈ paths := by
  have hkept : isModuleFrom list t dir = true := by
    apply (isModuleFrom_iff hdir).mpr
    intro e he
    rw [h] at he
    cases he
  have hfilter : dir ∈ (glob.find t).filter (isModuleFrom list t) :=
    List.mem_filter.mpr ⟨hmem, hkept⟩
  exact ⟨_, (resolveFrom_eq_ok_iff hwild).mpr ⟨glob, hglob, List.ne_nil_of_mem hfilter, rfl⟩,
    hfilter⟩

section Entries

open FileTree (AreEntries IsEntryName configurationsAmong sortByName manifestName)

variable {es : List (String × FileTree)}

/-- The text in a file at some path. -/
def textAt (path : String) (content : ByteArray) : Except LoadError String :=
  match String.fromUTF8? content with
  | some text => .ok text
  | none => .error ⟨path, .system .notUtf8⟩

/-- The texts of some entries of a directory, each with its path. -/
def textsIn (dir : String) (files : List (String × ByteArray)) :
    Except LoadError (List (String × String)) :=
  files.mapM fun (name, content) => do
    let text ← textAt (join dir name) content
    pure (join dir name, text)

/-- Loads a directory from what it holds: from its manifest, else from all its configuration files
in the order of their names. -/
def loadEntries (dir : String) (es : List (String × FileTree)) : Except LoadError Module :=
  match es.lookup manifestName with
  | some (.file content) =>
    textAt (join dir manifestName) content >>= ofManifest (baseName dir) (join dir manifestName)
  | _ =>
    let files := sortByName (configurationsAmong es)
    if files.isEmpty then .error ⟨dir, .noConfiguration⟩
    else textsIn dir files >>= ofConfiguration (baseName dir)

lemma readText_join {content : ByteArray} (hdir : t.lookup dir = .ok (.directory es))
    (hname : IsEntryName name) (h : es.lookup name = some (.file content)) :
    readText t (join dir name) = textAt (join dir name) content := by
  have hlookup : t.lookup (join dir name) = .ok (.file content) := by
    rw [FileTree.lookup_join hdir hname, h]
  rw [readText, FileTree.readText, hlookup, textAt]
  cases htext : String.fromUTF8? content with
  | none => simp only [htext, Except.mapError]
  | some text => simp only [htext, Except.mapError]

lemma readTexts_join (hdir : t.lookup dir = .ok (.directory es)) (hes : AreEntries es)
    {files : List (String × ByteArray)}
    (hfiles : ∀ f ∈ files, (f.1, FileTree.file f.2) ∈ es) :
    readTexts t (files.map fun f => join dir f.1) = textsIn dir files := by
  induction files with
  | nil => rfl
  | cons f files ih =>
    obtain ⟨name, content⟩ := f
    rw [List.forall_mem_cons] at hfiles
    have hname : IsEntryName name :=
      hes.isEntryName name (List.mem_map.mpr ⟨_, hfiles.1, rfl⟩)
    have hread := readText_join hdir hname (FileTree.lookup_of_mem hes.nodup hfiles.1)
    have hrest := ih hfiles.2
    rw [readTexts, textsIn] at hrest ⊢
    rw [List.map_cons, List.mapM_cons, List.mapM_cons, hrest]
    dsimp only
    rw [hread]

lemma hasManifest_iff (hdir : t.lookup dir = .ok (.directory es)) :
    t.hasManifest dir = true ↔ ∃ content, es.lookup manifestName = some (.file content) :=
  FileTree.isFile_join hdir FileTree.isEntryName_manifestName

/-- In whatever order the entries of a directory are listed, they determine what is loaded. -/
lemma loadFrom_eq_loadEntries (hdir : t.lookup dir = .ok (.directory es)) (hes : AreEntries es)
    (hlist : list dir = .ok names) (hperm : names.Perm (es.map (·.1))) :
    loadFrom list t dir = loadEntries dir es := by
  have hdirectory : t.isDirectory dir = true := by
    rw [FileTree.isDirectory, hdir]
  rw [loadFrom, if_pos hdirectory, loadEntries]
  split
  · next content hcontent =>
    rw [loadDirectoryFrom_manifest ((hasManifest_iff hdir).mpr ⟨content, hcontent⟩),
      readText_join hdir FileTree.isEntryName_manifestName hcontent]
  · next hnone =>
    have hmanifest : t.hasManifest dir = false := by
      rw [Bool.eq_false_iff, ne_eq, hasManifest_iff hdir]
      rintro ⟨content, hcontent⟩
      exact hnone content hcontent
    have hpaths := FileTree.configurationFilesFrom_eq hdir hes hlist hperm
    rw [loadDirectoryFrom_files hmanifest hpaths, readTexts_join hdir hes, List.isEmpty_map]
    intro f hf
    exact FileTree.mem_of_mem_configurationsAmong ((List.mergeSort_perm _ _).mem_iff.mp hf)

end Entries

lemma loadFrom_congr (h : list dir = .ok names) (h' : list' dir = .ok names')
    (hperm : names.Perm names') : loadFrom list t dir = loadFrom list' t dir := by
  rw [loadFrom, loadFrom, loadDirectoryFrom, loadDirectoryFrom,
    FileTree.configurationFilesFrom_congr h h' hperm]

/-- A directory with two configuration files, and two directories that only have names like theirs
and a manifest's. -/
def shelf : List (String × FileTree) :=
  [("b.tf", .file "".toUTF8), ("module.json", .directory []), ("c.tf", .directory []),
    ("a.tf", .file "".toUTF8)]

end Module

end ModuleBindings
