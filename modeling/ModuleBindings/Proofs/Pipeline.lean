import ModuleBindings.CommandLine.Run
import ModuleBindings.Proofs.ArgumentLists
import ModuleBindings.Proofs.Directories

/-!
# What a command writes

A command parses and flattens one module after another. It writes the same records as if all
modules were parsed before the first is flattened, and nothing at all if one of them fails. What is
written to a file changes nothing else, but for the directories that the file needs.
-/

namespace ModuleBindings.CommandLine

open Proofs (bind_eq_ok pure_eq_ok mapError_eq_ok)

variable {t : FileTree} {c : Command} {args : List String} {ignore : List String}
  {modules : List Module} {rs : List Record} {b b' : RecordBuilder}

/-- The records of all that some patterns find: every module is loaded, then every one is parsed,
and the entities are flattened at last. -/
def Yields (t : FileTree) (patterns ignore : List String) (rs : List Record) : Prop :=
  ∃ modules es, Module.loadAll t patterns = .ok modules ∧ modules.mapM Module.entity = .ok es ∧
    buildRecords es ignore = .ok rs

section Modules

lemma addModule_eq_ok {m : Module} :
    addModule b m = .ok b' ↔ ∃ e, m.entity = .ok e ∧ b.addEntity e = .ok b' := by
  simp only [addModule, bind_eq_ok, mapError_eq_ok]

lemma mapM_entity_cons {m : Module} {es : List Entity} :
    (m :: modules).mapM Module.entity = .ok es ↔
      ∃ e, m.entity = .ok e ∧ ∃ es', modules.mapM Module.entity = .ok es' ∧ e :: es' = es := by
  simp only [List.mapM_cons, bind_eq_ok, pure_eq_ok]

/-- Modules may be parsed one by one or all at first. -/
lemma foldlM_addModule_eq_ok :
    modules.foldlM addModule b = .ok b' ↔
      ∃ es, modules.mapM Module.entity = .ok es ∧
        es.foldlM RecordBuilder.addEntity b = .ok b' := by
  induction modules generalizing b with
  | nil => simp [pure_eq_ok]
  | cons m modules ih =>
    rw [List.foldlM_cons, bind_eq_ok]
    constructor
    · rintro ⟨b₁, hm, hmodules⟩
      -- parsing does not depend on the builder, so the entities of the rest stay what they are
      obtain ⟨e, he, hb₁⟩ := addModule_eq_ok.mp hm
      obtain ⟨es, hes, hb'⟩ := ih.mp hmodules
      refine ⟨e :: es, mapM_entity_cons.mpr ⟨e, he, es, hes, rfl⟩, ?_⟩
      rw [List.foldlM_cons, bind_eq_ok]
      exact ⟨b₁, hb₁, hb'⟩
    · rintro ⟨es, hes, hb'⟩
      obtain ⟨e, he, es', hes', rfl⟩ := mapM_entity_cons.mp hes
      rw [List.foldlM_cons, bind_eq_ok] at hb'
      obtain ⟨b₁, hb₁, hb'⟩ := hb'
      exact ⟨b₁, addModule_eq_ok.mpr ⟨e, he, hb₁⟩, ih.mpr ⟨es', hes', hb'⟩⟩

lemma recordsOf_eq_ok :
    recordsOf ignore modules = .ok rs ↔
      ∃ es, modules.mapM Module.entity = .ok es ∧ buildRecords es ignore = .ok rs := by
  simp only [recordsOf, buildRecords, bind_eq_ok, pure_eq_ok, foldlM_addModule_eq_ok]
  constructor
  · rintro ⟨b, ⟨es, hes, hb⟩, hrs⟩
    exact ⟨es, hes, b, hb, hrs⟩
  · rintro ⟨es, hes, b, hb, hrs⟩
    exact ⟨b, ⟨es, hes, hb⟩, hrs⟩

lemma exists_recordsOf_iff {patterns : List String} :
    (∃ modules, Module.loadAll t patterns = .ok modules ∧ recordsOf ignore modules = .ok rs) ↔
      Yields t patterns ignore rs := by
  simp only [recordsOf_eq_ok, Yields]
  constructor
  · rintro ⟨modules, hload, es, hes, hrs⟩
    exact ⟨modules, es, hload, hes, hrs⟩
  · rintro ⟨modules, es, hload, hes, hrs⟩
    exact ⟨modules, hload, es, hes, hrs⟩

end Modules

section Runs

/-- A run that has its records comes down to writing them. -/
lemma exists_run_eq_writeOut (h : Yields t c.inputs c.ignore rs) :
    ∃ notes, c.run t = writeOut notes (c.format.text rs) t c.out := by
  obtain ⟨modules, hload, hrs⟩ := exists_recordsOf_iff.mpr h
  refine ⟨loadedNote modules ++ builtNote rs, ?_⟩
  simp only [Command.run, hload, hrs]

/-- A run without records says why and leaves everything as it is. -/
lemma exists_run_eq_failed (h : ¬ ∃ rs, Yields t c.inputs c.ignore rs) :
    ∃ notes e, c.run t = .failed notes e t := by
  cases hload : Module.loadAll t c.inputs with
  | error e =>
    refine ⟨"", .loading e, ?_⟩
    simp only [Command.run, hload]
  | ok modules =>
    cases hrs : recordsOf c.ignore modules with
    | error e =>
      refine ⟨loadedNote modules, e, ?_⟩
      simp only [Command.run, hload, hrs]
    | ok rs => exact absurd ⟨rs, exists_recordsOf_iff.mp ⟨modules, hload, hrs⟩⟩ h

end Runs

section Outputs

open FileTree (pieces joinPieces trimPieces IsOpen IsPath IsWritable IsWritten OnlyMakes)

variable {path name : String} {dir : List String}

/-- The pieces of the directory that a file is in. -/
def parentPieces (path : String) : List String :=
  trimPieces (trimPieces (pieces path)).dropLast

lemma parentPieces_isPrefix (path : String) : parentPieces path <+: (pieces path).dropLast :=
  (FileTree.trimPieces_isPrefix _).trans (FileTree.dropLast_trimPieces_isPrefix _)

lemma slash_not_mem_parentPieces : ∀ piece ∈ parentPieces path, '/' ∉ piece.toList := by
  intro piece hpiece
  have hmem := (parentPieces_isPrefix path).mem hpiece
  exact FileTree.slash_not_mem_of_mem_pieces (List.mem_of_mem_dropLast hmem)

lemma makeParent_eq (t : FileTree) (path : String) :
    makeParent t path =
      if parentPieces path = [] then (t, .ok ())
      else
        let (t', made) := t.makeDirectories (parentPieces path).reverse
        (t', made.mapError (.creating (joinPieces (parentPieces path)))) := by
  have hparent : FileTree.parent? path =
      if trimPieces (pieces path) = [] then none else some (joinPieces (parentPieces path)) := by
    rw [FileTree.parent?, parentPieces]
    cases trimPieces (pieces path) <;> rfl
  rw [makeParent, hparent]
  by_cases htrim : trimPieces (pieces path) = []
  · rw [if_pos htrim, if_pos (by rw [parentPieces, htrim]; rfl)]
  · rw [if_neg htrim]
    by_cases hnil : parentPieces path = []
    · rw [if_pos hnil, hnil]
      rfl
    · have hpieces := FileTree.pieces_joinPieces hnil slash_not_mem_parentPieces
      rw [if_neg hnil]
      split
      · cases ‹_›
      · next heq =>
        rw [Option.some.inj heq] at hpieces
        exact absurd hpieces.symm (FileTree.trimPieces_ne_empty _)
      · next heq =>
        cases heq
        rw [hpieces]

lemma isPath_parentPieces (hnil : parentPieces path ≠ [])
    (hzero : ∀ piece ∈ parentPieces path, '\x00' ∉ piece.toList) : IsPath (parentPieces path) :=
  ⟨hnil, FileTree.trimPieces_ne_empty _, slash_not_mem_parentPieces, hzero⟩

/-- Nothing but directories above a file is made for it. -/
lemma onlyMakes_makeParent (t : FileTree) (path : String) :
    OnlyMakes (pieces path).dropLast t (makeParent t path).1 := by
  rw [makeParent_eq]
  split_ifs with hnil
  · exact .refl _ t
  · by_cases hzero : ∃ piece ∈ parentPieces path, '\x00' ∈ piece.toList
    · obtain ⟨e, herror⟩ :=
        FileTree.makeDirectories_of_zero hnil slash_not_mem_parentPieces hzero t
      rw [herror]
      exact .refl _ t
    · push Not at hzero
      have hmade := FileTree.made_makeDirectories (isPath_parentPieces hnil hzero) t
      exact hmade.onlyMakes.of_front (parentPieces_isPrefix path)

/-- The directories above a file are made if the file can be written. -/
lemma exists_makeParent_of_isWritable (hpieces : pieces path = dir ++ [name])
    (h : IsWritable t path) : ∃ t', makeParent t path = (t', .ok ()) ∧ IsOpen t' dir := by
  obtain ⟨hzero, ⟨last, hlast, hname⟩, hmade, -, -⟩ := h
  rw [hpieces] at hlast hmade
  rw [List.getLast?_concat, Option.some.injEq] at hlast
  rw [List.dropLast_concat] at hmade
  subst hlast
  obtain ⟨rest, hrest, hstays⟩ := FileTree.exists_eq_trimPieces_append dir
  have hparent : parentPieces path = trimPieces dir := by
    rw [parentPieces, hpieces, FileTree.trimPieces_concat hname.1, List.dropLast_concat]
  have hdir {t' : FileTree} (hopen : IsOpen t' (trimPieces dir)) : IsOpen t' dir := by
    rw [hrest]
    exact (FileTree.isOpen_append_iff hstays).mpr hopen
  rw [makeParent_eq, hparent]
  split_ifs with hnil
  · exact ⟨t, rfl, hdir (by rw [hnil]; exact hmade.isOpen_nil)⟩
  · have hpath : IsPath (trimPieces dir) := by
      rw [← hparent] at hnil ⊢
      refine isPath_parentPieces hnil ?_
      intro piece hpiece hmem
      have hpath := List.mem_of_mem_dropLast ((parentPieces_isPrefix path).mem hpiece)
      exact hzero (FileTree.zero_mem_iff.mpr ⟨piece, hpath, hmem⟩)
    have hmakes := FileTree.made_makeDirectories hpath t
    cases hresult : t.makeDirectories (trimPieces dir).reverse with
    | mk t' result =>
      rw [hresult] at hmakes
      cases hmakes with
      | ok _ _ hopen => exact ⟨t', rfl, hdir hopen⟩
      | error hbarred => exact absurd (hmade.of_front (FileTree.trimPieces_isPrefix dir)) hbarred

/-- A text is written to a file, and to nothing else, just when the file can be written. -/
lemma writeOut_file (notes text : String) (t : FileTree) (path : String) :
    (writeOut notes text t (some path)).stdout = "" ∧
      ((writeOut notes text t (some path)).exitCode = 0 ↔ IsWritable t path) ∧
      (IsWritable t path →
        IsWritten t path text.toUTF8 (writeOut notes text t (some path)).files ∧
          (writeOut notes text t (some path)).files.readText path = .ok text) ∧
      (¬ IsWritable t path →
        OnlyMakes (pieces path).dropLast t (writeOut notes text t (some path)).files) := by
  obtain ⟨dir, name, hpieces⟩ := FileTree.exists_pieces_eq_concat path
  have hdir : (pieces path).dropLast = dir := by
    rw [hpieces, List.dropLast_concat]
  have honly := onlyMakes_makeParent t path
  rw [hdir] at honly ⊢
  rw [writeOut]
  cases hparent : makeParent t path with
  | mk t₁ made =>
    rw [hparent] at honly
    cases made with
    | error e =>
      have hnot : ¬ IsWritable t path := by
        intro hwritable
        obtain ⟨t', hmade, -⟩ := exists_makeParent_of_isWritable hpieces hwritable
        rw [hparent] at hmade
        cases hmade
      simp [Outcome.failed, Outcome.exitCode, hnot, honly]
    | ok =>
      cases hwrite : t₁.write path text with
      | error e =>
        have hnot : ¬ IsWritable t path := by
          intro hwritable
          obtain ⟨t', hmade, hopen⟩ := exists_makeParent_of_isWritable hpieces hwritable
          rw [hparent] at hmade
          cases hmade
          obtain ⟨t'', hwrite'⟩ := FileTree.exists_write hpieces honly hopen hwritable text
          rw [hwrite] at hwrite'
          cases hwrite'
        simp [hwrite, Outcome.failed, Outcome.exitCode, hnot, honly]
      | ok t₂ =>
        obtain ⟨hwritable, hwritten⟩ := FileTree.isWritten_of_write hpieces honly hwrite
        simp only [hwrite, true_and]
        exact ⟨iff_of_true rfl hwritable,
          fun _ => ⟨hwritten, FileTree.readText_write hwrite⟩, absurd hwritable⟩

end Outputs

/-- A command agrees with the library. It is what the argument list asks for; it has the records
that loading, parsing and building have, writes them in its own format and no more, to standard
output or to its file; and it fails without a trace of output if there are none. -/
theorem run_agrees_with_library (args : List String) (c : Command) (t : FileTree) :
    (parse args = .ok (.run c) ↔ Asks args c) ∧
    (Format.json.text = Record.jsonText ∧
      ∀ package, (Format.go package).text = Go.fileText package) ∧
    (∀ rs, (∃ modules, Module.loadAll t c.inputs = .ok modules ∧
        recordsOf c.ignore modules = .ok rs) ↔ Yields t c.inputs c.ignore rs) ∧
    (∀ rs, Yields t c.inputs c.ignore rs → c.out = none →
      (c.run t).exitCode = 0 ∧ (c.run t).stdout = c.format.text rs ++ "\n" ∧
        (c.run t).files = t) ∧
    (∀ rs path, Yields t c.inputs c.ignore rs → c.out = some path →
      (c.run t).stdout = "" ∧
      ((c.run t).exitCode = 0 ↔ t.IsWritable path) ∧
      (t.IsWritable path →
        t.IsWritten path (c.format.text rs).toUTF8 (c.run t).files ∧
          (c.run t).files.readText path = .ok (c.format.text rs)) ∧
      (¬ t.IsWritable path →
        FileTree.OnlyMakes (FileTree.pieces path).dropLast t (c.run t).files)) ∧
    ((¬ ∃ rs, Yields t c.inputs c.ignore rs) →
      (c.run t).exitCode ≠ 0 ∧ (c.run t).stdout = "" ∧ (c.run t).files = t) := by
  refine ⟨parse_eq_run_iff, ⟨rfl, fun _ => rfl⟩, fun rs => exists_recordsOf_iff, ?_, ?_, ?_⟩
  · intro rs hrs hout
    obtain ⟨notes, hrun⟩ := exists_run_eq_writeOut hrs
    rw [hrun, hout]
    exact ⟨rfl, rfl, rfl⟩
  · intro rs path hrs hout
    obtain ⟨notes, hrun⟩ := exists_run_eq_writeOut hrs
    rw [hrun, hout]
    exact writeOut_file notes (c.format.text rs) t path
  · intro hnone
    obtain ⟨notes, e, hrun⟩ := exists_run_eq_failed hnone
    rw [hrun]
    exact ⟨Nat.one_ne_zero, rfl, rfl⟩

/-- A manifest that declares two variables. -/
def zoneManifest : String :=
  "\x7b\"variables\": \x7b\"zone\": \x7b\"type\": \"string\"\x7d, \"region\": \x7b\x7d\x7d\x7d"

def zoneTree : FileTree :=
  .directory [("net.json", .file zoneManifest.toUTF8)]

def zoneModule : Module :=
  ⟨"net", [⟨"zone", ⟨"net.zone", "string"⟩, "", true⟩, ⟨"region", ⟨"net.region", "any"⟩, "", true⟩]⟩

def zoneRecord : Record :=
  ⟨"Net", [⟨"Zone", "", .primitive .string, [("json", "zone"), ("yaml", "zone"), ("hcl", "zone")]⟩]⟩

lemma loadAll_zoneTree : Module.loadAll zoneTree ["net.json"] = .ok [zoneModule] := by
  have htext : zoneTree.readText "net.json" = .ok zoneManifest :=
    FileTree.readText_of_at? (by decide : zoneTree.resolve "net.json" = .ok ["net.json"]) rfl
  have hmanifest : JsonManifest.ofText zoneManifest = .ok ⟨none,
      [("zone", ⟨some "string", "", false, none⟩), ("region", ⟨none, "", false, none⟩)]⟩ := by
    unfold zoneManifest
    cbv
  have hload : Module.load zoneTree "net.json" = .ok zoneModule := by
    rw [Module.load, Module.loadFrom, if_neg (by decide), if_neg (by decide), Module.loadManifest,
      Module.readText, htext]
    simp only [Except.mapError, Bind.bind, Except.bind, hmanifest]
    rfl
  rw [Module.load] at hload
  rw [Module.loadAll, Module.loadAllWith, List.mapM_cons, Module.resolveWith, if_neg (by decide)]
  simp [Bind.bind, Except.bind, Pure.pure, Except.pure, hload]

lemma yields_zoneTree : Yields zoneTree ["net.json"] ["region"] [zoneRecord] := by
  let zone : Constraint :=
    .node "string" .string none false [] (some ⟨"net.zone", 0, 6, 1, 1⟩)
  let region : Constraint :=
    .node "any" .any none false [] (some ⟨"net.region", 0, 3, 1, 1⟩)
  refine ⟨_, [⟨"net", [⟨"zone", "", true, zone⟩, ⟨"region", "", true, region⟩]⟩],
    loadAll_zoneTree, ?_, ?_⟩
  · cbv
  · decide +kernel

lemma isWritable_zoneTree : zoneTree.IsWritable "gen/net.json" := by
  have hpieces : FileTree.pieces "gen/net.json" = ["gen", "net.json"] := by
    decide
  have hplace : FileTree.leadsTo ["gen", "net.json"] = ["gen", "net.json"] := by
    decide
  constructor
  · decide
  · exact ⟨"net.json", by rw [hpieces]; rfl, by decide⟩
  · rw [hpieces]
    constructor
    · decide
    · rintro names ⟨front, hfront, rfl⟩ content
      obtain rfl | rfl : front = [] ∨ front = ["gen"] := by
        simpa using (List.mem_inits front _).mpr hfront
      · exact nofun
      · exact nofun
  · rw [hpieces, hplace]
    exact nofun
  · rw [hpieces, hplace]
    decide

/-- A command whose records go to a file in a directory that is made for it. -/
def zoneRecords : Command :=
  ⟨["net.json"], ["region"], .json, some "gen/net.json"⟩

def zoneSource : Command :=
  ⟨["net.json"], ["region"], .go "cloud", none⟩

theorem run_agrees_with_library_zone :
    (Asks ["records", "-i", "net.json", "--ignore", "region", "--out=gen/net.json"] zoneRecords ∧
      (zoneRecords.run zoneTree).exitCode = 0 ∧ (zoneRecords.run zoneTree).stdout = "" ∧
      (zoneRecords.run zoneTree).files.readText "gen/net.json" =
        .ok (Record.jsonText [zoneRecord]) ∧
      (zoneRecords.run zoneTree).files.kindAt ["gen"] = .directory ∧
      (zoneRecords.run zoneTree).files.kindAt ["net.json"] = .file zoneManifest.toUTF8) ∧
    Asks ["go", "--ignore=region", "--package", "cloud", "-inet.json"] zoneSource ∧
      (zoneSource.run zoneTree).exitCode = 0 ∧
      (zoneSource.run zoneTree).stdout = Go.fileText "cloud" [zoneRecord] ++ "\n" ∧
      (zoneSource.run zoneTree).files = zoneTree := by
  constructor
  · obtain ⟨hasks, -, -, -, hwritten, -⟩ := run_agrees_with_library
      ["records", "-i", "net.json", "--ignore", "region", "--out=gen/net.json"] zoneRecords zoneTree
    obtain ⟨hstdout, hexit, hfile, -⟩ := hwritten _ _ yields_zoneTree rfl
    obtain ⟨hwritten, htext⟩ := hfile isWritable_zoneTree
    refine ⟨hasks.mp rfl, hexit.mpr isWritable_zoneTree, hstdout, htext, ?_, ?_⟩
    · exact hwritten.above ["gen"] (by decide)
    · exact hwritten.elsewhere ["net.json"] (by decide) (by decide)
  · obtain ⟨hasks, -, -, hprinted, -⟩ := run_agrees_with_library
      ["go", "--ignore=region", "--package", "cloud", "-inet.json"] zoneSource zoneTree
    exact ⟨hasks.mp rfl, hprinted _ yields_zoneTree rfl⟩

end ModuleBindings.CommandLine
