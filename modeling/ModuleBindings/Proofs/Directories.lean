import ModuleBindings.Proofs.Walks
import Mathlib.Tactic.Lemma
import Mathlib.Tactic.SplitIfs

/-!
# Making directories and files

The directories that a path passes can be made if none of them is a file and every piece is short.
A file can then be written unless its place is a directory. Whatever comes of it, nothing else
changes: no file but the one that is written, and no directory is lost.
-/

namespace ModuleBindings.FileTree

/-- What is new are directories that the pieces pass, and nothing else has changed. -/
def OnlyMakes (ps : List String) (t t' : FileTree) : Prop :=
  ∀ names, t'.kindAt names = t.kindAt names ∨
    t.kindAt names = .nothing ∧ t'.kindAt names = .directory ∧ Passes ps names

/-- A file can be written at a path once the directories above it are made. Its own place is none
of them, as it would be in `a/../a`. -/
structure IsWritable (t : FileTree) (path : String) : Prop where
  zero_not_mem : '\x00' ∉ path.toList
  isEntryName : ∃ name, (pieces path).getLast? = some name ∧ IsEntryName name
  canBeMade : CanBeMade t (pieces path).dropLast
  ne_directory : t.kindAt (leadsTo (pieces path)) ≠ .directory
  not_passes : ¬ Passes (pieces path).dropLast (leadsTo (pieces path))

/-- The second tree is the first one with a file at a path and directories at all that the path
passes. -/
structure IsWritten (t : FileTree) (path : String) (content : ByteArray) (t' : FileTree) :
    Prop where
  file : t'.kindAt (leadsTo (pieces path)) = .file content
  above : IsOpen t' (pieces path).dropLast
  elsewhere : ∀ names, names ≠ leadsTo (pieces path) → ¬ Passes (pieces path).dropLast names →
    t'.kindAt names = t.kindAt names

variable {t t' t'' u : FileTree} {names ps qs dir : List String} {piece name path text : String}
  {es : List (String × FileTree)} {content : ByteArray}

/-- What is put into a directory that is there changes only its own place. -/
lemma kindAt_put (hleaf : u.entries = []) (hdir : t.kindAt dir = .directory)
    (hfree : t.kindAt (dir ++ [name]) ≠ .directory) (names : List String) :
    (put u (dir ++ [name]) t).kindAt names =
      if names = dir ++ [name] then u.kind else t.kindAt names := by
  induction dir generalizing t names with
  | nil =>
    cases t with
    | file content => cases hdir
    | directory es =>
      cases names with
      | nil => simp [put, kindAt_nil, kind]
      | cons first names =>
        rw [List.nil_append, put, kindAt_cons, entries]
        by_cases heq : first = name
        · subst heq
          rw [lookup_setEntry]
          cases names with
          | nil => simp [put, kindAt_nil]
          | cons second names =>
            -- below the new leaf there is nothing, and there was nothing before
            have hbefore : (directory es).kindAt (first :: second :: names) = .nothing := by
              rw [kindAt_cons, entries]
              cases hv : es.lookup first with
              | none => rfl
              | some v =>
                cases v with
                | file content => rfl
                | directory es' => simp [kindAt_cons, entries, hv, kindAt_nil, kind] at hfree
            simp [put, hbefore, kindAt_cons, hleaf]
        · rw [lookup_setEntry_of_ne heq, if_neg (by simp [heq]), kindAt_cons]
  | cons above dir ih =>
    rw [kindAt_cons] at hdir
    cases hv : t.entries.lookup above with
    | none => simp [hv] at hdir
    | some v =>
      rw [hv] at hdir
      rw [List.cons_append, kindAt_cons, hv] at hfree
      cases names with
      | nil =>
        cases t with
        | file content => cases hv
        | directory es => simp [put, kindAt_nil, kind]
      | cons first names =>
        rw [List.cons_append, put, kindAt_cons, entries]
        by_cases heq : first = above
        · subst heq
          rw [lookup_setEntry, hv, Option.getD_some, kindAt_cons, hv]
          simpa using ih hdir hfree names
        · rw [lookup_setEntry_of_ne heq, if_neg (by simp [heq]), kindAt_cons]

namespace OnlyMakes

lemma refl (ps : List String) (t : FileTree) : OnlyMakes ps t t :=
  fun _ => .inl rfl

lemma of_front (h : OnlyMakes ps t t') (hfront : ps <+: qs) : OnlyMakes qs t t' := by
  intro names
  obtain hsame | ⟨hbefore, hafter, hpasses⟩ := h names
  · exact .inl hsame
  · exact .inr ⟨hbefore, hafter, hpasses.of_front hfront⟩

lemma trans (h : OnlyMakes ps t t') (h' : OnlyMakes ps t' t'') : OnlyMakes ps t t'' := by
  intro names
  obtain hsame | ⟨hbefore, hafter, hpasses⟩ := h names
  · rw [← hsame]
    exact h' names
  · obtain hsame' | ⟨hbefore', -, -⟩ := h' names
    · exact .inr ⟨hbefore, hsame'.trans hafter, hpasses⟩
    · rw [hafter] at hbefore'
      cases hbefore'

lemma kindAt_eq_directory (h : OnlyMakes ps t t') (hdir : t.kindAt names = .directory) :
    t'.kindAt names = .directory := by
  obtain hsame | ⟨-, hafter, -⟩ := h names
  · rw [hsame, hdir]
  · exact hafter

/-- Files neither come nor go. -/
lemma kindAt_eq_file_iff (h : OnlyMakes ps t t') :
    t'.kindAt names = .file content ↔ t.kindAt names = .file content := by
  obtain hsame | ⟨hbefore, hafter, -⟩ := h names
  · rw [hsame]
  · simp [hbefore, hafter]

lemma canBeMade_iff (h : OnlyMakes ps t t') : CanBeMade t' qs ↔ CanBeMade t qs := by
  constructor
  · rintro ⟨hshort, hfile⟩
    exact ⟨hshort, fun names hnames content =>
      mt h.kindAt_eq_file_iff.mpr (hfile names hnames content)⟩
  · rintro ⟨hshort, hfile⟩
    exact ⟨hshort, fun names hnames content =>
      mt h.kindAt_eq_file_iff.mp (hfile names hnames content)⟩

end OnlyMakes

/-- The pieces are those of a path that the system looks up. -/
structure IsPath (ps : List String) : Prop where
  ne_nil : ps ≠ []
  ne_empty : ps ≠ [""]
  slash_not_mem : ∀ piece ∈ ps, '/' ∉ piece.toList
  zero_not_mem : ∀ piece ∈ ps, '\x00' ∉ piece.toList

lemma IsPath.resolve (h : IsPath ps) (t : FileTree) :
    t.resolve (joinPieces ps) = t.resolvePieces [] ps := by
  have hpieces := pieces_joinPieces h.ne_nil h.slash_not_mem
  have hzero : '\x00' ∉ (joinPieces ps).toList := by
    rw [zero_mem_iff, hpieces]
    rintro ⟨piece, hpiece, hmem⟩
    exact h.zero_not_mem piece hpiece hmem
  have hempty : joinPieces ps ≠ "" := by
    intro hempty
    rw [hempty] at hpieces
    exact h.ne_empty hpieces.symm
  rw [FileTree.resolve, if_neg (by simpa using hzero), if_neg hempty, hpieces]

/-- What is above a path is a path too, if it can be missing. -/
lemma IsPath.front (h : IsPath (ps ++ [piece]))
    (hmissing : t.resolvePieces [] ps = .error .notFound) : IsPath ps where
  ne_nil := by
    rintro rfl
    cases hmissing
  ne_empty := by
    rintro rfl
    cases t <;> cases hmissing
  slash_not_mem part hpart := h.slash_not_mem part (List.mem_append_left _ hpart)
  zero_not_mem part hpart := h.zero_not_mem part (List.mem_append_left _ hpart)

/-- What making the directories that the pieces pass comes to. -/
inductive Made (t : FileTree) (ps : List String) : FileTree × Except SystemError Unit → Prop
  | ok {t' : FileTree} : CanBeMade t ps → OnlyMakes ps t t' → IsOpen t' ps →
    Made t ps (t', .ok ())
  | error {t' : FileTree} {e : SystemError} : ¬ CanBeMade t ps → OnlyMakes ps t t' →
    Made t ps (t', .error e)

lemma Made.onlyMakes {result : FileTree × Except SystemError Unit} (h : Made t ps result) :
    OnlyMakes ps t result.1 := by
  cases h with
  | ok _ honly _ => exact honly
  | error _ honly => exact honly

lemma Made.of_onlyMakes {result : FileTree × Except SystemError Unit} (h : Made t' qs result)
    (honly : OnlyMakes ps t t') (hfront : ps <+: qs) : Made t qs result := by
  cases h with
  | ok hmade honly' hopen =>
    exact .ok (honly.canBeMade_iff.mp hmade) ((honly.of_front hfront).trans honly') hopen
  | error hbarred honly' =>
    exact .error (mt honly.canBeMade_iff.mpr hbarred) ((honly.of_front hfront).trans honly')

lemma isDirectory_iff (hps : IsPath ps) :
    t.isDirectory (joinPieces ps) = true ↔ IsOpen t ps ∧ AreShort ps := by
  have hwalk := walk_resolvePieces t ps
  rw [isDirectory, lookup, hps.resolve]
  cases hresolve : t.resolvePieces [] ps with
  | ok names =>
    rw [hresolve] at hwalk
    cases hwalk with
    | directory hopen hshort =>
      obtain ⟨es, hes⟩ := kindAt_eq_directory_iff.mp hopen.leadsTo
      simp [hes, hopen, hshort]
    | file hfile =>
      have hclosed : ¬ IsOpen t ps := by
        intro hopen
        rw [hopen.leadsTo] at hfile
        cases hfile
      simp [kindAt_eq_file_iff.mp hfile, hclosed]
  | error e =>
    rw [hresolve] at hwalk
    cases hwalk with
    | missing hmissing => simp [hmissing]
    | barred hbarred =>
      have hclosed : ¬ (IsOpen t ps ∧ AreShort ps) := fun h => hbarred (h.1.canBeMade h.2)
      simpa using hclosed

lemma isDirectory_of_barred (hps : IsPath ps) (hbarred : ¬ CanBeMade t ps) :
    t.isDirectory (joinPieces ps) = false := by
  rw [Bool.eq_false_iff, Ne, isDirectory_iff hps]
  exact fun h => hbarred (h.1.canBeMade h.2)

lemma orThere_error {e : SystemError} (hps : IsPath ps) (hbarred : ¬ CanBeMade t ps) :
    t.orThere ps (.error e) = (t, .error e) := by
  rw [orThere, isDirectory_of_barred hps hbarred, if_neg Bool.false_ne_true]

lemma create_of_isOpen (hopen : IsOpen t ps) (hshort : AreShort ps) (u : FileTree) :
    t.create (ps ++ [piece]) u = .ok (put u (leadsTo ps ++ [piece]) t) := by
  obtain ⟨es, hes⟩ := kindAt_eq_directory_iff.mp hopen.leadsTo
  rw [create, List.dropLast_concat, resolvePieces_of_isOpen hopen hshort]
  simp [hes]

lemma create_of_error {e : SystemError} (h : t.resolvePieces [] ps = .error e) (u : FileTree) :
    t.create (ps ++ [piece]) u = .error e := by
  rw [create, List.dropLast_concat, h]

/-- A directory is made by putting an empty one in another that is there. -/
lemma made_put (hopen : IsOpen t ps) (hshort : AreShort ps)
    (hnext : leadsTo (ps ++ [piece]) = leadsTo ps ++ [piece])
    (hpiece : piece.utf8ByteSize ≤ maxNameBytes)
    (hfree : t.kindAt (leadsTo (ps ++ [piece])) = .nothing) :
    Made t (ps ++ [piece]) (put empty (leadsTo (ps ++ [piece])) t, .ok ()) := by
  have hkind (names : List String) :
      (put empty (leadsTo (ps ++ [piece])) t).kindAt names =
        if names = leadsTo (ps ++ [piece]) then .directory else t.kindAt names := by
    rw [hnext] at hfree ⊢
    exact kindAt_put rfl hopen.leadsTo (by simp [hfree]) names
  have honly : OnlyMakes (ps ++ [piece]) t (put empty (leadsTo (ps ++ [piece])) t) := by
    intro names
    rw [hkind]
    split_ifs with hnames
    · rw [hnames]
      exact .inr ⟨hfree, rfl, passes_leadsTo _⟩
    · exact .inl rfl
  have hopen' : IsOpen (put empty (leadsTo (ps ++ [piece])) t) (ps ++ [piece]) := by
    intro names hnames
    rw [hkind]
    split_ifs with hlast
    · rfl
    · obtain hnames | hnames := passes_concat_iff.mp hnames
      · exact hopen names hnames
      · exact absurd hnames.symm hlast
  have hmade := hopen'.canBeMade (areShort_concat_iff.mpr ⟨hshort, hpiece⟩)
  exact .ok (honly.canBeMade_iff.mp hmade) honly hopen'

/-- A directory in one that is there. -/
lemma made_orThere (hps : IsPath (ps ++ [piece])) (hopen : IsOpen t ps) (hshort : AreShort ps) :
    Made t (ps ++ [piece]) (t.orThere (ps ++ [piece]) (t.makeDirectory (ps ++ [piece]))) := by
  have hwalk := walk_resolvePieces t (ps ++ [piece])
  rw [makeDirectory, hps.resolve]
  cases hresolve : t.resolvePieces [] (ps ++ [piece]) with
  | ok names =>
    rw [hresolve] at hwalk
    cases hwalk with
    | directory hopen' hshort' =>
      rw [orThere, if_pos ((isDirectory_iff hps).mpr ⟨hopen', hshort'⟩)]
      exact .ok (hopen'.canBeMade hshort') (.refl _ t) hopen'
    | file hfile =>
      have hbarred : ¬ CanBeMade t (ps ++ [piece]) :=
        fun hmade => hmade.ne_file _ (passes_leadsTo _) _ hfile
      rw [orThere_error hps hbarred]
      exact .error hbarred (.refl _ t)
  | error e =>
    rw [hresolve] at hwalk
    cases hwalk with
    | missing hmissing =>
      obtain ⟨es, hes⟩ := kindAt_eq_directory_iff.mp hopen.leadsTo
      rw [resolvePieces_concat hopen hshort] at hresolve
      obtain ⟨hnext, hpiece, hfree⟩ := free_of_notFound hes hresolve
      simp only [create_of_isOpen hopen hshort, ← hnext, orThere]
      exact made_put hopen hshort hnext hpiece hfree
    | barred hbarred he =>
      split
      · cases ‹_›
      · next heq =>
        cases heq
        exact absurd rfl he
      · rw [orThere_error hps hbarred]
        exact .error hbarred (.refl _ t)

lemma makeDirectory_of_error {e : SystemError} (hps : IsPath (ps ++ [piece]))
    (h : t.resolvePieces [] ps = .error e) : t.makeDirectory (ps ++ [piece]) = .error e := by
  have hlast : t.resolvePieces [] (ps ++ [piece]) = .error e := by
    rw [resolvePieces_append, h]
    rfl
  rw [makeDirectory, hps.resolve, hlast]
  cases e <;> simp [create_of_error h]

lemma makeDirectory_of_file (hps : IsPath (ps ++ [piece])) (h : t.resolvePieces [] ps = .ok names)
    (hfile : t.kindAt names = .file content) :
    t.makeDirectory (ps ++ [piece]) = .error .notDirectory := by
  have hlast : t.resolvePieces [] (ps ++ [piece]) = .error .notDirectory := by
    rw [resolvePieces_append, h]
    exact resolvePieces_of_file hfile piece
  rw [makeDirectory, hps.resolve, hlast]

lemma makeDirectory_ne_notFound (hps : IsPath (ps ++ [piece])) (hopen : IsOpen t ps)
    (hshort : AreShort ps) : t.makeDirectory (ps ++ [piece]) ≠ .error .notFound := by
  rw [makeDirectory, hps.resolve, create_of_isOpen hopen hshort]
  cases t.resolvePieces [] (ps ++ [piece]) with
  | ok names => simp
  | error e => cases e <;> simp

/-- Directories are made just when they can be. -/
theorem made_makeDirectories (hps : IsPath ps) (t : FileTree) :
    Made t ps (t.makeDirectories ps.reverse) := by
  induction ps using List.reverseRecOn with
  | nil => exact absurd rfl hps.ne_nil
  | append_singleton ps piece ih =>
    have hwalk := walk_resolvePieces t ps
    rw [List.reverse_concat, makeDirectories]
    simp only [List.reverse_cons, List.reverse_reverse]
    cases hresolve : t.resolvePieces [] ps with
    | ok names =>
      rw [hresolve] at hwalk
      cases hwalk with
      | directory hopen hshort =>
        have hmade := made_orThere hps hopen hshort
        split
        · exact absurd ‹_› (makeDirectory_ne_notFound hps hopen hshort)
        · exact hmade
      | file hfile =>
        have hbarred : ¬ CanBeMade t (ps ++ [piece]) := fun hmade =>
          (canBeMade_concat_iff.mp hmade).1.ne_file _ (passes_leadsTo ps) _ hfile
        rw [makeDirectory_of_file hps hresolve hfile]
        simp only [orThere_error hps hbarred]
        exact .error hbarred (.refl _ t)
    | error e =>
      rw [hresolve] at hwalk
      cases hwalk with
      | missing hmissing =>
        rw [makeDirectory_of_error hps hresolve]
        have hfront : ps <+: ps ++ [piece] := List.prefix_append _ _
        cases habove : t.makeDirectories ps.reverse with
        | mk t' result =>
          have hmade := ih (hps.front hresolve)
          rw [habove] at hmade
          cases hmade with
          | ok hmade honly hopen =>
            exact (made_orThere hps hopen hmade.areShort).of_onlyMakes honly hfront
          | error hbarred honly =>
            exact .error (fun hmade => hbarred (canBeMade_concat_iff.mp hmade).1)
              (honly.of_front hfront)
      | barred hbarred he =>
        rw [makeDirectory_of_error hps hresolve]
        replace hbarred : ¬ CanBeMade t (ps ++ [piece]) :=
          fun hmade => hbarred (canBeMade_concat_iff.mp hmade).1
        split
        · next heq =>
          cases heq
          exact absurd rfl he
        · rw [orThere_error hps hbarred]
          exact .error hbarred (.refl _ t)

lemma makeDirectories_of_zero (hne : ps ≠ []) (hslash : ∀ piece ∈ ps, '/' ∉ piece.toList)
    (hzero : ∃ piece ∈ ps, '\x00' ∈ piece.toList) (t : FileTree) :
    ∃ e, t.makeDirectories ps.reverse = (t, .error e) := by
  have hresolve : t.resolve (joinPieces ps) = .error .zeroByte := by
    rw [resolve, if_pos]
    rwa [List.contains_iff_mem, zero_mem_iff, pieces_joinPieces hne hslash]
  obtain ⟨front, last, rfl⟩ := (List.eq_nil_or_concat' ps).resolve_left hne
  refine ⟨.zeroByte, ?_⟩
  rw [List.reverse_concat, makeDirectories]
  simp [makeDirectory, orThere, isDirectory, lookup, hresolve]

lemma pieces_empty : pieces "" = [""] :=
  rfl

/-- A slash at the end leaves an empty piece behind it. -/
lemma getLast?_pieces_of_slash (h : path.toList.getLast? = some '/') :
    (pieces path).getLast? = some "" := by
  obtain ⟨front, hfront⟩ := List.getLast?_eq_some_iff.mp h
  have hsplit : path = String.ofList front ++ "/" ++ "" := by
    apply String.toList_inj.mp
    simp [hfront]
  rw [hsplit, pieces_append, pieces_empty, List.getLast?_concat]

lemma isEntryName_iff (hname : name ∈ pieces path) (hzero : '\x00' ∉ path.toList) :
    IsEntryName name ↔
      staysPut name = false ∧ name ≠ ".." ∧ name.utf8ByteSize ≤ maxNameBytes := by
  have hslash := slash_not_mem_of_mem_pieces hname
  have hfree : '\x00' ∉ name.toList := fun hmem => hzero (zero_mem_iff.mpr ⟨name, hname, hmem⟩)
  simp [IsEntryName, hslash, hfree]

section Write

variable (hpieces : pieces path = dir ++ [name])
include hpieces

lemma write_eq_error_of_slash (t : FileTree) (text : String)
    (hslash : path.toList.getLast? = some '/') :
    (∃ e, t.write path text = .error e) ∧ ¬ IsEntryName name := by
  constructor
  · rw [write, if_pos hslash]
    split
    · exact ⟨_, rfl⟩
    · exact ⟨_, rfl⟩
  · have hlast := getLast?_pieces_of_slash hslash
    rw [hpieces, List.getLast?_concat, Option.some.injEq] at hlast
    rw [hlast]
    decide

lemma resolve_eq (hempty : path ≠ "") (hzero : '\x00' ∉ path.toList) :
    t.resolve path = t.resolvePieces [] (dir ++ [name]) := by
  rw [resolve, if_neg (by simpa using hzero), if_neg hempty, hpieces]

/-- A file is written in a directory that is there, under a name that is no directory's. -/
lemma write_eq_ok_iff_of_isOpen (hslash : path.toList.getLast? ≠ some '/') (hempty : path ≠ "")
    (hzero : '\x00' ∉ path.toList) (hopen : IsOpen t dir) (hshort : AreShort dir) :
    t.write path text = .ok t' ↔
      IsEntryName name ∧ t.kindAt (leadsTo (dir ++ [name])) ≠ .directory ∧
        t' = put (file text.toUTF8) (leadsTo (dir ++ [name])) t := by
  obtain ⟨es, hes⟩ := kindAt_eq_directory_iff.mp hopen.leadsTo
  obtain ⟨es', hes'⟩ := kindAt_eq_directory_iff.mp (kindAt_dropLast hopen.leadsTo)
  have hname : name ∈ pieces path := by simp [hpieces]
  rw [write, if_neg hslash, resolve_eq hpieces hempty hzero, hpieces,
    resolvePieces_concat hopen hshort, resolvePieces_name hes, isEntryName_iff hname hzero,
    leadsTo_concat, follow]
  split_ifs with hstays hup hlong hthere
  · simp [hes, hstays]
  · simp [hes', hup]
  · simp [hlong]
  · obtain ⟨u, hu⟩ := Option.isSome_iff_exists.mp hthere
    have hkind := kindAt_concat hes name
    have hat : t.at? (leadsTo dir ++ [name]) = some u := by
      rw [at?_append, hes, ← hu]
      exact at?_singleton es name
    rw [hu] at hkind
    cases u with
    | file content => simp [hat, hkind, kind, hstays, hup, not_lt.mp hlong, eq_comm]
    | directory es'' => simp [hat, hkind, kind]
  · have hkind := kindAt_concat hes name
    rw [Option.not_isSome_iff_eq_none.mp hthere] at hkind
    simp [create_of_isOpen hopen hshort, hkind, hstays, hup, not_lt.mp hlong, eq_comm]

lemma write_eq_error_of_closed (text : String) (hslash : path.toList.getLast? ≠ some '/')
    (hempty : path ≠ "") (hzero : '\x00' ∉ path.toList)
    (hclosed : ¬ (IsOpen t dir ∧ AreShort dir)) :
    ∃ e, t.write path text = .error e := by
  have hwalk := walk_resolvePieces t dir
  rw [write, if_neg hslash, resolve_eq hpieces hempty hzero, hpieces, resolvePieces_append]
  cases hresolve : t.resolvePieces [] dir with
  | ok names =>
    rw [hresolve] at hwalk
    cases hwalk with
    | directory hopen hshort => exact absurd ⟨hopen, hshort⟩ hclosed
    | file hfile =>
      simp [Except.bind, resolvePieces_of_file hfile]
  | error e =>
    cases e <;> simp [Except.bind, hempty, create_of_error hresolve]

/-- When a file is written, and what there is then. -/
theorem write_eq_ok_iff :
    t.write path text = .ok t' ↔
      '\x00' ∉ path.toList ∧ IsEntryName name ∧ IsOpen t dir ∧ AreShort dir ∧
        t.kindAt (leadsTo (dir ++ [name])) ≠ .directory ∧
          t' = put (file text.toUTF8) (leadsTo (dir ++ [name])) t := by
  by_cases hslash : path.toList.getLast? = some '/'
  · obtain ⟨⟨e, herror⟩, hname⟩ := write_eq_error_of_slash hpieces t text hslash
    simp [herror, hname]
  by_cases hempty : path = ""
  · have herror : t.write path text = .error .notFound := by
      rw [write, if_neg hslash, hempty]
      rfl
    have hname : ¬ IsEntryName name := by
      have hlast := congrArg List.getLast? hpieces
      rw [hempty, pieces_empty, List.getLast?_concat] at hlast
      rw [← Option.some.inj hlast]
      decide
    simp [herror, hname]
  by_cases hzero : '\x00' ∈ path.toList
  · have herror : t.write path text = .error .zeroByte := by
      rw [write, if_neg hslash, resolve, if_pos (by simpa using hzero)]
    simp [herror, hzero]
  by_cases hclosed : IsOpen t dir ∧ AreShort dir
  · rw [write_eq_ok_iff_of_isOpen hpieces hslash hempty hzero hclosed.1 hclosed.2]
    simp [hzero, hclosed.1, hclosed.2]
  · obtain ⟨e, herror⟩ :=
      write_eq_error_of_closed hpieces text hslash hempty hzero hclosed
    rw [not_and] at hclosed
    simp only [herror, reduceCtorEq, false_iff, not_and]
    intro _ _ hopen hshort
    exact absurd hshort (hclosed hopen)

/-- What is written after directories are made could be written before, and is all that is new
beside them. -/
lemma isWritten_of_write (honly : OnlyMakes dir t t') (h : t'.write path text = .ok t'') :
    IsWritable t path ∧ IsWritten t path text.toUTF8 t'' := by
  obtain ⟨hzero, hname, hopen, hshort, hplace, rfl⟩ := (write_eq_ok_iff hpieces).mp h
  have hnext : leadsTo (dir ++ [name]) = leadsTo dir ++ [name] := by
    obtain ⟨hstays, hup, -⟩ := hname
    rw [leadsTo_concat, follow, if_neg (by simp [hstays]), if_neg hup]
  have hdir : (pieces path).dropLast = dir := by
    rw [hpieces, List.dropLast_concat]
  have hput (names : List String) :
      (put (file text.toUTF8) (leadsTo (dir ++ [name])) t').kindAt names =
        if names = leadsTo (dir ++ [name]) then .file text.toUTF8 else t'.kindAt names := by
    rw [hnext] at hplace ⊢
    exact kindAt_put rfl hopen.leadsTo hplace names
  have hapart : ¬ Passes dir (leadsTo (dir ++ [name])) := fun h => hplace (hopen _ h)
  constructor
  · constructor
    · exact hzero
    · exact ⟨name, by rw [hpieces, List.getLast?_concat], hname⟩
    · rw [hdir]
      exact honly.canBeMade_iff.mp (hopen.canBeMade hshort)
    · rw [hpieces]
      exact mt honly.kindAt_eq_directory hplace
    · rwa [hdir, hpieces]
  · constructor
    · rw [hpieces, hput, if_pos rfl]
    · rw [hdir]
      intro names hnames
      rw [hput, if_neg]
      · exact hopen names hnames
      · rintro rfl
        exact hapart hnames
    · rw [hdir, hpieces]
      intro names hne hnames
      rw [hput, if_neg hne]
      exact (honly names).resolve_right fun h => hnames h.2.2

lemma exists_write (honly : OnlyMakes dir t t') (hopen : IsOpen t' dir) (h : IsWritable t path)
    (text : String) : ∃ t'', t'.write path text = .ok t'' := by
  obtain ⟨hzero, ⟨last, hlast, hname⟩, hmade, hplace, hapart⟩ := h
  rw [hpieces] at hlast hmade hplace hapart
  rw [List.getLast?_concat, Option.some.injEq] at hlast
  rw [List.dropLast_concat] at hmade hapart
  subst hlast
  refine ⟨_, (write_eq_ok_iff hpieces).mpr ⟨hzero, hname, hopen, hmade.areShort, ?_, rfl⟩⟩
  intro hdirectory
  obtain hsame | ⟨-, -, hpasses⟩ := honly (leadsTo (dir ++ [name]))
  · exact hplace (hsame ▸ hdirectory)
  · exact hapart hpasses

end Write

end ModuleBindings.FileTree
