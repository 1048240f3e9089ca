import ModuleBindings.Proofs.ModuleNames

/-!
# Entries of directories

The path of an entry leads from the directory to what the directory holds under the name, and ends
in the name. Names must be such as a system gives to entries: a path is cut at its slashes, and the
names `.` and `..` lead to no entry.
-/

namespace ModuleBindings.FileTree

/-- The name can be that of an entry of a directory. -/
def IsEntryName (name : String) : Prop :=
  staysPut name = false ∧ name ≠ ".." ∧ '/' ∉ name.toList ∧ '\x00' ∉ name.toList ∧
    name.utf8ByteSize ≤ maxNameBytes

instance (name : String) : Decidable (IsEntryName name) :=
  inferInstanceAs (Decidable (_ ∧ _))

/-- The entries can be those of a directory: no two of them have one name. -/
structure AreEntries (es : List (String × FileTree)) : Prop where
  nodup : (es.map (·.1)).Nodup
  isEntryName : ∀ name ∈ es.map (·.1), IsEntryName name

variable {t u : FileTree} {dir name : String} {es : List (String × FileTree)}

lemma isEntryName_manifestName : IsEntryName manifestName := by
  decide

lemma lookup_of_mem (hes : (es.map (·.1)).Nodup) (h : (name, u) ∈ es) :
    es.lookup name = some u := by
  induction es with
  | nil => cases h
  | cons e es ih =>
    obtain ⟨other, v⟩ := e
    rw [List.map_cons, List.nodup_cons] at hes
    rcases List.mem_cons.mp h with heq | hmem
    · cases heq
      simp
    · have hne : (name == other) = false := by
        simp only [beq_eq_false_iff_ne]
        rintro rfl
        exact hes.1 (List.mem_map.mpr ⟨(name, u), hmem, rfl⟩)
      rw [List.lookup_cons, hne]
      exact ih hes.2 hmem

lemma cutAtSlashes_eq_splitOn (cs : List Char) : cutAtSlashes cs = cs.splitOn '/' := by
  induction cs with
  | nil => simp [cutAtSlashes]
  | cons c cs ih =>
    rw [cutAtSlashes, List.splitOn_cons_eq_if_modifyHead, ih]
    cases hcut : cs.splitOn '/' with
    | nil => exact absurd hcut (List.splitOn_ne_nil '/' cs)
    | cons piece rest => simp

lemma pieces_of_not_mem (h : '/' ∉ name.toList) : pieces name = [name] := by
  rw [pieces, cutAtSlashes_eq_splitOn, List.splitOn_eq_singleton h]
  simp

lemma pieces_append (front back : String) :
    pieces (front ++ "/" ++ back) = pieces front ++ pieces back := by
  have hchars : (front ++ "/" ++ back).toList = front.toList ++ '/' :: back.toList := by
    simp
  rw [pieces, hchars, cutAtSlashes_eq_splitOn, List.splitOn_append_cons_self, List.map_append,
    pieces, pieces, cutAtSlashes_eq_splitOn, cutAtSlashes_eq_splitOn]

/-- A slash at the end of the path of the directory makes no difference to its entries. -/
lemma exists_pieces_join (hdir : dir ≠ "") (hname : '/' ∉ name.toList) :
    ∃ ps, pieces (join dir name) = ps ++ [name] ∧ (pieces dir = ps ∨ pieces dir = ps ++ [""]) := by
  rw [join]
  split_ifs with hslash
  · have hlast : dir.toList.getLast? = some '/' := by
      simpa [hdir] using hslash
    obtain ⟨front, hfront⟩ := List.getLast?_eq_some_iff.mp hlast
    have hsplit : dir = String.ofList front ++ "/" := by
      apply String.toList_inj.mp
      simp [hfront]
    refine ⟨pieces (String.ofList front), ?_, .inr ?_⟩
    · rw [hsplit, pieces_append, pieces_of_not_mem hname]
    · have hend := pieces_append (String.ofList front) ""
      rwa [String.append_empty, ← hsplit] at hend
  · exact ⟨pieces dir, by rw [pieces_append, pieces_of_not_mem hname], .inl rfl⟩

lemma extension?_join (hdir : dir ≠ "") (hname : IsEntryName name) :
    extension? (join dir name) = extension? name := by
  obtain ⟨hstays, -, hslash, -⟩ := hname
  obtain ⟨ps, hpieces, -⟩ := exists_pieces_join hdir hslash
  have hlast : lastStep? (join dir name) = lastStep? name := by
    rw [lastStep?, lastStep?, hpieces, pieces_of_not_mem hslash]
    simp [hstays]
  rw [extension?, extension?, fileName?_eq, fileName?_eq, hlast]

lemma resolve_eq_ok_iff {path : String} {names : List String} :
    t.resolve path = .ok names ↔
      '\x00' ∉ path.toList ∧ path ≠ "" ∧ t.resolvePieces [] (pieces path) = .ok names := by
  rw [resolve]
  split_ifs with hzero hempty
  · simp_all
  · simp_all
  · simp_all

lemma exists_resolve_of_lookup {path : String} (h : t.lookup path = .ok u) :
    ∃ names, t.resolve path = .ok names ∧ t.at? names = some u := by
  rw [lookup] at h
  split at h
  · split at h
    · cases h
      exact ⟨_, ‹_›, ‹_›⟩
    · cases h
  · cases h

lemma not_mem_join {c : Char} (hc : c ≠ '/') (hdir : c ∉ dir.toList) (hname : c ∉ name.toList) :
    c ∉ (join dir name).toList := by
  rw [join]
  split_ifs
  · simp [hdir, hname]
  · simp [hdir, hname, hc]

/-- What is found at the path of an entry is what the directory holds under the name. -/
lemma lookup_join (hdir : t.lookup dir = .ok (directory es)) (hname : IsEntryName name) :
    t.lookup (join dir name) =
      match es.lookup name with
      | some u => .ok u
      | none => .error .notFound := by
  obtain ⟨hstays, hup, hslash, hzero, hlong⟩ := hname
  obtain ⟨here, hresolve, hhere⟩ := exists_resolve_of_lookup hdir
  obtain ⟨hzeroDir, hempty, hpath⟩ := resolve_eq_ok_iff.mp hresolve
  obtain ⟨ps, hpieces, hps⟩ := exists_pieces_join hempty hslash
  have hfront : t.resolvePieces [] ps = .ok here := by
    rcases hps with hps | hps
    · rwa [← hps]
    · -- the empty piece behind the last slash only asks for a directory
      rw [hps, resolvePieces_append] at hpath
      cases hfront : t.resolvePieces [] ps with
      | error e => simp [hfront, Except.bind] at hpath
      | ok names =>
        simp only [hfront, Except.bind, resolvePieces, List.reverse_reverse] at hpath
        split at hpath
        · simpa [staysPut] using hpath
        · cases hpath
  have hjoin : t.resolve (join dir name) =
      if (es.lookup name).isSome then .ok (here ++ [name]) else .error .notFound := by
    have hne : join dir name ≠ "" := by
      intro heq
      have hchars := congrArg String.toList heq
      rw [join] at hchars
      split_ifs at hchars <;> simp_all
    rw [resolve, if_neg (by simpa using not_mem_join (by decide) hzeroDir hzero), if_neg hne,
      hpieces, resolvePieces_append, hfront]
    change t.resolvePieces here.reverse [name] = _
    rw [resolvePieces_name hhere, hstays, if_neg Bool.false_ne_true, if_neg hup,
      if_neg (by omega)]
  rw [lookup, hjoin]
  cases hentry : es.lookup name with
  | none => rfl
  | some u =>
    have hat : t.at? (here ++ [name]) = some u := by
      rw [at?_append, hhere]
      change (directory es).at? [name] = some u
      rw [at?_singleton, hentry]
    simp [hat]

end ModuleBindings.FileTree
