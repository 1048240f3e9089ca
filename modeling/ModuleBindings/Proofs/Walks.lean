import ModuleBindings.Proofs.Entries
import Mathlib.Data.List.DropRight
import Mathlib.Tactic.Lemma
import Mathlib.Tactic.SplitIfs

/-!
# Walks through a tree

The pieces of a path lead from place to place, whatever is there. A tree lets them pass as long as
they pass directories, so that what the pieces lead to is known from what there is at the places.
-/

namespace ModuleBindings.FileTree

/-- What there is at some names. -/
inductive Kind where
  | nothing
  | directory
  | file (content : ByteArray)
  deriving DecidableEq

def kind : FileTree → Kind
  | file content => .file content
  | directory _ => .directory

def kindAt (t : FileTree) (names : List String) : Kind :=
  match t.at? names with
  | some u => u.kind
  | none => .nothing

/-- Where one more piece leads. -/
def follow (names : List String) (piece : String) : List String :=
  if staysPut piece then names
  else if piece = ".." then names.dropLast
  else names ++ [piece]

/-- Where the pieces of a path lead, whatever is there. -/
def leadsTo (ps : List String) : List String :=
  ps.foldl follow []

/-- The pieces lead past the names, or to them in the end. -/
def Passes (ps names : List String) : Prop :=
  ∃ front, front <+: ps ∧ leadsTo front = names

instance (ps names : List String) : Decidable (Passes ps names) :=
  decidable_of_iff (∃ front ∈ ps.inits, leadsTo front = names) (by simp [Passes, List.mem_inits])

/-- No piece is longer than a name can be. -/
def AreShort (ps : List String) : Prop :=
  ∀ piece ∈ ps, piece.utf8ByteSize ≤ maxNameBytes

instance (ps : List String) : Decidable (AreShort ps) :=
  inferInstanceAs (Decidable (∀ piece ∈ ps, piece.utf8ByteSize ≤ maxNameBytes))

/-- All that the pieces pass is there, and is a directory. -/
def IsOpen (t : FileTree) (ps : List String) : Prop :=
  ∀ names, Passes ps names → t.kindAt names = .directory

/-- All that the pieces pass can be made a directory, if it is none yet. -/
structure CanBeMade (t : FileTree) (ps : List String) : Prop where
  areShort : AreShort ps
  ne_file : ∀ names, Passes ps names → ∀ content, t.kindAt names ≠ .file content

variable {t u : FileTree} {names ps qs dir : List String} {piece name path : String}
  {es : List (String × FileTree)} {content : ByteArray}

lemma kindAt_eq_directory_iff :
    t.kindAt names = .directory ↔ ∃ es, t.at? names = some (directory es) := by
  rw [kindAt]
  cases t.at? names with
  | none => simp
  | some u => cases u <;> simp [kind]

lemma kindAt_eq_file_iff :
    t.kindAt names = .file content ↔ t.at? names = some (file content) := by
  rw [kindAt]
  cases t.at? names with
  | none => simp
  | some u => cases u <;> simp [kind]

lemma kindAt_nil (t : FileTree) : t.kindAt [] = t.kind :=
  rfl

lemma kindAt_cons (t : FileTree) (name : String) (names : List String) :
    t.kindAt (name :: names) =
      match t.entries.lookup name with
      | some u => u.kindAt names
      | none => .nothing := by
  rw [kindAt, at?]
  cases t.entries.lookup name <;> rfl

lemma kindAt_append (ht : t.at? names = some u) : t.kindAt (names ++ ps) = u.kindAt ps := by
  rw [kindAt, at?_append, ht]
  rfl

/-- What is above something is a directory. -/
lemma kindAt_dropLast (h : t.kindAt names = .directory) :
    t.kindAt names.dropLast = .directory := by
  cases names using List.reverseRecOn with
  | nil => exact h
  | append_singleton names name =>
    rw [List.dropLast_concat]
    cases hat : t.at? names with
    | none =>
      rw [kindAt, at?_append, hat] at h
      cases h
    | some u =>
      cases u with
      | directory es => exact kindAt_eq_directory_iff.mpr ⟨es, hat⟩
      | file content =>
        rw [kindAt_append hat] at h
        cases h

lemma leadsTo_concat (ps : List String) (piece : String) :
    leadsTo (ps ++ [piece]) = follow (leadsTo ps) piece :=
  List.foldl_concat ..

lemma passes_concat_iff :
    Passes (ps ++ [piece]) names ↔ Passes ps names ∨ leadsTo (ps ++ [piece]) = names := by
  simp only [Passes, List.prefix_concat_iff]
  constructor
  · rintro ⟨front, rfl | hfront, hnames⟩
    · exact .inr hnames
    · exact .inl ⟨front, hfront, hnames⟩
  · rintro (⟨front, hfront, hnames⟩ | hnames)
    · exact ⟨front, .inr hfront, hnames⟩
    · exact ⟨_, .inl rfl, hnames⟩

lemma Passes.of_front (h : Passes ps names) (hps : ps <+: qs) : Passes qs names := by
  obtain ⟨front, hfront, hnames⟩ := h
  exact ⟨front, hfront.trans hps, hnames⟩

lemma passes_leadsTo (ps : List String) : Passes ps (leadsTo ps) :=
  ⟨ps, List.prefix_rfl, rfl⟩

lemma isOpen_concat_iff :
    IsOpen t (ps ++ [piece]) ↔ IsOpen t ps ∧ t.kindAt (leadsTo (ps ++ [piece])) = .directory := by
  simp only [IsOpen, passes_concat_iff]
  constructor
  · intro h
    exact ⟨fun names hnames => h names (.inl hnames), h _ (.inr rfl)⟩
  · rintro ⟨hopen, hlast⟩ names (hnames | rfl)
    · exact hopen names hnames
    · exact hlast

lemma IsOpen.leadsTo (h : IsOpen t ps) : t.kindAt (leadsTo ps) = .directory :=
  h _ (passes_leadsTo ps)

lemma isOpen_nil (es : List (String × FileTree)) : IsOpen (directory es) [] := by
  rintro names ⟨front, hfront, rfl⟩
  rw [List.prefix_nil.mp hfront]
  rfl

lemma IsOpen.canBeMade (h : IsOpen t ps) (hshort : AreShort ps) : CanBeMade t ps := by
  refine ⟨hshort, ?_⟩
  intro names hnames content hfile
  rw [h names hnames] at hfile
  cases hfile

lemma CanBeMade.of_front (h : CanBeMade t qs) (hfront : ps <+: qs) : CanBeMade t ps :=
  ⟨fun piece hpiece => h.areShort piece (hfront.mem hpiece),
    fun names hnames => h.ne_file names (hnames.of_front hfront)⟩

lemma areShort_concat_iff :
    AreShort (ps ++ [piece]) ↔ AreShort ps ∧ piece.utf8ByteSize ≤ maxNameBytes := by
  simp [AreShort, or_imp, forall_and]

lemma canBeMade_concat_iff :
    CanBeMade t (ps ++ [piece]) ↔ CanBeMade t ps ∧ piece.utf8ByteSize ≤ maxNameBytes ∧
      ∀ content, t.kindAt (leadsTo (ps ++ [piece])) ≠ .file content := by
  constructor
  · rintro ⟨hshort, hfile⟩
    rw [areShort_concat_iff] at hshort
    exact ⟨⟨hshort.1, fun names hnames => hfile names (passes_concat_iff.mpr (.inl hnames))⟩,
      hshort.2, hfile _ (passes_leadsTo _)⟩
  · rintro ⟨⟨hshort, hfile⟩, hpiece, hlast⟩
    refine ⟨areShort_concat_iff.mpr ⟨hshort, hpiece⟩, ?_⟩
    intro names hnames
    obtain hnames | rfl := passes_concat_iff.mp hnames
    · exact hfile names hnames
    · exact hlast

/-- What becomes of following the pieces of a path in a tree. -/
inductive Walk (t : FileTree) (ps : List String) : Except SystemError (List String) → Prop
  | directory : IsOpen t ps → AreShort ps → Walk t ps (.ok (leadsTo ps))
  | file {content : ByteArray} : t.kindAt (leadsTo ps) = .file content →
    Walk t ps (.ok (leadsTo ps))
  | missing : ¬ IsOpen t ps → Walk t ps (.error .notFound)
  | barred {e : SystemError} : ¬ CanBeMade t ps → e ≠ .notFound → Walk t ps (.error e)

lemma utf8ByteSize_le_of_staysPut (h : staysPut piece) : piece.utf8ByteSize ≤ maxNameBytes := by
  obtain rfl | rfl : piece = "" ∨ piece = "." := by simpa [staysPut] using h
  · decide
  · decide

/-- What there is one name below a directory. -/
lemma kindAt_concat (hes : t.at? names = some (directory es)) (name : String) :
    t.kindAt (names ++ [name]) =
      match es.lookup name with
      | some u => u.kind
      | none => .nothing := by
  rw [kindAt_append hes, kindAt_cons, entries]
  cases es.lookup name <;> rfl

/-- A file leads no further. -/
lemma resolvePieces_of_file (hfile : t.kindAt names = .file content) (piece : String) :
    t.resolvePieces names.reverse [piece] = .error .notDirectory := by
  rw [resolvePieces, List.reverse_reverse, kindAt_eq_file_iff.mp hfile]

/-- A piece that is missing in a directory is a name that is free there. -/
lemma free_of_notFound (hes : t.at? (leadsTo ps) = some (directory es))
    (h : t.resolvePieces (leadsTo ps).reverse [piece] = .error .notFound) :
    leadsTo (ps ++ [piece]) = leadsTo ps ++ [piece] ∧ piece.utf8ByteSize ≤ maxNameBytes ∧
      t.kindAt (leadsTo (ps ++ [piece])) = .nothing := by
  rw [resolvePieces_name hes] at h
  split_ifs at h with hstays hup hlong hthere
  · cases h
  have hnext : leadsTo (ps ++ [piece]) = leadsTo ps ++ [piece] := by
    rw [leadsTo_concat, follow, if_neg hstays, if_neg hup]
  refine ⟨hnext, by omega, ?_⟩
  rw [hnext, kindAt_concat hes, Option.not_isSome_iff_eq_none.mp hthere]

/-- One more piece from a directory. -/
lemma walk_concat_of_isOpen (hopen : IsOpen t ps) (hshort : AreShort ps) (piece : String) :
    Walk t (ps ++ [piece]) (t.resolvePieces (leadsTo ps).reverse [piece]) := by
  obtain ⟨es, hes⟩ := kindAt_eq_directory_iff.mp hopen.leadsTo
  have harrive {names : List String} (hnames : leadsTo (ps ++ [piece]) = names)
      (hkind : t.kindAt names = .directory) (hpiece : piece.utf8ByteSize ≤ maxNameBytes) :
      Walk t (ps ++ [piece]) (.ok names) := by
    rw [← hnames] at hkind ⊢
    exact .directory (isOpen_concat_iff.mpr ⟨hopen, hkind⟩)
      (areShort_concat_iff.mpr ⟨hshort, hpiece⟩)
  have hnext : leadsTo (ps ++ [piece]) = follow (leadsTo ps) piece := leadsTo_concat ps piece
  have hkind := kindAt_concat hes piece
  rw [resolvePieces_name hes]
  rw [follow] at hnext
  split_ifs at hnext ⊢ with hstays hup hlong hthere
  · exact harrive hnext hopen.leadsTo (utf8ByteSize_le_of_staysPut hstays)
  · exact harrive hnext (kindAt_dropLast hopen.leadsTo) (by rw [hup]; decide)
  · refine .barred ?_ (by simp)
    intro hmade
    have hpiece := (canBeMade_concat_iff.mp hmade).2.1
    omega
  · obtain ⟨u, hu⟩ := Option.isSome_iff_exists.mp hthere
    rw [hu] at hkind
    cases u with
    | directory es' => exact harrive hnext hkind (by omega)
    | file content =>
      rw [← hnext] at hkind ⊢
      exact .file hkind
  · refine .missing ?_
    rw [isOpen_concat_iff, hnext, hkind, Option.not_isSome_iff_eq_none.mp hthere]
    simp

lemma walk_resolvePieces (t : FileTree) (ps : List String) : Walk t ps (t.resolvePieces [] ps) := by
  induction ps using List.reverseRecOn with
  | nil =>
    rw [resolvePieces]
    cases t with
    | file content => exact .file rfl
    | directory es => exact .directory (isOpen_nil es) (by simp [AreShort])
  | append_singleton ps piece ih =>
    rw [resolvePieces_append]
    cases hps : t.resolvePieces [] ps with
    | ok names =>
      rw [hps] at ih
      cases ih with
      | directory hopen hshort => exact walk_concat_of_isOpen hopen hshort piece
      | file hfile =>
        change Walk t (ps ++ [piece]) (t.resolvePieces (leadsTo ps).reverse [piece])
        rw [resolvePieces_of_file hfile]
        refine .barred ?_ (by simp)
        intro hmade
        exact (canBeMade_concat_iff.mp hmade).1.ne_file _ (passes_leadsTo ps) _ hfile
    | error e =>
      rw [hps] at ih
      cases ih with
      | missing hmissing => exact .missing fun hopen => hmissing (isOpen_concat_iff.mp hopen).1
      | barred hbarred he =>
        exact .barred (fun hmade => hbarred (canBeMade_concat_iff.mp hmade).1) he

lemma resolvePieces_of_isOpen (hopen : IsOpen t ps) (hshort : AreShort ps) :
    t.resolvePieces [] ps = .ok (leadsTo ps) := by
  cases hps : t.resolvePieces [] ps with
  | ok names =>
    have hwalk := walk_resolvePieces t ps
    rw [hps] at hwalk
    cases hwalk <;> rfl
  | error e =>
    have hwalk := walk_resolvePieces t ps
    rw [hps] at hwalk
    cases hwalk with
    | missing hmissing => exact absurd hopen hmissing
    | barred hbarred => exact absurd (hopen.canBeMade hshort) hbarred

lemma resolvePieces_concat (hopen : IsOpen t ps) (hshort : AreShort ps) :
    t.resolvePieces [] (ps ++ [piece]) = t.resolvePieces (leadsTo ps).reverse [piece] := by
  rw [resolvePieces_append, resolvePieces_of_isOpen hopen hshort]
  rfl

lemma mem_cutAtSlashes_iff {c : Char} (cs : List Char) :
    (∃ part ∈ cutAtSlashes cs, c ∈ part) ↔ c ∈ cs ∧ c ≠ '/' := by
  induction cs with
  | nil => simp [cutAtSlashes]
  | cons d cs ih =>
    obtain ⟨part, rest, hcut⟩ := List.exists_cons_of_ne_nil (cutAtSlashes_ne_nil cs)
    rw [hcut] at ih
    rw [cutAtSlashes, hcut]
    split_ifs with hd
    · rw [hd, List.exists_mem_cons_iff, ih]
      simp only [List.not_mem_nil, false_or, List.mem_cons]
      tauto
    · rw [List.exists_mem_cons_iff] at ih ⊢
      simp only [List.mem_cons, or_assoc, ih]
      constructor
      · rintro (rfl | ⟨hmem, hc⟩)
        · exact ⟨.inl rfl, hd⟩
        · exact ⟨.inr hmem, hc⟩
      · rintro ⟨hmem, hc⟩
        exact hmem.imp_right (⟨·, hc⟩)

lemma mem_pieces_iff {c : Char} : (∃ piece ∈ pieces path, c ∈ piece.toList) ↔
    c ∈ path.toList ∧ c ≠ '/' := by
  rw [← mem_cutAtSlashes_iff, pieces]
  simp

lemma zero_mem_iff : '\x00' ∈ path.toList ↔ ∃ piece ∈ pieces path, '\x00' ∈ piece.toList := by
  simp [mem_pieces_iff]

lemma slash_not_mem_of_mem_pieces (h : piece ∈ pieces path) : '/' ∉ piece.toList :=
  fun hslash => (mem_pieces_iff.mp ⟨piece, h, hslash⟩).2 rfl

/-- Pieces that are joined can be told apart again. -/
lemma pieces_joinPieces (hne : ps ≠ []) (hslash : ∀ piece ∈ ps, '/' ∉ piece.toList) :
    pieces (joinPieces ps) = ps := by
  induction ps with
  | nil => exact absurd rfl hne
  | cons piece ps ih =>
    obtain ⟨hpiece, hps⟩ := List.forall_mem_cons.mp hslash
    cases ps with
    | nil =>
      rw [joinPieces, String.intercalate_singleton]
      exact pieces_of_not_mem hpiece
    | cons next ps =>
      rw [joinPieces, String.intercalate_cons_cons, pieces_append, pieces_of_not_mem hpiece]
      exact congrArg (piece :: ·) (ih (by simp) hps)

/-- What is trimmed from a path leads nowhere. -/
lemma exists_eq_trimPieces_append (ps : List String) :
    ∃ rest, ps = trimPieces ps ++ rest ∧ ∀ piece ∈ rest, staysPut piece := by
  cases ps with
  | nil => exact ⟨[], rfl, nofun⟩
  | cons first rest =>
    have hrest : rest.rdropWhile staysPut ++ rest.rtakeWhile staysPut = rest :=
      List.rdropWhile_append_rtakeWhile
    have hstays : ∀ piece ∈ rest.rtakeWhile staysPut, staysPut piece := fun _ hpiece =>
      List.mem_rtakeWhile_imp hpiece
    rw [trimPieces_cons]
    split_ifs with hnothing
    · rw [Bool.and_eq_true, List.isEmpty_iff, decide_eq_true_eq] at hnothing
      rw [hnothing.1, List.nil_append] at hrest
      refine ⟨first :: rest, rfl, List.forall_mem_cons.mpr ⟨?_, ?_⟩⟩
      · rw [hnothing.2]
        rfl
      · rwa [hrest] at hstays
    · exact ⟨rest.rtakeWhile staysPut, by rw [List.cons_append, hrest], hstays⟩

lemma trimPieces_isPrefix (ps : List String) : trimPieces ps <+: ps := by
  obtain ⟨rest, hrest, -⟩ := exists_eq_trimPieces_append ps
  exact ⟨rest, hrest.symm⟩

lemma dropLast_trimPieces_isPrefix (ps : List String) :
    (trimPieces ps).dropLast <+: ps.dropLast := by
  have hdropLast {xs ys : List String} (h : xs <+: ys) : xs.dropLast <+: ys.dropLast := by
    obtain ⟨rest, rfl⟩ := h
    cases rest using List.reverseRecOn with
    | nil => rw [List.append_nil]
    | append_singleton rest y =>
      rw [← List.append_assoc, List.dropLast_concat]
      exact (List.dropLast_prefix xs).trans (List.prefix_append xs rest)
  exact hdropLast (trimPieces_isPrefix ps)

lemma trimPieces_ne_empty (ps : List String) : trimPieces ps ≠ [""] := by
  cases ps with
  | nil => simp [trimPieces]
  | cons first rest =>
    rw [trimPieces]
    split_ifs with hnothing
    · simp
    · intro hempty
      simp_all

lemma trimPieces_concat (hname : staysPut name = false) :
    trimPieces (dir ++ [name]) = dir ++ [name] := by
  obtain ⟨rest, hrest, hstays⟩ := exists_eq_trimPieces_append (dir ++ [name])
  cases rest using List.reverseRecOn with
  | nil => simpa using hrest.symm
  | append_singleton rest piece =>
    rw [← List.append_assoc] at hrest
    obtain ⟨-, hlast⟩ := List.append_inj' hrest rfl
    have hpiece := hstays piece (by simp)
    rw [← List.singleton_inj.mp hlast, hname] at hpiece
    cases hpiece

lemma passes_append_iff {rest : List String} (hrest : ∀ piece ∈ rest, staysPut piece) :
    Passes (ps ++ rest) names ↔ Passes ps names := by
  induction rest using List.reverseRecOn with
  | nil => rw [List.append_nil]
  | append_singleton rest piece ih =>
    have hpiece : staysPut piece := hrest piece (by simp)
    replace ih := ih fun part hpart => hrest part (List.mem_append_left _ hpart)
    rw [← List.append_assoc, passes_concat_iff, leadsTo_concat, follow, if_pos hpiece, ih,
      or_iff_left_iff_imp]
    rintro rfl
    exact ih.mp (passes_leadsTo _)

lemma isOpen_append_iff {rest : List String} (hrest : ∀ piece ∈ rest, staysPut piece) :
    IsOpen t (ps ++ rest) ↔ IsOpen t ps := by
  simp only [IsOpen, passes_append_iff hrest]

lemma CanBeMade.isOpen_nil (h : CanBeMade t ps) : IsOpen t [] := by
  cases t with
  | file content => exact absurd rfl (h.ne_file [] ⟨[], List.nil_prefix, rfl⟩ content)
  | directory es => exact FileTree.isOpen_nil es

end ModuleBindings.FileTree
