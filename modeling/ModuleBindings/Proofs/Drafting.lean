import ModuleBindings.Proofs.BuilderRuns
import ModuleBindings.Record.Draft

/-!
# Drafts and flattenings

What is written into a draft is what flattening answers, record for record and error for error. The
builder of a draft is touched by the last step only, so an entity that fails changes nothing,
however much of it was written before.
-/

namespace ModuleBindings

open Record (names nameAt memberRound flattenType flattenFields flattenVariables)

namespace Draft

variable {α β γ δ : Type} {b : RecordBuilder}

/-- A step of writing ends like a step of flattening: with what belongs to its answer, or with its
error and anything left in the draft. The builder is untouched. -/
inductive Agrees (b : RecordBuilder) (value : α → β) (out : α → List Record → List Record) :
    Except BuildError (α × List Record) → EStateM.Result BuildError Draft β → Prop
  | ok (a : α) (rs : List Record) : Agrees b value out (.ok (a, rs)) (.ok (value a) ⟨b, out a rs⟩)
  | error (err : BuildError) (left : List Record) :
    Agrees b value out (.error err) (.error err ⟨b, left⟩)

lemma Agrees.eq_ok_or_error {value : α → β} {out : α → List Record → List Record}
    {x : Except BuildError (α × List Record)} {r : EStateM.Result BuildError Draft β}
    (h : Agrees b value out x r) :
    (∃ a rs, x = .ok (a, rs) ∧ r = .ok (value a) ⟨b, out a rs⟩) ∨
      ∃ err left, x = .error err ∧ r = .error err ⟨b, left⟩ := by
  cases h with
  | ok a rs => exact .inl ⟨a, rs, rfl, rfl⟩
  | error err left => exact .inr ⟨err, left, rfl, rfl⟩

lemma bind_of_ok {m : Writing α} {f : α → Writing β} {d d' : Draft} {a : α}
    (h : m d = .ok a d') : (m >>= f) d = f a d' := by
  simp only [bind, EStateM.bind, h]

lemma bind_of_error {m : Writing α} {f : α → Writing β} {d d' : Draft} {err : BuildError}
    (h : m d = .error err d') : (m >>= f) d = .error err d' := by
  simp only [bind, EStateM.bind, h]

lemma get_bind (f : Draft → Writing α) (d : Draft) : ((get : Writing Draft) >>= f) d = f d d :=
  rfl

lemma Agrees.bind {value : α → β} {out : α → List Record → List Record} {value' : γ → δ}
    {out' : γ → List Record → List Record} {x : Except BuildError (α × List Record)}
    {m : Writing β} {d : Draft} {f : α × List Record → Except BuildError (γ × List Record)}
    {g : β → Writing δ} (h : Agrees b value out x (m d))
    (hfg : ∀ a rs, Agrees b value' out' (f (a, rs)) (g (value a) ⟨b, out a rs⟩)) :
    Agrees b value' out' (x >>= f) ((m >>= g) d) := by
  rcases h.eq_ok_or_error with ⟨a, rs, rfl, hm⟩ | ⟨err, left, rfl, hm⟩
  · rw [bind_of_ok hm]
    exact hfg a rs
  · rw [bind_of_error hm]
    exact .error err left

/-- An answer of flattening can be put otherwise when that is what was written. -/
lemma Agrees.map {value : α → β} {out : α → List Record → List Record} {value' : γ → β}
    {out' : γ → List Record → List Record} {x : Except BuildError (α × List Record)}
    {r : EStateM.Result BuildError Draft β} {f : α × List Record → γ × List Record}
    (h : Agrees b value out x r) (hvalue : ∀ a rs, value' (f (a, rs)).1 = value a)
    (hout : ∀ a rs, out' (f (a, rs)).1 (f (a, rs)).2 = out a rs) :
    Agrees b value' out' (x >>= fun p => pure (f p)) r := by
  cases h with
  | ok a rs =>
    rw [← hvalue, ← hout]
    exact .ok _ _
  | error err left => exact .error err left

lemma agrees_pure (a : α) (out : List Record) :
    Agrees b id (fun _ rs => out ++ rs) (pure (a, [])) ((pure a : Writing α) ⟨b, out⟩) := by
  have h : Agrees b id (fun _ rs => out ++ rs) (.ok (a, [])) (.ok a ⟨b, out ++ []⟩) := .ok a []
  rw [List.append_nil] at h
  exact h

lemma openRecord_eq (name : String) (out : List Record) :
    openRecord name ⟨b, out⟩ =
      if name ∈ b.taken ++ names out then .error (.duplicateRecord name) ⟨b, out⟩
      else .ok out.length ⟨b, out ++ [⟨name, []⟩]⟩ := by
  have htaken : (b.taken.contains name || out.any (·.name = name)) = true ↔
      name ∈ b.taken ++ names out := by
    simp [names]
  rw [openRecord, get_bind]
  by_cases h : name ∈ b.taken ++ names out
  · rw [if_pos (htaken.mpr h), if_pos h]
    rfl
  · rw [if_neg (mt htaken.mp h), if_neg h]
    rfl

lemma pushField_eq (before after : List Record) (record : String) (done : List Record.Field)
    (f : Record.Field) :
    pushField before.length f ⟨b, before ++ ⟨record, done⟩ :: after⟩ =
      match Record.addField record done f with
      | .error err => .error err ⟨b, before ++ ⟨record, done⟩ :: after⟩
      | .ok fs => .ok () ⟨b, before ++ ⟨record, fs⟩ :: after⟩ := by
  have hat : (before ++ (⟨record, done⟩ : Record) :: after)[before.length]? =
      some ⟨record, done⟩ := by simp
  have hset : (before ++ (⟨record, done⟩ : Record) :: after).set before.length
      ⟨record, done ++ [f]⟩ = before ++ ⟨record, done ++ [f]⟩ :: after := by simp
  have hheld : ((⟨record, done⟩ : Record).field? f.name).isSome =
      done.any (·.name = f.name) := by
    rw [Record.field?, Bool.eq_iff_iff, List.find?_isSome, List.any_eq_true]
  rw [pushField, get_bind]
  simp only [hat, hheld, Record.addField]
  by_cases h : done.any (·.name = f.name) = true
  · rw [if_pos h, if_pos h]
    rfl
  · rw [if_neg h, if_neg h]
    exact congrArg (fun rs => EStateM.Result.ok () (⟨b, rs⟩ : Draft)) hset

/-- Opening a record agrees with reserving its name, and so does what follows on either side. -/
lemma agrees_openRecord {value : γ → δ} {out' : γ → List Record → List Record}
    {x : Except BuildError (γ × List Record)} {g : Nat → Writing δ} (name : String)
    (out : List Record)
    (h : Agrees b value out' x (g out.length ⟨b, out ++ [⟨name, []⟩]⟩)) :
    Agrees b value out' (Record.reserveName (b.taken ++ names out) name >>= fun _ => x)
      ((openRecord name >>= g) ⟨b, out⟩) := by
  have hopen := openRecord_eq (b := b) name out
  by_cases hn : name ∈ b.taken ++ names out
  · rw [if_pos hn] at hopen
    rw [bind_of_error hopen, Record.reserveName, if_pos (List.contains_iff_mem.mpr hn)]
    exact .error _ _
  · rw [if_neg hn] at hopen
    rw [bind_of_ok hopen, Record.reserveName, if_neg (mt List.contains_iff_mem.mp hn)]
    exact h

/-- Writing a type at the end of a path agrees with flattening it. -/
def TypeAgrees (b : RecordBuilder) (path : List String) (t : Constraint) : Prop :=
  ∀ out, Agrees b id (fun _ rs => out ++ rs)
    (flattenType b.options.nestedFormats (b.taken ++ names out) (nameAt path) t)
    (writeType (nameAt path) t ⟨b, out⟩)

/-- A loop that writes the fields of `record`, which was opened behind the records `before`, agrees
with one that flattens them, whatever was written already. -/
def LoopAgrees (b : RecordBuilder) (record : String) (before : List Record)
    (loop : List String → List Record.Field →
      Except BuildError (List Record.Field × List Record))
    (write : Writing Unit) : Prop :=
  ∀ after done, Agrees b (fun _ => ()) (fun fs rs => before ++ ⟨record, fs⟩ :: (after ++ rs))
    (loop (b.taken ++ names (before ++ ⟨record, done⟩ :: after)) done)
    (write ⟨b, before ++ ⟨record, done⟩ :: after⟩)

lemma LoopAgrees.nil (record : String) (before : List Record) :
    LoopAgrees b record before (fun _ done => pure (done, [])) (pure ()) := by
  intro after done
  have h : Agrees b (fun _ => ()) (fun fs rs => before ++ ⟨record, fs⟩ :: (after ++ rs))
      (.ok (done, [])) (.ok () ⟨b, before ++ ⟨record, done⟩ :: (after ++ [])⟩) := .ok done []
  rw [List.append_nil] at h
  exact h

/-- At first the record has no fields and is the last one. -/
lemma LoopAgrees.opened {record : String} {out : List Record}
    {loop : List String → List Record.Field → Except BuildError (List Record.Field × List Record)}
    {write : Writing Unit} (h : LoopAgrees b record out loop write) :
    Agrees b (fun _ => ()) (fun fs rs => out ++ ⟨record, fs⟩ :: rs)
      (loop (b.taken ++ names out ++ [record]) []) (write ⟨b, out ++ [⟨record, []⟩]⟩) := by
  have htaken : b.taken ++ names out ++ [record] = b.taken ++ names (out ++ [⟨record, []⟩]) := by
    simp [names]
  rw [htaken]
  exact h [] []

/-- One round of such a loop. -/
def writeRound (place : Nat) (path : List String) (t : Constraint) (f : TypeExpr → Record.Field)
    (write : Writing Unit) : Writing Unit := do
  let te ← writeType (nameAt path) t
  pushField place (f te)
  write

lemma LoopAgrees.cons {path : List String} {before : List Record}
    {loop : List String → List Record.Field → Except BuildError (List Record.Field × List Record)}
    {write : Writing Unit} (record : String) (t : Constraint) (f : TypeExpr → Record.Field)
    (ht : TypeAgrees b path t) (hloop : LoopAgrees b record before loop write) :
    LoopAgrees b record before (memberRound b.options.nestedFormats path record t f loop)
      (writeRound before.length path t f write) := by
  intro after done
  refine (ht _).bind fun te first => ?_
  -- What the type has written stands behind everything else, so the record is still in its place.
  have hout : before ++ (⟨record, done⟩ : Record) :: after ++ first =
      before ++ ⟨record, done⟩ :: (after ++ first) := by simp
  have hpush := pushField_eq (b := b) before (after ++ first) record done (f te)
  rw [id, hout]
  dsimp only
  cases hadd : Record.addField record done (f te) with
  | error err =>
    rw [hadd] at hpush
    rw [bind_of_error hpush]
    exact .error err _
  | ok fs =>
    rw [hadd] at hpush
    rw [bind_of_ok hpush]
    -- One field more in the record changes no name, so both loops go on with the same ones taken.
    have hnames : b.taken ++ names (before ++ (⟨record, done⟩ : Record) :: after) ++ names first =
        b.taken ++ names (before ++ ⟨record, fs⟩ :: (after ++ first)) := by simp [names]
    have hrest := hloop (after ++ first) fs
    rw [← hnames] at hrest
    refine hrest.map (fun _ _ => rfl) fun fs more => ?_
    rw [List.append_assoc]

lemma writeFields_cons (place : Nat) (path : List String) (out : List Record) (name : String)
    (location : Option Location) (t : Constraint) (rest : List (Constraint.Field Constraint)) :
    writeFields place (nameAt path) (⟨name, location, t⟩ :: rest) ⟨b, out⟩ =
      writeRound place (path ++ [name]) t (Record.objectFieldOf b.options.nestedFormats name t)
        (writeFields place (nameAt path) rest) ⟨b, out⟩ := by
  rw [writeFields, get_bind, writeRound, Record.nameAt_append]
  rfl

mutual

theorem writeType_agrees : ∀ (t : Constraint) (path : List String), TypeAgrees b path t
  | .node name kind elem optional fields location, path => by
    intro out
    by_cases hs : (Constraint.node name kind elem optional fields location).isShapelyNode = true
    · rw [flattenType, writeType, if_pos hs, if_pos hs]
      cases kind
      all_goals dsimp only
      case string | boolean | number | null | any => exact agrees_pure _ out
      case list | map =>
        refine (writeElem_agrees elem path name location out).bind fun te rs => ?_
        exact .ok _ rs
      case object =>
        refine agrees_openRecord (nameAt path) out ?_
        refine (writeFields_agrees fields path out).opened.bind fun fs rs => ?_
        exact .ok _ (⟨nameAt path, fs⟩ :: rs)
    · rw [flattenType, writeType, if_neg hs, if_neg hs]
      exact .error _ _

theorem writeElem_agrees : ∀ (elem : Option Constraint) (path : List String) (name : String)
    (location : Option Location) (out : List Record),
    Agrees b id (fun _ rs => out ++ rs)
      (Record.flattenElem b.options.nestedFormats (b.taken ++ names out) (nameAt path) name location
        elem)
      (writeElem (nameAt path) name location elem ⟨b, out⟩)
  | none, path, name, location, out => by
    rw [Record.flattenElem, writeElem]
    exact .error _ _
  | some t, path, name, location, out => by
    rw [Record.flattenElem, writeElem]
    exact writeType_agrees t path out

theorem writeFields_agrees : ∀ (fields : List (Constraint.Field Constraint))
    (path : List String) (before : List Record),
    LoopAgrees b (nameAt path) before
      (fun taken done => flattenFields b.options.nestedFormats taken (nameAt path) done fields)
      (writeFields before.length (nameAt path) fields)
  | [], path, before => LoopAgrees.nil _ _
  | ⟨name, location, t⟩ :: rest, path, before => by
    intro after done
    rw [Record.flattenFields_cons, writeFields_cons]
    exact (writeFields_agrees rest path before).cons _ t _ (writeType_agrees t (path ++ [name]))
      after done

end

variable {v : Variable}

lemma writeVariables_cons_ignored (place : Nat) (path : String) (rest : List Variable)
    (out : List Record) (hv : b.options.ignores v.name = true) :
    writeVariables place path (v :: rest) ⟨b, out⟩ = writeVariables place path rest ⟨b, out⟩ := by
  rw [writeVariables, get_bind, if_pos hv]

lemma writeVariables_cons_kept (place : Nat) (entity : String) (rest : List Variable)
    (out : List Record) (hv : ¬b.options.ignores v.name = true) :
    writeVariables place (nameAt [entity]) (v :: rest) ⟨b, out⟩ =
      writeRound place [entity, v.name] v.type
        (Record.variableFieldOf b.options.topLevelFormats v)
        (writeVariables place (nameAt [entity]) rest) ⟨b, out⟩ := by
  rw [writeVariables, get_bind, if_neg hv, writeRound, ← Record.nameAt_append]
  rfl

theorem writeVariables_agrees (entity : String) (vars : List Variable) (before : List Record) :
    LoopAgrees b (nameAt [entity]) before
      (fun taken done => flattenVariables b.options taken (nameAt [entity]) done vars)
      (writeVariables before.length (nameAt [entity]) vars) := by
  induction vars with
  | nil => exact LoopAgrees.nil _ _
  | cons v rest ih =>
    intro after done
    by_cases hv : b.options.ignores v.name = true
    · rw [Record.flattenVariables_cons_ignored rest hv, writeVariables_cons_ignored _ _ rest _ hv]
      exact ih after done
    · rw [Record.flattenVariables_cons_kept rest hv, writeVariables_cons_kept _ _ rest _ hv]
      exact ih.cons _ v.type _ (writeType_agrees v.type [entity, v.name]) after done

/-- Either the records of the flattening were written, or writing failed as flattening fails. -/
theorem writeRecords_agrees (b : RecordBuilder) (e : Entity) :
    (∃ rs, Record.flattenEntity b.options b.taken e = .ok rs ∧
      writeRecords e { builder := b } = .ok () ⟨b, rs⟩) ∨
    ∃ err left, Record.flattenEntity b.options b.taken e = .error err ∧
      writeRecords e { builder := b } = .error err ⟨b, left⟩ := by
  let path := Text.pascal e.name
  have hflatten : Record.flattenEntity b.options b.taken e =
      (Record.reserveName b.taken path >>= fun _ =>
        flattenVariables b.options (b.taken ++ [path]) path [] e.vars) >>= fun p =>
      pure (⟨path, p.1⟩ :: p.2) := by
    rw [Record.flattenEntity, bind_assoc]
  have hvars := (writeVariables_agrees (b := b) e.name e.vars []).opened
  rw [Record.nameAt_singleton] at hvars
  have hagrees := agrees_openRecord (g := fun place => writeVariables place path e.vars) path []
    hvars
  rw [Record.names_nil, List.append_nil] at hagrees
  rw [hflatten]
  rcases hagrees.eq_ok_or_error with ⟨fs, rs, hx, hr⟩ | ⟨err, left, hx, hr⟩
  · rw [hx]
    exact .inl ⟨⟨path, fs⟩ :: rs, rfl, hr⟩
  · rw [hx]
    exact .inr ⟨err, left, rfl, hr⟩

end Draft

namespace RecordBuilder

open Draft

/-- A call is answered as flattening the entity is, and leaves the builder that takes the entity
or, when it fails, the builder that it was given to. -/
theorem call_eq (b : RecordBuilder) (e : Entity) :
    b.call e = ((b.addEntity e).map fun _ => (), b.offer e) := by
  rcases writeRecords_agrees b e with ⟨rs, hrs, hwrite⟩ | ⟨err, left, herr, hwrite⟩
  · rw [call, writeEntity, bind_of_ok hwrite, offer, addEntity, hrs]
    rfl
  · rw [call, writeEntity, bind_of_error hwrite, offer, addEntity, herr]
    rfl

variable {b b' : RecordBuilder} {e : Entity}

lemma call_of_ok (h : b.addEntity e = .ok b') : b.call e = (.ok (), b') := by
  rw [call_eq, offer_of_ok h, h]
  rfl

lemma call_of_error {err : BuildError} (h : b.addEntity e = .error err) :
    b.call e = (.error err, b) := by
  rw [call_eq, offer_of_error h, h]
  rfl

lemma call_fst_eq_error_iff {err : BuildError} :
    (b.call e).1 = .error err ↔ b.addEntity e = .error err := by
  cases h : b.addEntity e with
  | error err' => simp [call_of_error h]
  | ok b' => simp [call_of_ok h]

end RecordBuilder

end ModuleBindings
