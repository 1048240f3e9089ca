import ModuleBindings.Proofs.Drafting

/-!
# Runs in which entities fail

A run goes on after a call that failed. It ends where the run of the entities that were taken ends,
and each call in it is answered as in that run.
-/

namespace ModuleBindings

open Proofs

namespace RecordBuilder

variable {b b' : RecordBuilder} {e : Entity} {es : List Entity} {err : BuildError}

/-- The builder after some calls, whatever they were answered. -/
def afterCalls (b : RecordBuilder) (es : List Entity) : RecordBuilder :=
  es.foldl (fun b e => (b.call e).2) b

/-- What each of some calls is answered. -/
def outcomes (b : RecordBuilder) : List Entity → List (Except BuildError Unit)
  | [] => []
  | e :: es => (b.call e).1 :: (b.call e).2.outcomes es

/-- The entities whose call succeeds. -/
def accepted (b : RecordBuilder) (es : List Entity) : List Entity :=
  ((es.zip (b.outcomes es)).filter (·.2.isOk)).map Prod.fst

lemma afterCalls_cons (b : RecordBuilder) (e : Entity) (es : List Entity) :
    b.afterCalls (e :: es) = (b.call e).2.afterCalls es := rfl

lemma accepted_cons_of_error (h : b.addEntity e = .error err) :
    b.accepted (e :: es) = b.accepted es := by
  unfold accepted
  rw [outcomes, call_of_error h, List.zip_cons_cons, List.filter_cons_of_neg (by simp)]

lemma accepted_cons_of_ok (h : b.addEntity e = .ok b') :
    b.accepted (e :: es) = e :: b'.accepted es := by
  unfold accepted
  rw [outcomes, call_of_ok h, List.zip_cons_cons, List.filter_cons_of_pos rfl, List.map_cons]

/-- The entities that were taken can be given alone: none of them fails then, and the builder is
the same in the end. -/
theorem foldlM_accepted (b : RecordBuilder) (es : List Entity) :
    (b.accepted es).foldlM addEntity b = .ok (b.afterCalls es) := by
  induction es generalizing b with
  | nil => rfl
  | cons e es ih =>
    rw [afterCalls_cons]
    cases h : b.addEntity e with
    | error err =>
      rw [accepted_cons_of_error h, call_of_error h]
      exact ih b
    | ok b' =>
      rw [accepted_cons_of_ok h, call_of_ok h, List.foldlM_cons, bind_eq_ok]
      exact ⟨b', h, ih b'⟩

/-- A run that stops at the first failure goes through just when there is none. -/
theorem foldlM_addEntity_eq_ok_iff :
    es.foldlM addEntity b = .ok b' ↔
      (∀ r ∈ b.outcomes es, r = .ok ()) ∧ b' = b.afterCalls es := by
  induction es generalizing b with
  | nil =>
    rw [List.foldlM_nil, pure_eq_ok, eq_comm]
    simp [outcomes, afterCalls]
  | cons e es ih =>
    rw [List.foldlM_cons, bind_eq_ok, outcomes, List.forall_mem_cons, afterCalls_cons]
    cases h : b.addEntity e with
    | error err => simp [call_of_error h]
    | ok b₁ => simp [call_of_ok h, ih]

/-- Otherwise it ends with the first failure. -/
theorem foldlM_addEntity_eq_error_iff :
    es.foldlM addEntity b = .error err ↔
      (b.outcomes es).find? (fun r => !r.isOk) = some (.error err) := by
  induction es generalizing b with
  | nil => simp [outcomes, pure_ne_error]
  | cons e es ih =>
    rw [List.foldlM_cons, bind_eq_error, outcomes, List.find?_cons]
    cases h : b.addEntity e with
    | error err' => simp [call_of_error h]
    | ok b₁ => simp [call_of_ok h, ih]

lemma afterCalls_accepted (b : RecordBuilder) (es : List Entity) :
    b.afterCalls (b.accepted es) = b.afterCalls es :=
  (foldlM_addEntity_eq_ok_iff.mp (b.foldlM_accepted es)).2.symm

end RecordBuilder

open RecordBuilder

lemma buildRecords_eq_ok {es : List Entity} {ignore : List String} {rs : List Record} :
    buildRecords es ignore = .ok rs ↔
      ∃ b, es.foldlM addEntity { options := { ignore } } = .ok b ∧ b.records = rs := by
  simp only [buildRecords, bind_eq_ok, pure_eq_ok]

lemma buildRecords_eq_error {es : List Entity} {ignore : List String} {err : BuildError} :
    buildRecords es ignore = .error err ↔
      es.foldlM addEntity { options := { ignore } } = .error err := by
  simp only [buildRecords, bind_eq_error, pure_ne_error, and_false, exists_false, or_false]

/-- A failed call changes nothing, and nothing that is answered later would be answered otherwise
without it: a run ends with the records of the entities that were taken, which all succeed when
they are given alone. A run that may not fail answers the records in the end or the first
failure. -/
theorem calls_erase_failures (o : BuilderOptions) (es : List Entity) (ignore : List String) :
    let fresh : RecordBuilder := { options := o }
    let plain : RecordBuilder := { options := { ignore } }
    (∀ pre e err, let b := fresh.afterCalls pre
      (b.call e).1 = .error err →
        (b.call e).2.records = b.records ∧ (b.call e).2.taken = b.taken) ∧
    (∀ pre post, (fresh.afterCalls pre).outcomes post =
      (fresh.afterCalls (fresh.accepted pre)).outcomes post) ∧
    (∀ r ∈ fresh.outcomes (fresh.accepted es), r = .ok ()) ∧
    (fresh.afterCalls es).records = (fresh.afterCalls (fresh.accepted es)).records ∧
    (∀ rs, buildRecords es ignore = .ok rs ↔
      (∀ r ∈ plain.outcomes es, r = .ok ()) ∧ rs = (plain.afterCalls es).records) ∧
    ∀ err, buildRecords es ignore = .error err ↔
      (plain.outcomes es).find? (fun r => !r.isOk) = some (.error err) := by
  intro fresh plain
  refine ⟨?_, ?_, ?_, ?_, ?_, ?_⟩
  · intro pre e err b hfails
    rw [call_of_error (call_fst_eq_error_iff.mp hfails)]
    exact ⟨rfl, rfl⟩
  · intro pre post
    rw [afterCalls_accepted]
  · exact (foldlM_addEntity_eq_ok_iff.mp (fresh.foldlM_accepted es)).1
  · rw [afterCalls_accepted]
  · intro rs
    simp only [buildRecords_eq_ok, foldlM_addEntity_eq_ok_iff]
    constructor
    · rintro ⟨b, ⟨hok, rfl⟩, rfl⟩
      exact ⟨hok, rfl⟩
    · rintro ⟨hok, rfl⟩
      exact ⟨_, ⟨hok, rfl⟩, rfl⟩
  · intro err
    rw [buildRecords_eq_error, foldlM_addEntity_eq_error_iff]

/-- The record of an object is written before its entity fails, and its name is free afterwards. -/
example : outcomes { options := { } }
    [⟨"queue", [⟨"config", "", true, .object []⟩, ⟨"Config", "", true, .scalar "any" .any⟩]⟩,
      ⟨"queue_config", []⟩] =
    [.error (.duplicateField "Queue" "Config"), .ok ()] := by
  rfl

end ModuleBindings
