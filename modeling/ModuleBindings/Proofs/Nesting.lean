import ModuleBindings.Constraint.Descent
import ModuleBindings.Proofs.Parsing

/-!
# The limit of nesting

A descent answers as the parser does and leaves its counter as it was, and what it notes when there
is no limit tells what a limit does: nothing, unless a type begins one level too deep. Then the
first token at which one does is refused.
-/

namespace ModuleBindings.Constraint

/-- The first token at which a type begins at that level. -/
def firstAt? (level : Nat) (begun : List Beginning) : Option Token :=
  begun.findSome? fun s => if s.level = level then s.item.toOption else none

namespace Descent

open Constraint.Parser

variable {α β : Type} {limit depth : Nat}

/-- An answer as the result of a descent. -/
def answered (x : Except SyntaxError α) (d : Descent) : EStateM.Result SyntaxError Descent α :=
  match x with
  | .ok a => .ok a d
  | .error e => .error e d

/-- A step with that many types open is answered so, notes `begun`, and leaves the counter as it
was. -/
def Runs (depth : Nat) (m : Descending α) (x : Except SyntaxError α) (begun : List Beginning) :
    Prop :=
  ∀ before, m ⟨depth, before⟩ = answered x ⟨depth, before ++ begun⟩

/-- What becomes of an answer under a limit when types begin so. -/
def refuse (limit : Nat) (begun : List Beginning) (x : Except SyntaxError α) :
    Except SyntaxError α :=
  match firstAt? (limit + 1) begun with
  | none => x
  | some t => .error (.unexpected t .shallowerNesting)

/-- The step `free` is answered `x`, and with the limit, as `kept`, it is answered `y`: the same
unless it goes too deep. -/
def Guards (limit depth : Nat) (free kept : Descending α) (x y : Except SyntaxError α) : Prop :=
  ∃ begun seen, Runs depth free x begun ∧ Runs depth kept y seen ∧
    (depth ≤ limit → y = refuse limit begun x)

lemma Runs.bind_ok {m : Descending α} {a : α} {g : α → Descending β} {y : Except SyntaxError β}
    {begun more : List Beginning} (hm : Runs depth m (.ok a) begun) (hg : Runs depth (g a) y more) :
    Runs depth (m >>= g) y (begun ++ more) := by
  intro before
  have hstep : (m >>= g) ⟨depth, before⟩ = g a ⟨depth, before ++ begun⟩ := by
    simp only [bind, EStateM.bind, hm before, answered]
  rw [hstep, hg, List.append_assoc]

lemma Runs.bind_error {m : Descending α} {e : SyntaxError} {g : α → Descending β}
    {begun : List Beginning} (hm : Runs depth m (.error e) begun) :
    Runs depth (m >>= g) (.error e) begun := by
  intro before
  simp only [bind, EStateM.bind, hm before, answered]

lemma Runs.exists_bind {m : Descending α} {x : Except SyntaxError α} {g : α → Descending β}
    {f : α → Except SyntaxError β} {begun : List Beginning} (hm : Runs depth m x begun)
    (hg : ∀ a, ∃ more, Runs depth (g a) (f a) more) :
    ∃ begun', Runs depth (m >>= g) (x >>= f) begun' := by
  cases x with
  | error e => exact ⟨begun, hm.bind_error⟩
  | ok a =>
    obtain ⟨more, hmore⟩ := hg a
    exact ⟨begun ++ more, hm.bind_ok hmore⟩

lemma refuse_error_bind {begun : List Beginning} {e : SyntaxError}
    {f : α → Except SyntaxError β} :
    refuse limit begun (.error e) >>= f = refuse limit begun (.error e) := by
  unfold refuse
  split <;> rfl

lemma refuse_ok_bind {begun more : List Beginning} {a : α} {f : α → Except SyntaxError β}
    {y : Except SyntaxError β} (h : f a = refuse limit more y) :
    refuse limit begun (.ok a) >>= f = refuse limit (begun ++ more) y := by
  have happend : firstAt? (limit + 1) (begun ++ more) =
      (firstAt? (limit + 1) begun).or (firstAt? (limit + 1) more) := List.findSome?_append
  unfold refuse at h ⊢
  rw [happend]
  cases firstAt? (limit + 1) begun with
  | none => exact h
  | some t => rfl

theorem Guards.bind {free kept : Descending α} {x y : Except SyntaxError α}
    {g g' : α → Descending β} {f f' : α → Except SyntaxError β}
    (h : Guards limit depth free kept x y)
    (hfg : ∀ a, Guards limit depth (g a) (g' a) (f a) (f' a)) :
    Guards limit depth (free >>= g) (kept >>= g') (x >>= f) (y >>= f') := by
  obtain ⟨begun, seen, hfree, hkept, hy⟩ := h
  have hstep : ∀ a, ∃ more, Runs depth (g' a) (f' a) more := by
    intro a
    obtain ⟨-, more, -, hmore, -⟩ := hfg a
    exact ⟨more, hmore⟩
  obtain ⟨seen', hkept'⟩ := hkept.exists_bind hstep
  cases x with
  | error e =>
    refine ⟨begun, seen', hfree.bind_error, hkept', fun hd => ?_⟩
    rw [hy hd]
    exact refuse_error_bind
  | ok a =>
    obtain ⟨more, -, hfree', -, hy'⟩ := hfg a
    refine ⟨begun ++ more, seen', hfree.bind_ok hfree', hkept', fun hd => ?_⟩
    rw [hy hd]
    exact refuse_ok_bind (hy' hd)

lemma runs_ofExcept (x : Except SyntaxError α) : Runs depth (ofExcept x) x [] := by
  intro before
  rw [List.append_nil]
  cases x <;> rfl

/-- A step that opens no type does the same with and without the limit. -/
lemma guards_of_runs {m : Descending α} {x : Except SyntaxError α} (h : Runs depth m x []) :
    Guards limit depth m m x x :=
  ⟨[], [], h, h, fun _ => rfl⟩

lemma guards_ofExcept (x : Except SyntaxError α) :
    Guards limit depth (ofExcept x) (ofExcept x) x x :=
  guards_of_runs (runs_ofExcept x)

lemma guards_pure (a : α) : Guards limit depth (pure a) (pure a) (.ok a) (.ok a) :=
  guards_ofExcept (.ok a)

lemma guards_throw (e : SyntaxError) :
    Guards limit depth (throw e) (throw e) (.error e : Except SyntaxError α) (.error e) :=
  guards_ofExcept (.error e)

lemma Runs.within {m : Descending α} {x : Except SyntaxError α} {begun : List Beginning}
    (h : Runs (depth + 1) m x begun) : Runs depth (within m) x begun := by
  intro before
  rw [Descent.within, h before]
  cases x <;> rfl

/-- What is read where a type begins is refused if the type is too deep. -/
lemma runs_enter (depth : Nat) (b : Bounds) (ts : List Token) :
    Runs depth (enter b ts)
      (b.next ts >>= fun first =>
        if b.tooDeep depth then .error (.unexpected first .shallowerNesting) else .ok first)
      [⟨depth, b.next ts⟩] := by
  intro before
  cases hnext : b.next ts with
  | error e =>
    rw [enter, hnext]
    rfl
  | ok first =>
    have hlook : enter b ts ⟨depth, before⟩ =
        (if b.tooDeep depth then throw (.unexpected first .shallowerNesting)
          else pure first : Descending Token) ⟨depth, before ++ [⟨depth, .ok first⟩]⟩ := by
      rw [enter, hnext]
      rfl
    rw [hlook]
    by_cases hd : b.tooDeep depth = true
    · simp only [if_pos hd]
      rfl
    · simp only [if_neg hd]
      rfl

section Entering

variable {b : Bounds} {ts : List Token} {first : Token} {e : SyntaxError}

lemma runs_enter_of_error (depth : Nat) (h : b.next ts = .error e) :
    Runs depth (enter b ts) (.error e) [⟨depth, .error e⟩] := by
  have hrun := runs_enter depth b ts
  rwa [h] at hrun

lemma runs_enter_of_ok (h : b.next ts = .ok first) (hd : b.tooDeep depth = false) :
    Runs depth (enter b ts) (.ok first) [⟨depth, .ok first⟩] := by
  have hrun := runs_enter depth b ts
  rwa [h, hd] at hrun

lemma runs_enter_of_tooDeep (h : b.next ts = .ok first) (hd : b.tooDeep depth = true) :
    Runs depth (enter b ts) (.error (.unexpected first .shallowerNesting))
      [⟨depth, .ok first⟩] := by
  have hrun := runs_enter depth b ts
  rwa [h, hd] at hrun

end Entering

lemma refuse_cons {level : Nat} {item : Except SyntaxError Token} {begun : List Beginning}
    {x : Except SyntaxError α} (hlevel : level ≠ limit + 1) :
    refuse limit (⟨level, item⟩ :: begun) x = refuse limit begun x := by
  simp [refuse, firstAt?, hlevel]

/-- A type that begins too deep is refused, and else goes on as what follows its beginning. -/
theorem Guards.type {ending : Except SyntaxError Token} {ts : List Token}
    {body body' : Token → Descending α} {x y : Token → Except SyntaxError α}
    (h : ∀ first, Guards limit (depth + 1) (body first) (body' first) (x first) (y first)) :
    Guards limit depth (within (enter ⟨none, ending⟩ ts >>= body))
      (within (enter ⟨some limit, ending⟩ ts >>= body'))
      (Bounds.next ⟨none, ending⟩ ts >>= x)
      (Bounds.next ⟨none, ending⟩ ts >>= fun first =>
        if limit < depth + 1 then .error (.unexpected first .shallowerNesting) else y first) := by
  have hnext : Bounds.next ⟨some limit, ending⟩ ts = Bounds.next ⟨none, ending⟩ ts := by
    cases ts <;> rfl
  cases hitem : Bounds.next ⟨none, ending⟩ ts with
  | error e =>
    have hfree := runs_enter_of_error (depth + 1) hitem
    have hkept := runs_enter_of_error (depth + 1) (hnext.trans hitem)
    refine ⟨_, _, hfree.bind_error.within, hkept.bind_error.within, fun _ => ?_⟩
    simp [refuse, firstAt?, Except.toOption, Bind.bind, Except.bind]
  | ok first =>
    obtain ⟨begun, seen, hbody, hbody', hy⟩ := h first
    have hfree : Runs (depth + 1) (enter ⟨none, ending⟩ ts) (.ok first)
        [⟨depth + 1, .ok first⟩] := runs_enter_of_ok hitem rfl
    have hfree' := (hfree.bind_ok hbody).within
    have hok : ∀ f : Token → Except SyntaxError α, Except.ok first >>= f = f first :=
      fun _ => rfl
    rw [hok, hok]
    by_cases hd : limit < depth + 1
    · have hkept := runs_enter_of_tooDeep (hnext.trans hitem) (decide_eq_true hd)
      rw [if_pos hd]
      refine ⟨_, _, hfree', hkept.bind_error.within, fun hle => ?_⟩
      have hlevel : depth = limit := by omega
      simp [refuse, firstAt?, hlevel, Except.toOption]
    · have hkept := runs_enter_of_ok (hnext.trans hitem) (decide_eq_false hd)
      rw [if_neg hd]
      refine ⟨_, _, hfree', (hkept.bind_ok hbody').within, fun _ => ?_⟩
      have hlevel : depth + 1 ≠ limit + 1 := by omega
      rw [List.singleton_append, refuse_cons hlevel]
      exact hy (by omega)

/-- A type whose first token is there. -/
lemma Guards.type_cons {ending : Except SyntaxError Token} {t : Token} {ts : List Token}
    {body body' : Descending α} {x y : Except SyntaxError α}
    (h : Guards limit (depth + 1) body body' x y) :
    Guards limit depth (within (enter ⟨none, ending⟩ (t :: ts) >>= fun _ => body))
      (within (enter ⟨some limit, ending⟩ (t :: ts) >>= fun _ => body')) x
      (if limit < depth + 1 then .error (.unexpected t .shallowerNesting) else y) :=
  Guards.type fun _ => h

section Parsing

variable {ending : Except SyntaxError Token}

lemma expect_congr (kind : TokenKind) (ts : List Token) :
    expect ⟨some limit, ending⟩ kind ts = expect ⟨none, ending⟩ kind ts := by
  cases ts <;> rfl

lemma guards_expect (kind : TokenKind) (ts : List Token) :
    Guards limit depth (ofExcept (expect ⟨none, ending⟩ kind ts))
      (ofExcept (expect ⟨some limit, ending⟩ kind ts)) (expect ⟨none, ending⟩ kind ts)
      (expect ⟨some limit, ending⟩ kind ts) := by
  rw [expect_congr]
  exact guards_ofExcept _

lemma typeAt_nil {b : Bounds} {level : Nat} {flagged : Bool} :
    (typeAt b level flagged [] : Except SyntaxError (Constraint × ProperRest [])) =
      b.next [] >>= fun first =>
        if b.tooDeep level then .error (.unexpected first .shallowerNesting)
        else .error (.unexpected first .keyword) := by
  rw [typeAt, error_unexpected]
  cases b.tooDeep level <;> rfl

lemma fields_other {b : Bounds} {t : Token} {ts : List Token}
    (hclose : t.kind ≠ .braceR) (hname : t.kind ≠ .name) :
    fields b (t :: ts) = throw (.unexpected t .fieldOrClose) := by
  rw [fields]
  split <;> simp_all

/-- With `depth` types open, a type is parsed as at the next level, and fields as those of an object
at that level. What a limit does is told by what is noted without one. -/
theorem type_guards :
    (∀ flagged ts, ∀ depth, Guards limit depth (type ⟨none, ending⟩ flagged ts)
      (type ⟨some limit, ending⟩ flagged ts) (typeAt ⟨none, ending⟩ (depth + 1) flagged ts)
      (typeAt ⟨some limit, ending⟩ (depth + 1) flagged ts)) ∧
    (∀ ts, ∀ depth, Guards limit depth (fields ⟨none, ending⟩ ts)
      (fields ⟨some limit, ending⟩ ts) (fieldsAt ⟨none, ending⟩ depth ts)
      (fieldsAt ⟨some limit, ending⟩ depth ts)) := by
  have hfree : ∀ level, Bounds.tooDeep ⟨none, ending⟩ level = false := fun _ => rfl
  have hkept : ∀ level, Bounds.tooDeep ⟨some limit, ending⟩ level = decide (limit < level) :=
    fun _ => rfl
  apply type.mutual_induct
  case case1 =>
    intro flagged depth
    rw [type, type, typeAt_nil, typeAt_nil]
    simp only [hfree, hkept, Bool.false_eq_true, if_false, decide_eq_true_eq]
    exact Guards.type fun first => guards_throw (.unexpected first .keyword)
  case case2 =>
    intro flagged t ts ihOptional ihWrapper ihObject depth
    rw [type, type, typeAt, typeAt]
    simp only [hfree, hkept, Bool.false_eq_true, if_false, decide_eq_true_eq]
    apply Guards.type_cons
    cases hk : Keyword.ofToken? t with
    | none => exact guards_throw _
    | some k =>
      cases k with
      | scalar kind => exact guards_pure _
      | optional =>
        apply (guards_expect .parenL ts).bind
        rintro ⟨r₁, h₁⟩
        apply (ihOptional r₁ h₁ (depth + 1)).bind
        rintro ⟨u, r₂, h₂⟩
        exact (guards_expect .parenR r₂).bind fun _ => guards_pure _
      | wrapper kind =>
        apply (guards_expect .parenL ts).bind
        rintro ⟨r₁, h₁⟩
        apply (ihWrapper r₁ h₁ (depth + 1)).bind
        rintro ⟨u, r₂, h₂⟩
        exact (guards_expect .parenR r₂).bind fun _ => guards_pure _
      | object =>
        apply (guards_expect .parenL ts).bind
        rintro ⟨r₁, h₁⟩
        apply (guards_expect .braceL r₁).bind
        rintro ⟨r₂, h₂⟩
        apply (ihObject r₁ h₁ r₂ h₂ (depth + 1)).bind
        rintro ⟨fs, r₃, h₃⟩
        exact (guards_expect .parenR r₃).bind fun _ => guards_pure _
  case case3 =>
    intro depth
    rw [fields, fields, fieldsAt, fieldsAt]
    exact guards_throw _
  case case4 =>
    intro t ts ht depth
    simp only [fields, fieldsAt, ht]
    exact guards_pure _
  case case5 =>
    intro t ts ht ihType ihFields depth
    simp only [fields, fieldsAt, ht]
    apply (guards_expect .equals ts).bind
    rintro ⟨r₁, h₁⟩
    apply (ihType r₁ h₁ depth).bind
    rintro ⟨u, r₂, h₂⟩
    exact (ihFields r₁ h₁ r₂ h₂ depth).bind fun _ => guards_pure _
  case case6 =>
    intro t ts hclose hname depth
    rw [fields_other hclose hname, fields_other hclose hname, fieldsAt_other hclose hname,
      fieldsAt_other hclose hname]
    exact guards_throw _

lemma wholeStream_guards (limit : Nat) (s : Lexer.Stream) :
    Guards limit 0 (wholeStream none s) (wholeStream (some limit) s) (parseStream none s)
      (parseStream (some limit) s) := by
  unfold wholeStream parseStream
  apply (type_guards.1 false s.tokens 0).bind
  rintro ⟨t, rest, _⟩
  cases rest with
  | nil =>
    cases s.ending with
    | error e => exact guards_throw e
    | ok eof => exact guards_pure t
  | cons x rest => exact guards_throw (.unexpected x (.token .eof))

lemma ofSource_of_runs {limit : Option Nat} {src : Source} {x : Except SyntaxError Constraint}
    {begun : List Beginning}
    (h : Runs 0 (wholeStream limit (Lexer.ofSource src).stream) x begun) :
    ofSource limit src = (x, ⟨0, begun⟩) := by
  have hrun : wholeStream limit (Lexer.ofSource src).stream {} = answered x ⟨0, begun⟩ := h []
  rw [ofSource, hrun]
  cases x <;> rfl

end Parsing

end Descent

/-- A descent answers as the parser and closes every type that it opens. Without a limit it tells
what the limit does: if it reads no token where a type begins at level 257, nothing, and else the
first token that it reads so is refused. -/
theorem parse_eq_unbounded_or_refused (src : Source) :
    let free := Descent.ofSource none src
    let kept := Descent.ofSource (some 256) src
    (free.1 = parseUnbounded src ∧ free.2.depth = 0) ∧
      (kept.1 = parse src ∧ kept.2.depth = 0) ∧
      parse src =
        match firstAt? 257 free.2.beginnings with
        | none => parseUnbounded src
        | some t => .error (.unexpected t .shallowerNesting) := by
  intro free kept
  obtain ⟨begun, seen, hfree, hkept, hparse⟩ :=
    Descent.wholeStream_guards 256 (Lexer.ofSource src).stream
  have hfree' : free = (parseUnbounded src, ⟨0, begun⟩) := Descent.ofSource_of_runs hfree
  have hkept' : kept = (parse src, ⟨0, seen⟩) := Descent.ofSource_of_runs hkept
  rw [hfree', hkept']
  exact ⟨⟨rfl, rfl⟩, ⟨rfl, rfl⟩, hparse (Nat.zero_le _)⟩

/-- The types of the fields of an object begin at one level, however deep those before them go. -/
example :
    let text := "object(\x7b b = list(any) c = optional(null) \x7d)"
    (Descent.ofSource none ⟨"a", text⟩).2.beginnings.map Beginning.level = [1, 2, 3, 2, 3] := by
  cbv

end ModuleBindings.Constraint
