import QueryText.Execute.Script
import QueryText.Proofs.Running.Exits

namespace QueryText.Execute

variable {σ α ε : Type}

/-- A call, and how it failed, if it did. -/
structure Exchange where
  call : Call
  failure : Option QueryError

def failure? : Except QueryError α → Option QueryError
  | .ok _ => none
  | .error e => some e

/-- An answer of a backend whose call is added to a log. -/
def noted (call : Call) (lift : ε → QueryError) (log : List Exchange) (x : Except ε α × σ) :
    Except ε α × σ × List Exchange :=
  (x.1, x.2, log ++ [⟨call, failure? (x.1.mapError lift)⟩])

@[simp] theorem noted_ok (call : Call) (lift : ε → QueryError) (log : List Exchange) (a : α) (s : σ) :
    noted call lift log (.ok a, s) = (.ok a, s, log ++ [⟨call, none⟩]) := rfl

@[simp] theorem noted_error (call : Call) (lift : ε → QueryError) (log : List Exchange) (e : ε) (s : σ) :
    noted (α := α) call lift log (.error e, s) = (.error e, s, log ++ [⟨call, some (lift e)⟩]) := rfl

/-- The same backend, with a log of the calls it got beside its state. -/
def Backend.logging (b : Backend σ) : Backend (σ × List Exchange) where
  prepare text s := noted (.prepare text) .executor s.2 (b.prepare text s.1)
  setRange w s := noted (.range w) .executor s.2 (b.setRange w s.1)
  bind slot path v s := noted (.bind slot path v) .coercion s.2 (b.bind slot path v s.1)
  execute s := noted .execute .executor s.2 (b.execute s.1)
  close s := noted .close .executor s.2 (b.close s.1)

/-- The values that a statement is to be bound to. Parameters have to have one, and there has to be a
path entry for each binding. -/
def valuesOf (w : WrittenStatement) (params : ParamMap) : Except QueryError (List Value) :=
  if w.bindings.length ≠ w.paths.length then
    .error (.arityMismatch w.paths.length w.bindings.length)
  else resolveAll params w.bindings

theorem bindAll_eq (b : Backend σ) (w : WrittenStatement) (params : ParamMap) (s : σ) :
    bindAll b w.bindings w.paths params s =
      match valuesOf w params with
      | .error e => (.error e, s)
      | .ok values =>
        match bindFrom b 1 (values.zip w.paths) s with
        | (.error e, s) => (.error e, s)
        | (.ok stop, s) => (.ok (stop - 1), s) := by
  unfold bindAll valuesOf
  split <;> rfl

/-- Values bound in turn from that slot on: all of them, or those up to the first that is refused. -/
inductive Binds :
    SlotCount → List (Value × Option Path) → List Exchange → Except QueryError SlotCount → Prop where
  | done (slot : SlotCount) : Binds slot [] [] (.ok slot)
  | refused (slot : SlotCount) (v : Value) (p : Option Path) (rest : List (Value × Option Path))
      (e : CoercionError) :
      Binds slot ((v, p) :: rest) [⟨.bind slot p v, some (.coercion e)⟩] (.error (.coercion e))
  | taken {slot : SlotCount} {v : Value} {p : Option Path} {rest : List (Value × Option Path)}
      {log : List Exchange} {r : Except QueryError SlotCount} (width : SlotCount)
      (h : Binds (slot + width) rest log r) :
      Binds slot ((v, p) :: rest) (⟨.bind slot p v, none⟩ :: log) r

theorem bindFrom_logging (b : Backend σ) (slot : SlotCount) (xs : List (Value × Option Path)) (s : σ)
    (log : List Exchange) :
    ∃ calls,
      bindFrom b.logging slot xs (s, log) =
        ((bindFrom b slot xs s).1, (bindFrom b slot xs s).2, log ++ calls) ∧
      Binds slot xs calls (bindFrom b slot xs s).1 := by
  -- Each value moves the slot, the state and the log, so the induction is over all of them.
  induction xs generalizing slot s log with
  | nil => exact ⟨[], by simp [bindFrom], .done slot⟩
  | cons x xs ih =>
    obtain ⟨v, p⟩ := x
    obtain ⟨r, t, hb⟩ : ∃ r t, b.bind slot p v s = (r, t) := ⟨_, _, rfl⟩
    cases r with
    | error e =>
      refine ⟨[⟨.bind slot p v, some (.coercion e)⟩], ?_, ?_⟩
      · simp [bindFrom, Backend.logging, hb]
      · simpa [bindFrom, hb] using Binds.refused slot v p xs e
    | ok width =>
      obtain ⟨calls, hcalls, hbinds⟩ := ih (slot + width) t (log ++ [⟨.bind slot p v, none⟩])
      refine ⟨⟨.bind slot p v, none⟩ :: calls, ?_, ?_⟩
      · simp [bindFrom, Backend.logging, hb] at hcalls ⊢
        exact hcalls
      · simpa [bindFrom, hb] using Binds.taken width hbinds

/-- What comes of binding a statement: its values are not all known, or one of them is refused, or all
of them are bound. -/
inductive Bound (w : WrittenStatement) (params : ParamMap) :
    List Exchange → Except QueryError SlotCount → Prop where
  | unresolved {e : QueryError} (h : valuesOf w params = .error e) : Bound w params [] (.error e)
  | unbound {values : List Value} {binds : List Exchange} {e : QueryError}
      (h : valuesOf w params = .ok values) (hb : Binds 1 (values.zip w.paths) binds (.error e)) :
      Bound w params binds (.error e)
  | bound {values : List Value} {binds : List Exchange} {stop : SlotCount}
      (h : valuesOf w params = .ok values) (hb : Binds 1 (values.zip w.paths) binds (.ok stop)) :
      Bound w params binds (.ok (stop - 1))

theorem bindAll_logging (b : Backend σ) (w : WrittenStatement) (params : ParamMap) (s : σ)
    (log : List Exchange) :
    ∃ calls,
      bindAll b.logging w.bindings w.paths params (s, log) =
        ((bindAll b w.bindings w.paths params s).1, (bindAll b w.bindings w.paths params s).2,
          log ++ calls) ∧
      Bound w params calls (bindAll b w.bindings w.paths params s).1 := by
  simp only [bindAll_eq]
  cases hv : valuesOf w params with
  | error e => exact ⟨[], by simp, .unresolved hv⟩
  | ok values =>
    obtain ⟨binds, hbinds, hb⟩ := bindFrom_logging b 1 (values.zip w.paths) s log
    obtain ⟨r, t, hf⟩ : ∃ r t, bindFrom b 1 (values.zip w.paths) s = (r, t) := ⟨_, _, rfl⟩
    rw [hf] at hbinds hb
    cases r with
    | error e =>
      refine ⟨binds, by simp [hbinds, hf], ?_⟩
      simpa [hf] using Bound.unbound hv hb
    | ok stop =>
      refine ⟨binds, by simp [hbinds, hf], ?_⟩
      simpa [hf] using Bound.bound hv hb

def ranged (range : Option Window) : List Exchange :=
  range.toList.map fun w => ⟨.range w, none⟩

/-- What can happen once a statement is prepared: the calls, what came of binding, and the result. A
statement that fails early is closed, however that goes. -/
inductive PreparedCourse (w : WrittenStatement) (params : ParamMap) (range : Option Window) :
    List Exchange → Except QueryError SlotCount → Except QueryError Outcome → Prop where
  | unranged {window : Window} (h : range = some window) (e : QueryError) (c : Option QueryError) :
      PreparedCourse w params range [⟨.range window, some e⟩, ⟨.close, c⟩] (.error e) (.error e)
  | unresolved {e : QueryError} (h : valuesOf w params = .error e) (c : Option QueryError) :
      PreparedCourse w params range (ranged range ++ [⟨.close, c⟩]) (.error e) (.error e)
  | unbound {values : List Value} {binds : List Exchange} {e : QueryError}
      (h : valuesOf w params = .ok values) (hb : Binds 1 (values.zip w.paths) binds (.error e))
      (c : Option QueryError) :
      PreparedCourse w params range (ranged range ++ binds ++ [⟨.close, c⟩]) (.error e) (.error e)
  | unexecuted {values : List Value} {binds : List Exchange} {stop : SlotCount}
      (h : valuesOf w params = .ok values) (hb : Binds 1 (values.zip w.paths) binds (.ok stop))
      (e : QueryError) (c : Option QueryError) :
      PreparedCourse w params range (ranged range ++ binds ++ [⟨.execute, some e⟩, ⟨.close, c⟩])
        (.ok (stop - 1)) (.error e)
  | unclosed {values : List Value} {binds : List Exchange} {stop : SlotCount}
      (h : valuesOf w params = .ok values) (hb : Binds 1 (values.zip w.paths) binds (.ok stop))
      (e : QueryError) :
      PreparedCourse w params range (ranged range ++ binds ++ [⟨.execute, none⟩, ⟨.close, some e⟩])
        (.ok (stop - 1)) (.error e)
  | finished {values : List Value} {binds : List Exchange} {stop : SlotCount}
      (h : valuesOf w params = .ok values) (hb : Binds 1 (values.zip w.paths) binds (.ok stop))
      (o : Outcome) :
      PreparedCourse w params range (ranged range ++ binds ++ [⟨.execute, none⟩, ⟨.close, none⟩])
        (.ok (stop - 1)) (.ok o)

theorem setRange?_logging (b : Backend σ) (range : Option Window) (s : σ) (log : List Exchange) :
    ∃ calls,
      setRange? b.logging range (s, log) =
        ((setRange? b range s).1, (setRange? b range s).2, log ++ calls) ∧
      ((∃ window e, range = some window ∧ (setRange? b range s).1 = .error e ∧
          calls = [⟨.range window, some e⟩]) ∨
        (setRange? b range s).1 = .ok () ∧ calls = ranged range) := by
  cases range with
  | none => exact ⟨[], by simp [setRange?], .inr ⟨rfl, rfl⟩⟩
  | some window =>
    obtain ⟨r, t, hb⟩ : ∃ r t, b.setRange window s = (r, t) := ⟨_, _, rfl⟩
    cases r with
    | error e =>
      refine ⟨[⟨.range window, some (.executor e)⟩], ?_, .inl ⟨window, .executor e, rfl, ?_, rfl⟩⟩
      · simp [setRange?, Backend.logging, hb]
      · simp [setRange?, hb, liftError]
    | ok u =>
      refine ⟨[⟨.range window, none⟩], ?_, .inr ⟨?_, rfl⟩⟩
      · simp [setRange?, Backend.logging, hb]
      · simp [setRange?, hb, liftError]

theorem abandon_logging (b : Backend σ) (s : σ) (log : List Exchange) :
    ∃ c, abandon b.logging (s, log) = (abandon b s, log ++ [⟨.close, c⟩]) :=
  ⟨_, rfl⟩

theorem execute_logging (b : Backend σ) (s : σ) (log : List Exchange) :
    b.logging.execute (s, log) = noted .execute .executor log (b.execute s) := rfl

theorem executeAndClose_logging (b : Backend σ) (s : σ) (log : List Exchange) :
    ∃ calls,
      executeAndClose b.logging (s, log) =
        ((executeAndClose b s).1, (executeAndClose b s).2, log ++ calls) ∧
      ((∃ e c, (executeAndClose b s).1 = .error e ∧ calls = [⟨.execute, some e⟩, ⟨.close, c⟩]) ∨
        (∃ e, (executeAndClose b s).1 = .error e ∧ calls = [⟨.execute, none⟩, ⟨.close, some e⟩]) ∨
        ∃ o, (executeAndClose b s).1 = .ok o ∧ calls = [⟨.execute, none⟩, ⟨.close, none⟩]) := by
  obtain ⟨r, t, hb⟩ : ∃ r t, b.execute s = (r, t) := ⟨_, _, rfl⟩
  cases r with
  | error e =>
    obtain ⟨c, hc⟩ := abandon_logging b t (log ++ [⟨.execute, some (.executor e)⟩])
    refine ⟨[⟨.execute, some (.executor e)⟩, ⟨.close, c⟩], ?_, .inl ⟨.executor e, c, ?_, rfl⟩⟩
    · simp [executeAndClose, execute_logging, hb, hc]
    · simp [executeAndClose, hb]
  | ok o =>
    obtain ⟨r, u, hc⟩ : ∃ r u, b.close t = (r, u) := ⟨_, _, rfl⟩
    cases r with
    | error e =>
      refine ⟨[⟨.execute, none⟩, ⟨.close, some (.executor e)⟩], ?_, .inr (.inl ⟨.executor e, ?_, rfl⟩)⟩
      · simp [executeAndClose, finish, Backend.logging, hb, hc]
      · simp [executeAndClose, finish, hb, hc]
    | ok _ =>
      refine ⟨[⟨.execute, none⟩, ⟨.close, none⟩], ?_, .inr (.inr ⟨o, ?_, rfl⟩)⟩
      · simp [executeAndClose, finish, Backend.logging, hb, hc]
      · simp [executeAndClose, finish, hb, hc]

theorem runPrepared_logging (b : Backend σ) (w : WrittenStatement) (params : ParamMap)
    (range : Option Window) (s : σ) (log : List Exchange) :
    ∃ calls,
      runPrepared b.logging w params range (s, log) =
        ((runPrepared b w params range s).1, (runPrepared b w params range s).2.1,
          (runPrepared b w params range s).2.2, log ++ calls) ∧
      PreparedCourse w params range calls (runPrepared b w params range s).1
        (runPrepared b w params range s).2.1 := by
  obtain ⟨ranges, hlog, hrange⟩ := setRange?_logging b range s log
  obtain ⟨r, t, hr⟩ : ∃ r t, setRange? b range s = (r, t) := ⟨_, _, rfl⟩
  rw [hr] at hlog hrange
  obtain ⟨window, e, hw, he, rfl⟩ | ⟨ho, rfl⟩ := hrange
  · obtain rfl : r = .error e := he
    obtain ⟨c, hc⟩ := abandon_logging b t (log ++ [⟨.range window, some e⟩])
    refine ⟨[⟨.range window, some e⟩, ⟨.close, c⟩], ?_, ?_⟩
    · simp [runPrepared, hlog, hr, hc]
    · simpa [runPrepared, hr] using PreparedCourse.unranged hw e c
  obtain rfl : r = .ok () := ho
  obtain ⟨binds, hbinds, hbound⟩ := bindAll_logging b w params t (log ++ ranged range)
  obtain ⟨r, u, hb⟩ : ∃ r u, bindAll b w.bindings w.paths params t = (r, u) := ⟨_, _, rfl⟩
  rw [hb] at hbinds hbound
  cases hbound with
  | unresolved h =>
    obtain ⟨c, hc⟩ := abandon_logging b u (log ++ ranged range)
    refine ⟨ranged range ++ [⟨.close, c⟩], ?_, ?_⟩
    · simp [runPrepared, hlog, hr, hbinds, hb, hc]
    · simpa [runPrepared, hr, hb] using PreparedCourse.unresolved h c
  | unbound h hbinding =>
    obtain ⟨c, hc⟩ := abandon_logging b u (log ++ ranged range ++ binds)
    refine ⟨ranged range ++ binds ++ [⟨.close, c⟩], ?_, ?_⟩
    · simp only [List.append_assoc] at hc hbinds ⊢
      simp [runPrepared, hlog, hr, hbinds, hb, hc]
    · simpa [runPrepared, hr, hb] using PreparedCourse.unbound h hbinding c
  | bound h hbinding =>
    obtain ⟨calls, hcalls, hend⟩ := executeAndClose_logging b u (log ++ ranged range ++ binds)
    refine ⟨ranged range ++ binds ++ calls, ?_, ?_⟩
    · simp only [List.append_assoc] at hcalls hbinds ⊢
      simp [runPrepared, hlog, hr, hbinds, hb, hcalls]
    · simp only [runPrepared, hr, hb]
      obtain ⟨e, c, he, rfl⟩ | ⟨e, he, rfl⟩ | ⟨o, ho, rfl⟩ := hend
      · rw [he]
        exact .unexecuted h hbinding e c
      · rw [he]
        exact .unclosed h hbinding e
      · rw [ho]
        exact .finished h hbinding o

inductive Course (w : WrittenStatement) (params : ParamMap) (range : Option Window) :
    List Exchange → Except QueryError SlotCount → Except QueryError Outcome → Prop where
  | unprepared (e : QueryError) :
      Course w params range [⟨.prepare w.text, some e⟩] (.error e) (.error e)
  | prepared {log : List Exchange} {bound : Except QueryError SlotCount} {r : Except QueryError Outcome}
      (h : PreparedCourse w params range log bound r) :
      Course w params range (⟨.prepare w.text, none⟩ :: log) bound r

theorem run_logging (b : Backend σ) (c : Config) (kind : StatementKind) (w : WrittenStatement)
    (params : ParamMap) (range : Option Window) (s : σ) :
    ∃ log bound,
      run b.logging c kind w params range (s, []) =
        { run b c kind w params range s with
          state := ((run b c kind w params range s).state, log) } ∧
      (run b c kind w params range s).events =
        boundEvents bound ++ executedEvents kind (run b c kind w params range s).result ∧
      Course w params range log bound (run b c kind w params range s).result := by
  obtain ⟨r, t, hb⟩ : ∃ r t, b.prepare w.text s = (r, t) := ⟨_, _, rfl⟩
  cases r with
  | error e =>
    refine ⟨[⟨.prepare w.text, some (.executor e)⟩], .error (.executor e), ?_, ?_, ?_⟩
    · simp [run_eq, Backend.logging, hb]
    · simp [run_eq, hb, boundEvents, executedEvents]
    · simpa [run_eq, hb] using Course.unprepared (.executor e)
  | ok _ =>
    obtain ⟨log, hlog, hcourse⟩ :=
      runPrepared_logging b w params range t [⟨.prepare w.text, none⟩]
    have hp : b.logging.prepare w.text (s, []) = (.ok (), t, [⟨.prepare w.text, none⟩]) := by
      simp [Backend.logging, hb]
    refine ⟨⟨.prepare w.text, none⟩ :: log, (runPrepared b w params range t).1, ?_, ?_, ?_⟩
    · simp [run_eq, hp, hb, hlog]
    · simp [run_eq, hb]
    · simpa [run_eq, hb] using Course.prepared hcourse

end QueryText.Execute
