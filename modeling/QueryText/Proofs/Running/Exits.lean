import QueryText.Execute.Run

namespace QueryText.Execute

variable {σ : Type}

def abandon (b : Backend σ) (s : σ) : σ :=
  (b.close s).2

def finish (b : Backend σ) (o : Outcome) (s : σ) : Except QueryError Outcome × σ :=
  match b.close s with
  | (.ok _, s) => (.ok o, s)
  | (.error e, s) => (.error (.executor e), s)

def executeAndClose (b : Backend σ) (s : σ) : Except QueryError Outcome × σ :=
  match b.execute s with
  | (.error e, s) => (.error (.executor e), abandon b s)
  | (.ok o, s) => finish b o s

/-- The part of a run with a prepared statement, which is closed at each of its exits. -/
def runPrepared (b : Backend σ) (w : WrittenStatement) (params : ParamMap) (range : Option Window)
    (s : σ) : Except QueryError SlotCount × Except QueryError Outcome × σ :=
  match setRange? b range s with
  | (.error e, s) => (.error e, .error e, abandon b s)
  | (.ok _, s) =>
    match bindAll b w.bindings w.paths params s with
    | (.error e, s) => (.error e, .error e, abandon b s)
    | (.ok slots, s) =>
      let (r, s) := executeAndClose b s
      (.ok slots, r, s)

namespace Guard

variable (b : Backend σ)

theorem setRange?_backend (range : Option Window) (g : Guard σ) :
    setRange? (backend b) range g =
      ((setRange? b range g.state).1, { g with state := (setRange? b range g.state).2 }) := by
  cases range <;> rfl

theorem bindFrom_backend (slot : SlotCount) (xs : List (Value × Option Path)) (g : Guard σ) :
    bindFrom (backend b) slot xs g =
      ((bindFrom b slot xs g.state).1, { g with state := (bindFrom b slot xs g.state).2 }) := by
  induction xs generalizing slot g with
  | nil => rfl
  | cons x xs ih =>
    obtain ⟨v, p⟩ := x
    obtain ⟨r, t, hb⟩ : ∃ r t, b.bind slot p v g.state = (r, t) := ⟨_, _, rfl⟩
    have hbind : (backend b).bind slot p v g = (r, { g with state := t }) := by
      simp only [backend, bind, hb]
    cases r with
    | error e => simp only [bindFrom, hbind, hb]
    | ok width => simp only [bindFrom, hbind, hb, ih]

theorem bindAll_backend (bindings : List Binding) (paths : List (Option Path)) (params : ParamMap)
    (g : Guard σ) :
    bindAll (backend b) bindings paths params g =
      ((bindAll b bindings paths params g.state).1,
        { g with state := (bindAll b bindings paths params g.state).2 }) := by
  unfold bindAll
  split
  · rfl
  · cases resolveAll params bindings with
    | error e => rfl
    | ok values =>
      simp only [bindFrom_backend]
      obtain ⟨r, t, hb⟩ : ∃ r t, bindFrom b 1 (values.zip paths) g.state = (r, t) := ⟨_, _, rfl⟩
      cases r <;> simp only [hb]

theorem drop_executeHeld (s : σ) :
    ((executeHeld b ⟨true, s⟩).1, ((executeHeld b ⟨true, s⟩).2.drop b).state) =
      executeAndClose b s := by
  obtain ⟨r, t, hb⟩ : ∃ r t, b.execute s = (r, t) := ⟨_, _, rfl⟩
  cases r with
  | error e => simp [executeHeld, executeAndClose, execute, drop, abandon, hb]
  | ok o =>
    obtain ⟨r, u, hc⟩ : ∃ r u, b.close t = (r, u) := ⟨_, _, rfl⟩
    cases r <;> simp [executeHeld, executeAndClose, execute, finish, Execute.finish, drop, hb, hc]

theorem drop_runHeld (w : WrittenStatement) (params : ParamMap) (range : Option Window) (s : σ) :
    ((runHeld b w params range ⟨true, s⟩).1, (runHeld b w params range ⟨true, s⟩).2.1,
        ((runHeld b w params range ⟨true, s⟩).2.2.drop b).state) =
      runPrepared b w params range s := by
  obtain ⟨r, t, hr⟩ : ∃ r t, setRange? b range s = (r, t) := ⟨_, _, rfl⟩
  cases r with
  | error e => simp [runHeld, runPrepared, setRange?_backend, drop, abandon, hr]
  | ok _ =>
    obtain ⟨q, u, hq⟩ : ∃ q u, bindAll b w.bindings w.paths params t = (q, u) := ⟨_, _, rfl⟩
    cases q with
    | error e => simp [runHeld, runPrepared, setRange?_backend, bindAll_backend, drop, abandon, hr, hq]
    | ok slots =>
      have hend := drop_executeHeld b u
      simp only [runHeld, runPrepared, setRange?_backend, bindAll_backend, hr, hq, ← hend]

end Guard

theorem run_eq (b : Backend σ) (c : Config) (kind : StatementKind) (w : WrittenStatement)
    (params : ParamMap) (range : Option Window) (s : σ) :
    run b c kind w params range s =
      match b.prepare w.text s with
      | (.error e, s) =>
        { result := .error (.executor e), state := s, events := [], trace := traced c [openingLine kind w] }
      | (.ok _, s) =>
        let (bound, result, s) := runPrepared b w params range s
        { result
          state := s
          events := boundEvents bound ++ executedEvents kind result
          trace := traced c (openingLine kind w :: closingLines w bound result) } := by
  obtain ⟨r, t, hb⟩ : ∃ r t, b.prepare w.text s = (r, t) := ⟨_, _, rfl⟩
  cases r with
  | error e => simp [run, Guard.prepare, Guard.empty, hb]
  | ok _ =>
    have hheld := Guard.drop_runHeld b w params range t
    simp [run, Guard.prepare, Guard.empty, Guard.drop, hb, ← hheld]

end QueryText.Execute
