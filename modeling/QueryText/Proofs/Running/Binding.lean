import QueryText.Proofs.InnermostBinding
import QueryText.Proofs.Running.Numbering

namespace QueryText.Execute

variable {σ : Type}

/-- An attempt to bind a value, and the answer to it. -/
structure Attempt where
  slot : SlotCount
  path : Option Path
  value : Value
  answer : Except CoercionError SlotCount

namespace Attempt

/-- The slots that the value was reported to take; none, if it was rejected. -/
def width (a : Attempt) : SlotCount :=
  a.answer.toOption.getD 0

def Taken (a : Attempt) : Prop :=
  ∃ width, a.answer = .ok width

end Attempt

/-- The same backend, with the attempts to bind that it saw beside its state. -/
def Backend.watched (b : Backend σ) : Backend (σ × List Attempt) where
  prepare text s := ((b.prepare text s.1).1, (b.prepare text s.1).2, s.2)
  setRange w s := ((b.setRange w s.1).1, (b.setRange w s.1).2, s.2)
  bind slot path v s :=
    let x := b.bind slot path v s.1
    (x.1, x.2, s.2 ++ [⟨slot, path, v, x.1⟩])
  execute s := ((b.execute s.1).1, (b.execute s.1).2, s.2)
  close s := ((b.close s.1).1, (b.close s.1).2, s.2)

/-- Values tried in turn from that slot on: all of them are taken, or the last one tried is rejected. -/
inductive Attempts :
    SlotCount → List (Value × Option Path) → List Attempt → Except QueryError SlotCount → Prop where
  | done (slot : SlotCount) : Attempts slot [] [] (.ok slot)
  | rejected (slot : SlotCount) (v : Value) (p : Option Path) (rest : List (Value × Option Path))
      (e : CoercionError) :
      Attempts slot ((v, p) :: rest) [⟨slot, p, v, .error e⟩] (.error (.coercion e))
  | taken {slot : SlotCount} {v : Value} {p : Option Path} {rest : List (Value × Option Path)}
      {log : List Attempt} {r : Except QueryError SlotCount} (width : SlotCount)
      (h : Attempts (slot + width) rest log r) :
      Attempts slot ((v, p) :: rest) (⟨slot, p, v, .ok width⟩ :: log) r

theorem bindFrom_watched (b : Backend σ) (slot : SlotCount) (xs : List (Value × Option Path)) (s : σ)
    (log : List Attempt) :
    ∃ attempts,
      bindFrom b.watched slot xs (s, log) =
        ((bindFrom b slot xs s).1, (bindFrom b slot xs s).2, log ++ attempts) ∧
      Attempts slot xs attempts (bindFrom b slot xs s).1 := by
  -- What a value takes moves the slot, and the backend may change with every attempt.
  induction xs generalizing slot s log with
  | nil => exact ⟨[], by simp [bindFrom], .done slot⟩
  | cons x xs ih =>
    obtain ⟨v, p⟩ := x
    obtain ⟨r, t, hb⟩ : ∃ r t, b.bind slot p v s = (r, t) := ⟨_, _, rfl⟩
    have hwatched : b.watched.bind slot p v (s, log) = (r, t, log ++ [⟨slot, p, v, r⟩]) := by
      simp only [Backend.watched, hb]
    cases r with
    | error e =>
      refine ⟨[⟨slot, p, v, .error e⟩], ?_, ?_⟩
      · simp only [bindFrom, hwatched, hb]
      · simpa only [bindFrom, hb] using Attempts.rejected slot v p xs e
    | ok width =>
      obtain ⟨attempts, hrest, hattempts⟩ := ih (slot + width) t (log ++ [⟨slot, p, v, .ok width⟩])
      refine ⟨⟨slot, p, v, .ok width⟩ :: attempts, ?_, ?_⟩
      · simp only [bindFrom, hwatched, hb, hrest, List.append_assoc, List.cons_append, List.nil_append]
      · simpa only [bindFrom, hb] using Attempts.taken width hattempts

namespace Attempts

variable {slot : SlotCount} {xs : List (Value × Option Path)} {log : List Attempt}
  {r : Except QueryError SlotCount}

theorem getElem?_eq (h : Attempts slot xs log r) {i : Nat} {a : Attempt} (ha : log[i]? = some a) :
    xs[i]? = some (a.value, a.path) ∧ a.slot = slot + ((log.take i).map (·.width)).sum := by
  induction h generalizing i with
  | done slot => simp at ha
  | rejected slot v p rest e =>
    cases i with
    | zero =>
      obtain rfl := Option.some.inj ha
      exact ⟨rfl, (add_zero slot).symm⟩
    | succ i => simp at ha
  | @taken slot v p rest log r width h ih =>
    cases i with
    | zero =>
      obtain rfl := Option.some.inj ha
      exact ⟨rfl, (add_zero slot).symm⟩
    | succ i =>
      obtain ⟨hvalue, hrest⟩ := ih (by simpa using ha)
      have hwidth : Attempt.width ⟨slot, p, v, .ok width⟩ = width := rfl
      refine ⟨by simpa using hvalue, ?_⟩
      rw [hrest, List.take_succ_cons, List.map_cons, List.sum_cons, hwidth, add_assoc]

theorem outcome (h : Attempts slot xs log r) :
    (∀ a ∈ log, a.Taken) ∧ log.length = xs.length ∧ r = .ok (slot + (log.map (·.width)).sum) ∨
      ∃ front a e, log = front ++ [a] ∧ (∀ a ∈ front, a.Taken) ∧ a.answer = .error e ∧
        r = .error (.coercion e) := by
  induction h with
  | done slot => exact .inl ⟨by simp, rfl, by simp⟩
  | rejected slot v p rest e =>
    exact .inr ⟨[], ⟨slot, p, v, .error e⟩, e, rfl, by simp, rfl, rfl⟩
  | @taken slot v p rest log r width h ih =>
    have hwidth : Attempt.width ⟨slot, p, v, .ok width⟩ = width := rfl
    obtain ⟨hall, hlength, rfl⟩ | ⟨front, a, e, rfl, hall, ha, rfl⟩ := ih
    · refine .inl ⟨?_, by simp [hlength], ?_⟩
      · exact List.forall_mem_cons.mpr ⟨⟨width, rfl⟩, hall⟩
      · rw [List.map_cons, List.sum_cons, hwidth, add_assoc]
    · exact .inr ⟨⟨slot, p, v, .ok width⟩ :: front, a, e, rfl,
        List.forall_mem_cons.mpr ⟨⟨width, rfl⟩, hall⟩, ha, rfl⟩

end Attempts

section Unset

variable {params : ParamMap}

theorem unset?_eq_none {bs : List Binding} (h : ∀ x ∈ bs, x.value? params ≠ none) :
    unset? params bs = none := by
  induction bs with
  | nil => rfl
  | cons b bs ih =>
    obtain ⟨hb, hbs⟩ := List.forall_mem_cons.mp h
    cases b with
    | value v => exact ih hbs
    | param p =>
      obtain ⟨v, hv⟩ := Option.ne_none_iff_exists'.mp hb
      change params.get? p = some v at hv
      simp only [unset?, hv, ih hbs]

theorem unset?_append {before behind : List Binding} {p : Param}
    (h : ∀ x ∈ before, x.value? params ≠ none) (hp : params.get? p = none) :
    unset? params (before ++ .param p :: behind) = some p := by
  induction before with
  | nil => simp only [List.nil_append, unset?, hp]
  | cons b bs ih =>
    obtain ⟨hb, hbs⟩ := List.forall_mem_cons.mp h
    cases b with
    | value v => exact ih hbs
    | param q =>
      obtain ⟨v, hv⟩ := Option.ne_none_iff_exists'.mp hb
      change params.get? q = some v at hv
      simp only [List.cons_append, unset?, hv, ih hbs]

end Unset

/-- One attempt for each binding in turn, with its value and its path, behind the slots reported before it.
If all of them are taken, the result is the number of the slots; otherwise the first rejection is the last
attempt, and the result. Slots are counted in a word. -/
structure InTurn (params : ParamMap) (bindings : List Binding) (paths : List (Option Path))
    (log : List Attempt) (r : Except QueryError SlotCount) : Prop where
  value {i : Nat} {a : Attempt} (h : log[i]? = some a) :
    ∃ x, bindings[i]? = some x ∧ x.value? params = some a.value
  path {i : Nat} {a : Attempt} (h : log[i]? = some a) : paths[i]? = some a.path
  slot {i : Nat} {a : Attempt} (h : log[i]? = some a) :
    a.slot = (1 + ((log.take i).map (·.width.val)).sum : Nat)
  outcome :
    (∀ a ∈ log, a.Taken) ∧ log.length = bindings.length ∧
        r = .ok ((log.map (·.width.val)).sum : Nat) ∨
      ∃ front a e, log = front ++ [a] ∧ (∀ a ∈ front, a.Taken) ∧ a.answer = .error e ∧
        r = .error (.coercion e)

/-- Without a path entry for each binding, or without a value for one of them, nothing is tried. -/
structure Positional (params : ParamMap) (bindings : List Binding) (paths : List (Option Path))
    (log : List Attempt) (r : Except QueryError SlotCount) : Prop where
  arity (h : bindings.length ≠ paths.length) :
    r = .error (.arityMismatch paths.length bindings.length) ∧ log = []
  unset (h : bindings.length = paths.length) {before behind : List Binding} {p : Param}
    (hbindings : bindings = before ++ .param p :: behind)
    (hbefore : ∀ x ∈ before, x.value? params ≠ none) (hp : params.get? p = none) :
    r = .error (.parameterNotSet p) ∧ log = []
  inTurn (h : bindings.length = paths.length) (hset : ∀ x ∈ bindings, x.value? params ≠ none) :
    InTurn params bindings paths log r

section Layers

variable (b : Backend σ) {bindings : List Binding} {paths : List (Option Path)} {params : ParamMap}
  (s : σ)

theorem bindAll_of_arity (h : bindings.length ≠ paths.length) :
    bindAll b bindings paths params s =
      (.error (.arityMismatch paths.length bindings.length), s) := by
  rw [bindAll, if_pos h]

theorem bindAll_of_unset (h : bindings.length = paths.length) {p : Param}
    (hp : unset? params bindings = some p) :
    bindAll b bindings paths params s = (.error (.parameterNotSet p), s) := by
  rw [bindAll, if_neg (not_not_intro h), resolveAll_of_unset hp]

theorem bindAll_of_set (h : bindings.length = paths.length) {values : List Value}
    (hv : resolveAll params bindings = .ok values) :
    bindAll b bindings paths params s =
      ((bindFrom b 1 (values.zip paths) s).1.map (· - 1), (bindFrom b 1 (values.zip paths) s).2) := by
  rw [bindAll, if_neg (not_not_intro h), hv]
  obtain ⟨r, t, hb⟩ : ∃ r t, bindFrom b 1 (values.zip paths) s = (r, t) := ⟨_, _, rfl⟩
  cases r <;> simp only [hb, Except.map]

end Layers

theorem Attempts.inTurn {bindings : List Binding} {paths : List (Option Path)} {params : ParamMap}
    {values : List Value} {log : List Attempt} {r : Except QueryError SlotCount}
    (h : Attempts 1 (values.zip paths) log r) (hlength : bindings.length = paths.length)
    (hv : resolveAll params bindings = .ok values) :
    InTurn params bindings paths log (r.map (· - 1)) := by
  have hvalues := resolveAll_value? hv
  have hcount : bindings.length = values.length := by simpa using congrArg List.length hvalues
  refine ⟨fun {i a} ha => ?_, fun ha => ?_, fun {i a} ha => ?_, ?_⟩
  · obtain ⟨hvalue, -⟩ := List.getElem?_zip_eq_some.mp (h.getElem?_eq ha).1
    have hmap := congrArg (·[i]?) hvalues
    simp only [List.getElem?_map, hvalue, Option.map_some] at hmap
    exact Option.map_eq_some_iff.mp hmap
  · exact (List.getElem?_zip_eq_some.mp (h.getElem?_eq ha).1).2
  · rw [(h.getElem?_eq ha).2, sum_slotCounts, List.map_map, slotCount_add]
    rfl
  · obtain ⟨hall, hall', rfl⟩ | ⟨front, a, e, hlog, hall, ha, rfl⟩ := h.outcome
    · refine .inl ⟨hall, ?_, ?_⟩
      · rw [hall', List.length_zip, ← hcount, ← hlength, Nat.min_self]
      · rw [Except.map, add_sub_cancel_left, sum_slotCounts, List.map_map]
        rfl
    · exact .inr ⟨front, a, e, hlog, hall, ha, rfl⟩

/-- However a backend answers, values are bound by their positions, and nothing is bound unless all of
them are known. -/
theorem bindAll_positional (b : Backend σ) (bindings : List Binding) (paths : List (Option Path))
    (params : ParamMap) (s : σ) :
    ∃ log,
      bindAll b.watched bindings paths params (s, []) =
        ((bindAll b bindings paths params s).1, (bindAll b bindings paths params s).2, log) ∧
      Positional params bindings paths log (bindAll b bindings paths params s).1 := by
  by_cases hlength : bindings.length = paths.length
  · cases hp : unset? params bindings with
    | some p =>
      rw [bindAll_of_unset b.watched (s, []) hlength hp, bindAll_of_unset b s hlength hp]
      refine ⟨[], rfl, fun h => absurd hlength h, fun _ {before behind q} heq hbefore hq => ?_,
        fun _ hset => ?_⟩
      · rw [heq, unset?_append hbefore hq] at hp
        exact ⟨by rw [Option.some.inj hp], rfl⟩
      · rw [unset?_eq_none hset] at hp
        cases hp
    | none =>
      have hv := resolveAll_of_set hp
      obtain ⟨log, hlog, hattempts⟩ :=
        bindFrom_watched b 1 ((bindings.map (lookUp params)).zip paths) s []
      rw [bindAll_of_set b.watched (s, []) hlength hv, bindAll_of_set b s hlength hv, hlog]
      refine ⟨log, rfl, fun h => absurd hlength h, fun _ {before behind q} heq hbefore hq => ?_,
        fun _ _ => hattempts.inTurn hlength hv⟩
      rw [heq, unset?_append hbefore hq] at hp
      cases hp
  · rw [bindAll_of_arity b.watched (s, []) hlength, bindAll_of_arity b s hlength]
    exact ⟨[], rfl, fun _ => ⟨rfl, rfl⟩, fun h => absurd h hlength, fun h => absurd h hlength⟩

end QueryText.Execute
