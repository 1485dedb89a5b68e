import QueryText.Proofs.Running.Course

namespace QueryText.Execute

variable {σ : Type}

namespace Call

def stage : Call → Nat
  | prepare _ => 0
  | range _ => 1
  | bind _ _ _ => 2
  | execute => 3
  | close => 4

def bound? : Call → Option (Value × Option Path)
  | bind _ path v => some (v, path)
  | _ => none

theorem bound?_eq_none {c : Call} (h : c.stage ≠ 2) : c.bound? = none := by
  cases c <;> first | rfl | exact absurd rfl h

theorem stage_eq_four_iff {c : Call} : c.stage = 4 ↔ c = .close := by
  cases c <;> simp [stage]

theorem stage_eq_three_iff {c : Call} : c.stage = 3 ↔ c = .execute := by
  cases c <;> simp [stage]

end Call

/-- A call of a later stage may follow, and values are bound one after the other. -/
def Exchange.MayPrecede (x y : Exchange) : Prop :=
  x.call.stage < y.call.stage ∨ x.call.stage = 2 ∧ y.call.stage = 2

def given (log : List Exchange) : List (Value × Option Path) :=
  log.filterMap (·.call.bound?)

def failures (log : List Exchange) : List QueryError :=
  log.filterMap (·.failure)

/-- What there is to bind; nothing, if the values cannot be told. -/
def toBind (w : WrittenStatement) (params : ParamMap) : List (Value × Option Path) :=
  match valuesOf w params with
  | .ok values => values.zip w.paths
  | .error _ => []

/-- Binding was reached, every binding had its value, and the backend took all of them. -/
structure Accepted (w : WrittenStatement) (params : ParamMap) (log : List Exchange) : Prop where
  values : ∃ values, valuesOf w params = .ok values
  given : given log = toBind w params
  taken : ∀ x ∈ log, x.call.stage ≤ 2 → x.failure = none

/-- The failure of the first step that failed. The values are looked up after preparation and range,
and before anything is bound. -/
def firstFailure? (w : WrittenStatement) (params : ParamMap) (log : List Exchange) :
    Option QueryError :=
  (failures (log.filter (·.call.stage < 2)) ++ (failure? (valuesOf w params)).toList ++
    failures (log.filter (2 ≤ ·.call.stage))).head?

/-- What a run keeps to: the calls that it makes, its result, and what it reports. -/
structure Protocol (w : WrittenStatement) (params : ParamMap) (kind : StatementKind)
    (log : List Exchange) (r : Except QueryError Outcome) (events : List Event) : Prop where
  /-- preparation, a range, the values, execution and close, and each but the values once at most -/
  ordered : log.Pairwise Exchange.MayPrecede
  /-- nothing happens without a prepared statement, and one that there is gets closed once and last -/
  released : ∃ failure rest, log = ⟨.prepare w.text, failure⟩ :: rest ∧
    (failure ≠ none → rest = []) ∧
    (failure = none → ∃ before closing, rest = before ++ [⟨.close, closing⟩] ∧
      ∀ x ∈ before, x.call ≠ .close)
  binds : given log <+: toBind w params
  executes : (∃ x ∈ log, x.call = .execute) → Accepted w params log
  succeeds : (∃ o, r = .ok o) ↔
    (∃ x ∈ log, x.call = .execute) ∧ ∀ x ∈ log, x.failure = none
  fails : failure? r = firstFailure? w params log
  bound : (∃ slots, .bound slots ∈ events) ↔ Accepted w params log
  executed : (∃ rows, .executed kind rows ∈ events) ↔ ∃ o, r = .ok o

@[simp] theorem given_append (xs ys : List Exchange) : given (xs ++ ys) = given xs ++ given ys :=
  List.filterMap_append

@[simp] theorem failures_append (xs ys : List Exchange) :
    failures (xs ++ ys) = failures xs ++ failures ys :=
  List.filterMap_append

theorem failures_eq_nil_iff {log : List Exchange} :
    failures log = [] ↔ ∀ x ∈ log, x.failure = none :=
  List.filterMap_eq_nil_iff

theorem given_eq_nil {log : List Exchange} (h : ∀ x ∈ log, x.call.stage ≠ 2) : given log = [] :=
  List.filterMap_eq_nil_iff.mpr fun x hx => Call.bound?_eq_none (h x hx)

namespace Binds

variable {slot : SlotCount} {xs : List (Value × Option Path)} {log : List Exchange}
  {r : Except QueryError SlotCount}

theorem stage (h : Binds slot xs log r) : ∀ x ∈ log, x.call.stage = 2 := by
  induction h with
  | done slot => simp
  | refused slot v p rest e => simp [Call.stage]
  | taken width _ ih => simpa [Call.stage] using ih

theorem given_prefix (h : Binds slot xs log r) : given log <+: xs := by
  induction h with
  | done slot => exact List.nil_prefix
  | refused slot v p rest e => exact List.prefix_append [(v, p)] rest
  | taken width _ ih => exact List.prefix_cons_inj _ |>.mpr ih

theorem failures_eq (h : Binds slot xs log r) : failures log = (failure? r).toList := by
  induction h with
  | done slot => rfl
  | refused slot v p rest e => rfl
  | taken width _ ih => exact ih

theorem given_eq {stop : SlotCount} (h : Binds slot xs log (.ok stop)) : given log = xs := by
  generalize hr : (Except.ok stop : Except QueryError SlotCount) = r at h
  induction h with
  | done slot => rfl
  | refused slot v p rest e => cases hr
  | taken width _ ih => exact congrArg _ (ih hr)

end Binds

/-- The three parts of a log behind the preparation: a range, the values, and what ends the run. -/
structure Parts (log ranges binds ending : List Exchange) : Prop where
  eq : log = ranges ++ binds ++ ending
  ranges : ranges = [] ∨ ∃ window failure, ranges = [⟨.range window, failure⟩]
  binds : ∀ x ∈ binds, x.call.stage = 2
  ending : ∃ execution closing, ending = execution ++ [⟨.close, closing⟩] ∧
    (execution = [] ∨ ∃ failure, execution = [⟨.execute, failure⟩])

namespace Parts

variable {log ranges binds ending : List Exchange} {w : WrittenStatement} {params : ParamMap}

theorem stage_ranges (h : Parts log ranges binds ending) : ∀ x ∈ ranges, x.call.stage = 1 := by
  obtain rfl | ⟨window, failure, rfl⟩ := h.ranges <;> simp [Call.stage]

theorem stage_ending (h : Parts log ranges binds ending) : ∀ x ∈ ending, 3 ≤ x.call.stage := by
  obtain ⟨execution, closing, rfl, rfl | ⟨failure, rfl⟩⟩ := h.ending <;> simp [Call.stage]

theorem ordered (h : Parts log ranges binds ending) (failure : Option QueryError) :
    (⟨.prepare w.text, failure⟩ :: log).Pairwise Exchange.MayPrecede := by
  have hranges : ranges.Pairwise Exchange.MayPrecede := by
    obtain rfl | ⟨window, failure, rfl⟩ := h.ranges <;> simp
  have hbinds : binds.Pairwise Exchange.MayPrecede :=
    List.pairwise_of_forall_mem_list fun x hx y hy => .inr ⟨h.binds x hx, h.binds y hy⟩
  have hending : ending.Pairwise Exchange.MayPrecede := by
    obtain ⟨execution, closing, rfl, rfl | ⟨failure, rfl⟩⟩ := h.ending <;>
      simp [Exchange.MayPrecede, Call.stage]
  have hr := h.stage_ranges
  have hb := h.binds
  have he := h.stage_ending
  rw [h.eq]
  refine List.pairwise_cons.mpr ⟨fun x hx => .inl ?_, List.pairwise_append.mpr
    ⟨List.pairwise_append.mpr ⟨hranges, hbinds, fun x hx y hy => .inl ?_⟩, hending,
      fun x hx y hy => .inl ?_⟩⟩
  · simp only [List.mem_append] at hx
    change 0 < x.call.stage
    obtain (hx | hx) | hx := hx
    · rw [hr x hx]
      decide
    · rw [hb x hx]
      decide
    · exact Nat.lt_of_lt_of_le (by decide) (he x hx)
  · rw [hr x hx, hb y hy]
    decide
  · have hx' : x.call.stage ≤ 2 := by
      obtain hx | hx := List.mem_append.mp hx
      · rw [hr x hx]
        decide
      · exact Nat.le_of_eq (hb x hx)
    exact Nat.lt_of_le_of_lt hx' (he y hy)

theorem released (h : Parts log ranges binds ending) :
    ∃ before closing, log = before ++ [⟨.close, closing⟩] ∧ ∀ x ∈ before, x.call ≠ .close := by
  obtain ⟨execution, closing, hending, hexecution⟩ := h.ending
  refine ⟨ranges ++ binds ++ execution, closing, by simp [h.eq, hending], fun x hx hclose => ?_⟩
  have hstage := Call.stage_eq_four_iff.mpr hclose
  simp only [List.mem_append] at hx
  obtain (hx | hx) | hx := hx
  · simp [h.stage_ranges x hx] at hstage
  · simp [h.binds x hx] at hstage
  · obtain rfl | ⟨failure, rfl⟩ := hexecution
    · cases hx
    · obtain rfl := List.mem_singleton.mp hx
      cases hstage

theorem given_eq (h : Parts log ranges binds ending) (failure : Option QueryError) :
    given (⟨.prepare w.text, failure⟩ :: log) = given binds := by
  have hranges : given ranges = [] := given_eq_nil fun x hx => by simp [h.stage_ranges x hx]
  have hending : given ending = [] := given_eq_nil fun x hx => by
    have := h.stage_ending x hx
    omega
  change given log = given binds
  rw [h.eq, given_append, given_append, hranges, hending, List.nil_append, List.append_nil]

theorem exists_execute_iff (h : Parts log ranges binds ending) (failure : Option QueryError) :
    (∃ x ∈ (⟨.prepare w.text, failure⟩ :: log : List Exchange), x.call = .execute) ↔
      ∃ x ∈ ending, x.call = .execute := by
  constructor
  · rintro ⟨x, hx, hexecute⟩
    have hstage := Call.stage_eq_three_iff.mpr hexecute
    simp only [h.eq, List.mem_cons, List.mem_append] at hx
    obtain rfl | (hx | hx) | hx := hx
    · cases hexecute
    · simp [h.stage_ranges x hx] at hstage
    · simp [h.binds x hx] at hstage
    · exact ⟨x, hx, hexecute⟩
  · rintro ⟨x, hx, hexecute⟩
    exact ⟨x, by simp [h.eq, hx], hexecute⟩

theorem accepted_iff (h : Parts log ranges binds ending) :
    Accepted w params (⟨.prepare w.text, none⟩ :: log) ↔
      (∃ values, valuesOf w params = .ok values) ∧ given binds = toBind w params ∧
        failures ranges = [] ∧ failures binds = [] := by
  have hg := h.given_eq (w := w) none
  rw [failures_eq_nil_iff, failures_eq_nil_iff]
  constructor
  · intro ha
    refine ⟨ha.values, hg ▸ ha.given, fun x hx => ha.taken x ?_ ?_, fun x hx => ha.taken x ?_ ?_⟩
    · simp [h.eq, hx]
    · simp [h.stage_ranges x hx]
    · simp [h.eq, hx]
    · simp [h.binds x hx]
  · rintro ⟨hv, hgiven, hranges, hbinds⟩
    refine ⟨hv, hg.trans hgiven, fun x hx hstage => ?_⟩
    simp only [h.eq, List.mem_cons, List.mem_append] at hx
    obtain rfl | (hx | hx) | hx := hx
    · rfl
    · exact hranges x hx
    · exact hbinds x hx
    · have := h.stage_ending x hx
      omega

/-- The lookup of the values stands between the range and the bindings, though the log does not show it. -/
theorem firstFailure?_eq (h : Parts log ranges binds ending) :
    firstFailure? w params (⟨.prepare w.text, none⟩ :: log) =
      (failures ranges ++ (failure? (valuesOf w params)).toList ++ failures binds ++
        failures ending).head? := by
  have hbefore : log.filter (·.call.stage < 2) = ranges := by
    have hr : ranges.filter (·.call.stage < 2) = ranges :=
      List.filter_eq_self.mpr fun x hx => by simp [h.stage_ranges x hx]
    have hb : binds.filter (·.call.stage < 2) = [] :=
      List.filter_eq_nil_iff.mpr fun x hx => by simp [h.binds x hx]
    have he : ending.filter (·.call.stage < 2) = [] :=
      List.filter_eq_nil_iff.mpr fun x hx => by
        have := h.stage_ending x hx
        simp
        omega
    rw [h.eq, List.filter_append, List.filter_append, hr, hb, he, List.append_nil, List.append_nil]
  have hbehind : log.filter (2 ≤ ·.call.stage) = binds ++ ending := by
    have hr : ranges.filter (2 ≤ ·.call.stage) = [] :=
      List.filter_eq_nil_iff.mpr fun x hx => by simp [h.stage_ranges x hx]
    have hb : binds.filter (2 ≤ ·.call.stage) = binds :=
      List.filter_eq_self.mpr fun x hx => by simp [h.binds x hx]
    have he : ending.filter (2 ≤ ·.call.stage) = ending :=
      List.filter_eq_self.mpr fun x hx => by
        have := h.stage_ending x hx
        simp
        omega
    rw [h.eq, List.filter_append, List.filter_append, hr, hb, he, List.nil_append]
  rw [firstFailure?, List.filter_cons_of_pos (by simp [Call.stage]),
    List.filter_cons_of_neg (by simp [Call.stage]), hbefore, hbehind, failures_append]
  simp [failures]

end Parts

theorem bound_mem_iff {kind : StatementKind} {bound : Except QueryError SlotCount}
    {r : Except QueryError Outcome} :
    (∃ slots, .bound slots ∈ boundEvents bound ++ executedEvents kind r) ↔
      ∃ slots, bound = .ok slots := by
  cases bound <;> cases r <;> simp [boundEvents, executedEvents]

theorem executed_mem_iff {kind : StatementKind} {bound : Except QueryError SlotCount}
    {r : Except QueryError Outcome} :
    (∃ rows, .executed kind rows ∈ boundEvents bound ++ executedEvents kind r) ↔ ∃ o, r = .ok o := by
  cases bound <;> cases r <;> simp [boundEvents, executedEvents]

theorem failure?_eq_none_iff {α : Type} {r : Except QueryError α} :
    failure? r = none ↔ ∃ a, r = .ok a := by
  cases r <;> simp [failure?]

namespace Parts

variable {log ranges binds ending : List Exchange} {w : WrittenStatement} {params : ParamMap}
  {bound : Except QueryError SlotCount} {r : Except QueryError Outcome}

theorem protocol (h : Parts log ranges binds ending) (kind : StatementKind)
    (hgiven : given binds <+: toBind w params)
    (hbound : (∃ slots, bound = .ok slots) ↔
      (∃ values, valuesOf w params = .ok values) ∧ given binds = toBind w params ∧
        failures ranges = [] ∧ failures binds = [])
    (hexecutes : (∃ x ∈ ending, x.call = .execute) → ∃ slots, bound = .ok slots)
    (hfails : failure? r = (failures ranges ++ (failure? (valuesOf w params)).toList ++
      failures binds ++ failures ending).head?)
    (hsucceeds : (∃ o, r = .ok o) → ∃ x ∈ ending, x.call = .execute) :
    Protocol w params kind (⟨.prepare w.text, none⟩ :: log) r
      (boundEvents bound ++ executedEvents kind r) := by
  have haccepted : (∃ slots, bound = .ok slots) ↔ Accepted w params (⟨.prepare w.text, none⟩ :: log) :=
    hbound.trans h.accepted_iff.symm
  refine
    { ordered := h.ordered none
      released := ⟨none, log, rfl, fun hn => absurd rfl hn, fun _ => h.released⟩
      binds := (h.given_eq none).symm ▸ hgiven
      executes := fun hx => haccepted.mp (hexecutes ((h.exists_execute_iff none).mp hx))
      succeeds := ?_
      fails := hfails.trans h.firstFailure?_eq.symm
      bound := bound_mem_iff.trans haccepted
      executed := executed_mem_iff }
  rw [h.exists_execute_iff none]
  constructor
  · -- No failure comes first, so there is none in any of the parts.
    intro ho
    have hnone := failure?_eq_none_iff.mpr ho
    rw [hfails, List.head?_eq_none_iff] at hnone
    simp only [List.append_eq_nil_iff] at hnone
    refine ⟨hsucceeds ho, failures_eq_nil_iff.mp ?_⟩
    change failures log = []
    rw [h.eq, failures_append, failures_append, hnone.1.1.1, hnone.1.2, hnone.2]
    rfl
  · rintro ⟨hx, hnone⟩
    obtain ⟨⟨values, hv⟩, -, hranges, hbinds⟩ := hbound.mp (hexecutes hx)
    have hending : failures ending = [] :=
      failures_eq_nil_iff.mpr fun x hx => hnone x (by simp [h.eq, hx])
    rw [← failure?_eq_none_iff, hfails, hv, hranges, hbinds, hending]
    rfl

end Parts

theorem ranged_cases (range : Option Window) :
    (ranged range = [] ∨ ∃ window failure, ranged range = [⟨.range window, failure⟩]) ∧
      failures (ranged range) = [] := by
  cases range with
  | none => exact ⟨.inl rfl, rfl⟩
  | some window => exact ⟨.inr ⟨window, none, rfl⟩, rfl⟩

/-- Once every value is bound, execution and close are each tried once, and the first failure of the two
is that of the run. -/
theorem Binds.protocol {w : WrittenStatement} {params : ParamMap} {values : List Value}
    {binds : List Exchange} {stop : SlotCount} (hv : valuesOf w params = .ok values)
    (hb : Binds 1 (values.zip w.paths) binds (.ok stop)) (kind : StatementKind) (range : Option Window)
    {execution closing : Option QueryError} {r : Except QueryError Outcome}
    (hr : failure? r = (execution.toList ++ closing.toList).head?) :
    Protocol w params kind
      (⟨.prepare w.text, none⟩ ::
        (ranged range ++ binds ++ [⟨.execute, execution⟩, ⟨.close, closing⟩]))
      r (boundEvents (.ok (stop - 1)) ++ executedEvents kind r) := by
  obtain ⟨hranged, hsound⟩ := ranged_cases range
  have hparts : Parts _ (ranged range) binds [⟨.execute, execution⟩, ⟨.close, closing⟩] :=
    ⟨rfl, hranged, hb.stage, _, closing, rfl, .inr ⟨_, rfl⟩⟩
  have hgiven : given binds = toBind w params := by rw [toBind, hv, hb.given_eq]
  have hbinds : failures binds = [] := hb.failures_eq
  have hending : failures [⟨.execute, execution⟩, ⟨.close, closing⟩] =
      execution.toList ++ closing.toList := by
    cases execution <;> cases closing <;> rfl
  refine hparts.protocol kind (hgiven ▸ List.prefix_rfl) ?_ (by simp) ?_ (by simp)
  · simp [hv, hgiven, hsound, hbinds]
  · rw [hsound, hv, hbinds, hending, hr]
    rfl

theorem PreparedCourse.protocol {w : WrittenStatement} {params : ParamMap} {range : Option Window}
    {log : List Exchange} {bound : Except QueryError SlotCount} {r : Except QueryError Outcome}
    (h : PreparedCourse w params range log bound r) (kind : StatementKind) :
    Protocol w params kind (⟨.prepare w.text, none⟩ :: log) r
      (boundEvents bound ++ executedEvents kind r) := by
  obtain ⟨hranged, hsound⟩ := ranged_cases range
  cases h with
  | @unranged window hr e c =>
    have hparts : Parts _ [⟨.range window, some e⟩] [] [⟨.close, c⟩] :=
      ⟨rfl, .inr ⟨_, _, rfl⟩, by simp, [], c, rfl, .inl rfl⟩
    refine hparts.protocol kind List.nil_prefix ?_ (by simp) rfl (by simp)
    simp [failures]
  | @unresolved e hv c =>
    have hparts : Parts (ranged range ++ [⟨.close, c⟩]) (ranged range) [] [⟨.close, c⟩] :=
      ⟨by simp, hranged, by simp, [], c, rfl, .inl rfl⟩
    refine hparts.protocol kind List.nil_prefix ?_ (by simp) ?_ (by simp)
    · simp [hv]
    · rw [hsound, hv]
      rfl
  | @unbound values binds e hv hb c =>
    have hparts : Parts _ (ranged range) binds [⟨.close, c⟩] :=
      ⟨rfl, hranged, hb.stage, [], c, rfl, .inl rfl⟩
    have hgiven : given binds <+: toBind w params := by
      rw [toBind, hv]
      exact hb.given_prefix
    refine hparts.protocol kind hgiven ?_ (by simp) ?_ (by simp)
    · simp [hb.failures_eq, failure?]
    · rw [hsound, hv, hb.failures_eq]
      rfl
  | unexecuted hv hb e c => exact hb.protocol hv kind range rfl
  | unclosed hv hb e => exact hb.protocol hv kind range rfl
  | finished hv hb o => exact hb.protocol hv kind range rfl

theorem Course.protocol {w : WrittenStatement} {params : ParamMap} {range : Option Window}
    {log : List Exchange} {bound : Except QueryError SlotCount} {r : Except QueryError Outcome}
    (h : Course w params range log bound r) (kind : StatementKind) :
    Protocol w params kind log r (boundEvents bound ++ executedEvents kind r) := by
  cases h with
  | prepared h => exact h.protocol kind
  | unprepared e =>
    have hnot : ¬ Accepted w params [⟨.prepare w.text, some e⟩] := fun ha => by
      simpa using ha.taken _ (List.mem_singleton_self _) (by simp [Call.stage])
    exact
      { ordered := List.pairwise_singleton _ _
        released := ⟨some e, [], rfl, fun _ => rfl, fun hn => by cases hn⟩
        binds := List.nil_prefix
        executes := by simp
        succeeds := by simp
        fails := by simp [failure?, firstFailure?, failures, Call.stage]
        bound := bound_mem_iff.trans ⟨by simp, fun ha => absurd ha hnot⟩
        executed := executed_mem_iff }

end QueryText.Execute
