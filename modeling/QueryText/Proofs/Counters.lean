import Mathlib.Algebra.BigOperators.Group.List.Basic
import Mathlib.Algebra.GroupWithZero.Nat
import Mathlib.Data.List.Induction
import Mathlib.Data.List.Nodup
import QueryText.Metrics

namespace QueryText

def StatementKind.isQuery : StatementKind → Bool
  | select | count => true
  | insert | update | delete => false

namespace Event

def queries : Event → Nat
  | serialized _ kind _ => if kind.isQuery then 1 else 0
  | _ => 0

def changes : Event → Nat
  | serialized _ kind _ => if kind.isQuery then 0 else 1
  | _ => 0

def written : Event → Nat
  | serialized _ _ _ => 1
  | _ => 0

def params : Event → Nat
  | serialized _ _ n => n
  | _ => 0

def writtenIn (d : Dialect) : Event → Nat
  | serialized e _ _ => if e = d then 1 else 0
  | _ => 0

def paramsIn (d : Dialect) : Event → Nat
  | serialized e _ n => if e = d then n else 0
  | _ => 0

end Event

namespace Metrics

structure Gauge where
  name : String
  read : Metrics → UInt64
  amount : Event → Nat

def gauges : List Gauge :=
  [⟨"normalize_calls", (·.normalizeCalls), fun | .normalized _ => 1 | _ => 0⟩,
   ⟨"synthetic_joins", (·.syntheticJoins), fun | .normalized joins => joins | _ => 0⟩,
   ⟨"queries_serialized", (·.queriesSerialized), Event.queries⟩,
   ⟨"statements_serialized", (·.statementsSerialized), Event.changes⟩,
   ⟨"params_emitted", (·.paramsEmitted), Event.params⟩,
   ⟨"slots_bound", (·.slotsBound), fun | .bound slots => slots | _ => 0⟩,
   ⟨"select_calls", (·.selectCalls), fun | .executed .select _ => 1 | _ => 0⟩,
   ⟨"count_calls", (·.countCalls), fun | .executed .count _ => 1 | _ => 0⟩,
   ⟨"insert_calls", (·.insertCalls), fun | .executed .insert _ => 1 | _ => 0⟩,
   ⟨"update_calls", (·.updateCalls), fun | .executed .update _ => 1 | _ => 0⟩,
   ⟨"delete_calls", (·.deleteCalls), fun | .executed .delete _ => 1 | _ => 0⟩,
   ⟨"rows_returned", (·.rowsReturned), fun | .executed .select rows => rows.toNat | _ => 0⟩,
   ⟨"rows_affected", (·.rowsAffected),
    fun | .executed kind rows => if kind.isQuery then 0 else rows.toNat | _ => 0⟩]

theorem counters_eq (m : Metrics) : m.counters = gauges.map fun g => (g.name, g.read m) := rfl

/-- The counters of a dialect, which are zero before its first statement. -/
def entry (d : Dialect) (m : Metrics) : DialectCounters :=
  (m.dialects.lookup d).getD ⟨0, 0⟩

theorem toNat_word (n : Nat) : (word n).toNat = min n (UInt64.size - 1) := by
  unfold word
  split
  · next h =>
    rw [UInt64.toNat_ofNat_of_lt' h]
    omega
  · have hlargest : Window.largest.toNat = UInt64.size - 1 := by decide
    omega

theorem toNat_raise (a b : UInt64) : (raise a b).toNat = min (a.toNat + b.toNat) (UInt64.size - 1) :=
  Window.toNat_saturatingAdd a b

theorem raise_word (a b : Nat) : raise (word a) (word b) = word (a + b) := by
  apply UInt64.toNat_inj.mp
  rw [toNat_raise, toNat_word, toNat_word, toNat_word]
  omega

theorem word_toNat (n : UInt64) : word n.toNat = n := by
  apply UInt64.toNat_inj.mp
  have := n.toNat_lt_size
  rw [toNat_word]
  omega

theorem raise_zero (n : UInt64) : raise n (word 0) = n := by
  rw [← word_toNat n, raise_word, Nat.add_zero]

theorem zero_raise (n : UInt64) : raise 0 n = n := by
  have hzero : (0 : UInt64) = word 0 := rfl
  rw [← word_toNat n, hzero, raise_word, Nat.zero_add]

theorem toNat_word_of_ne {n : Nat} (h : word n ≠ Window.largest) : (word n).toNat = n := by
  rw [toNat_word]
  unfold word at h
  split at h
  · omega
  · exact absurd rfl h

/-- The counter starts at zero, and each event raises it by its amount. -/
structure Counts (read : Metrics → UInt64) (amount : Event → Nat) : Prop where
  zero : read zero = word 0
  record : ∀ m e, read (m.record e) = raise (read m) (word (amount e))

theorem ofEvents_concat (es : List Event) (e : Event) : ofEvents (es ++ [e]) = (ofEvents es).record e := by
  rw [ofEvents, List.foldl_append]
  rfl

namespace Counts

variable {read : Metrics → UInt64} {amount : Event → Nat}

theorem foldl (h : Counts read amount) (es : List Event) {m : Metrics} {n : Nat} (hm : read m = word n) :
    read (es.foldl Metrics.record m) = word (n + (es.map amount).sum) := by
  induction es generalizing m n with
  | nil => simpa using hm
  | cons e es ih =>
    have hstep : read (m.record e) = word (n + amount e) := by rw [h.record, hm, raise_word]
    rw [List.foldl_cons, ih hstep, List.map_cons, List.sum_cons, Nat.add_assoc]

theorem ofEvents (h : Counts read amount) (es : List Event) :
    read (Metrics.ofEvents es) = word (es.map amount).sum := by
  rw [Metrics.ofEvents, h.foldl es h.zero, Nat.zero_add]

theorem toNat_ofEvents (h : Counts read amount) {es : List Event}
    (hfull : read (Metrics.ofEvents es) ≠ Window.largest) :
    (read (Metrics.ofEvents es)).toNat = (es.map amount).sum := by
  rw [h.ofEvents] at hfull ⊢
  exact toNat_word_of_ne hfull

end Counts

theorem read_record (m : Metrics) (e : Event) :
    ∀ g ∈ gauges, g.read (m.record e) = raise (g.read m) (word (g.amount e)) := by
  have hone : (1 : UInt64) = word 1 := rfl
  cases e with
  | normalized joins => simp [gauges, record, Event.queries, Event.changes, Event.params, raise_zero, hone]
  | serialized d kind n =>
    cases kind <;>
      simp [gauges, record, countSerialized, StatementKind.isQuery, Event.queries, Event.changes, Event.params,
        raise_zero, hone]
  | bound slots => simp [gauges, record, Event.queries, Event.changes, Event.params, raise_zero]
  | executed kind rows =>
    cases kind <;>
      simp [gauges, record, countExecuted, StatementKind.isQuery, Event.queries, Event.changes, Event.params,
        raise_zero, word_toNat, hone]

theorem gauges_count (g : Gauge) (hg : g ∈ gauges) : Counts g.read g.amount where
  zero := by
    have hzero : ∀ g ∈ gauges, g.read zero = word 0 := by simp [gauges, zero, word]
    exact hzero g hg
  record m e := read_record m e g hg

theorem lookup_raiseDialect (d e : Dialect) (params : UInt64) (ds : List (Dialect × DialectCounters)) :
    ((raiseDialect d params ds).lookup e).getD ⟨0, 0⟩ =
      if d = e then
        ⟨raise ((ds.lookup e).getD ⟨0, 0⟩).serialized 1, raise ((ds.lookup e).getD ⟨0, 0⟩).paramsEmitted params⟩
      else (ds.lookup e).getD ⟨0, 0⟩ := by
  induction ds with
  | nil =>
    by_cases hd : d = e
    · simp [raiseDialect, hd, zero_raise]
    · simp [raiseDialect, List.lookup_cons, hd, beq_eq_false_iff_ne.mpr (Ne.symm hd)]
  | cons x ds ih =>
    obtain ⟨f, c⟩ := x
    by_cases hf : f = d
    · subst hf
      by_cases hd : f = e
      · simp [raiseDialect, hd]
      · simp [raiseDialect, List.lookup_cons, hd, beq_eq_false_iff_ne.mpr (Ne.symm hd)]
    · by_cases hd : e = f
      · subst hd
        simp [raiseDialect, hf, Ne.symm hf]
      · simpa [raiseDialect, hf, List.lookup_cons, beq_eq_false_iff_ne.mpr hd] using ih

theorem dialects_serialized (m : Metrics) (d : Dialect) (kind : StatementKind) (n : Nat) :
    (m.record (.serialized d kind n)).dialects = raiseDialect d (word n) m.dialects := by
  cases kind <;> rfl

theorem dialects_executed (m : Metrics) (kind : StatementKind) (rows : UInt64) :
    (m.record (.executed kind rows)).dialects = m.dialects := by
  cases kind <;> rfl

theorem entry_record (d : Dialect) (m : Metrics) (e : Event) :
    (m.record e).entry d =
      ⟨raise (m.entry d).serialized (word (e.writtenIn d)), raise (m.entry d).paramsEmitted (word (e.paramsIn d))⟩ := by
  cases e with
  | serialized d' kind n =>
    have hone : (1 : UInt64) = word 1 := rfl
    rw [entry, dialects_serialized, lookup_raiseDialect]
    by_cases hd : d' = d
    · simp [entry, Event.writtenIn, Event.paramsIn, hd, hone]
    · simp [entry, Event.writtenIn, Event.paramsIn, hd, raise_zero]
  | executed kind rows =>
    rw [entry, dialects_executed]
    simp [entry, Event.writtenIn, Event.paramsIn, raise_zero]
  | normalized n | bound n => simp [record, entry, Event.writtenIn, Event.paramsIn, raise_zero]

theorem mem_keys_raiseDialect {d e : Dialect} {params : UInt64} {ds : List (Dialect × DialectCounters)}
    (h : e ∈ (raiseDialect d params ds).map Prod.fst) : e = d ∨ e ∈ ds.map Prod.fst := by
  induction ds with
  | nil => simpa [raiseDialect] using h
  | cons x ds ih =>
    unfold raiseDialect at h
    split at h
    · exact .inr h
    · obtain rfl | h := List.mem_cons.mp h
      · exact .inr List.mem_cons_self
      · exact (ih h).imp_right (List.mem_cons_of_mem _)

theorem nodup_raiseDialect (d : Dialect) (params : UInt64) {ds : List (Dialect × DialectCounters)}
    (h : (ds.map Prod.fst).Nodup) : ((raiseDialect d params ds).map Prod.fst).Nodup := by
  induction ds with
  | nil => exact List.nodup_singleton d
  | cons x ds ih =>
    obtain ⟨hx, hds⟩ := List.nodup_cons.mp h
    unfold raiseDialect
    split
    · exact h
    · next hne =>
      refine List.nodup_cons.mpr ⟨fun hmem => ?_, ih hds⟩
      obtain heq | hmem := mem_keys_raiseDialect hmem
      · exact hne heq
      · exact hx hmem

theorem nodup_ofEvents (es : List Event) : ((ofEvents es).dialects.map Prod.fst).Nodup := by
  induction es using List.reverseRecOn with
  | nil => exact List.nodup_nil
  | append_singleton es e ih =>
    rw [ofEvents_concat]
    cases e with
    | serialized d kind n =>
      rw [dialects_serialized]
      exact nodup_raiseDialect d (word n) ih
    | executed kind rows => rwa [dialects_executed]
    | normalized n | bound n => exact ih

theorem entry_counts (d : Dialect) :
    Counts (fun m => (m.entry d).serialized) (Event.writtenIn d) ∧
      Counts (fun m => (m.entry d).paramsEmitted) (Event.paramsIn d) :=
  ⟨⟨rfl, fun m e => by rw [entry_record]⟩, ⟨rfl, fun m e => by rw [entry_record]⟩⟩

theorem raise_ne_largest {c : UInt64} {n : Nat} (h : raise c (word n) ≠ Window.largest) :
    c ≠ Window.largest ∧ (raise c (word n)).toNat = c.toNat + n := by
  rw [← word_toNat c, raise_word] at h ⊢
  have hsum := toNat_word_of_ne h
  have hbound := toNat_word (c.toNat + n)
  have hlargest : Window.largest.toNat = UInt64.size - 1 := by decide
  have hc := toNat_word c.toNat
  have hne : (word (c.toNat + n)).toNat ≠ Window.largest.toNat := fun heq => h (UInt64.toNat_inj.mp heq)
  exact ⟨fun heq => by rw [heq] at hc; omega, by omega⟩

/-- A counter that each dialect has, and what an event adds to the one of its dialect. -/
structure DialectCounts (read : DialectCounters → UInt64) (amount : Event → Nat) : Prop where
  zero : read ⟨0, 0⟩ = 0
  raised : ∀ d kind n c, read ⟨raise c.serialized 1, raise c.paramsEmitted (word n)⟩ =
    raise (read c) (word (amount (.serialized d kind n)))
  other : ∀ e, (∀ d kind n, e ≠ .serialized d kind n) → amount e = 0

theorem serialized_dialectCounts : DialectCounts (·.serialized) Event.written where
  zero := rfl
  raised _ _ _ _ := rfl
  other e h := by
    cases e with
    | serialized d kind n => exact absurd rfl (h d kind n)
    | normalized _ | bound _ | executed _ _ => rfl

theorem paramsEmitted_dialectCounts : DialectCounts (·.paramsEmitted) Event.params where
  zero := rfl
  raised _ _ _ _ := rfl
  other e h := by
    cases e with
    | serialized d kind n => exact absurd rfl (h d kind n)
    | normalized _ | bound _ | executed _ _ => rfl

def Open (read : DialectCounters → UInt64) (ds : List (Dialect × DialectCounters)) : Prop :=
  ∀ x ∈ ds, read x.2 ≠ Window.largest

instance (read : DialectCounters → UInt64) (ds : List (Dialect × DialectCounters)) :
    Decidable (Open read ds) :=
  inferInstanceAs (Decidable (∀ x ∈ ds, read x.2 ≠ Window.largest))

def total (read : DialectCounters → UInt64) (ds : List (Dialect × DialectCounters)) : Nat :=
  (ds.map fun x => (read x.2).toNat).sum

namespace DialectCounts

variable {read : DialectCounters → UInt64} {amount : Event → Nat} (h : DialectCounts read amount)
include h

theorem total_raiseDialect (d : Dialect) (kind : StatementKind) (n : Nat)
    (ds : List (Dialect × DialectCounters)) (hopen : Open read (raiseDialect d (word n) ds)) :
    Open read ds ∧
      total read (raiseDialect d (word n) ds) = total read ds + amount (.serialized d kind n) := by
  induction ds with
  | nil =>
    have hnew : read ⟨1, word n⟩ = raise 0 (word (amount (.serialized d kind n))) := by
      have hraised := h.raised d kind n ⟨0, 0⟩
      rwa [h.zero, zero_raise (word n)] at hraised
    have hfull := hopen _ List.mem_cons_self
    rw [hnew] at hfull
    refine ⟨by simp [Open], ?_⟩
    simpa [total, raiseDialect, hnew] using (raise_ne_largest hfull).2
  | cons x ds ih =>
    obtain ⟨e, c⟩ := x
    by_cases he : e = d
    · simp only [raiseDialect, if_pos he] at hopen ⊢
      obtain ⟨hc, hds⟩ := List.forall_mem_cons.mp hopen
      rw [h.raised d kind n c] at hc
      obtain ⟨hold, hsum⟩ := raise_ne_largest hc
      refine ⟨List.forall_mem_cons.mpr ⟨hold, hds⟩, ?_⟩
      simp only [total, List.map_cons, List.sum_cons, h.raised d kind n c, hsum]
      omega
    · simp only [raiseDialect, if_neg he] at hopen ⊢
      obtain ⟨hc, hds⟩ := List.forall_mem_cons.mp hopen
      obtain ⟨hold, hsum⟩ := ih hds
      refine ⟨List.forall_mem_cons.mpr ⟨hc, hold⟩, ?_⟩
      simp only [total, List.map_cons, List.sum_cons] at hsum ⊢
      omega

theorem total_record (m : Metrics) (e : Event) (hopen : Open read (m.record e).dialects) :
    Open read m.dialects ∧ total read (m.record e).dialects = total read m.dialects + amount e := by
  cases e with
  | serialized d kind n =>
    rw [dialects_serialized] at hopen ⊢
    exact h.total_raiseDialect d kind n m.dialects hopen
  | executed kind rows =>
    rw [dialects_executed] at hopen ⊢
    rw [h.other _ (by simp), Nat.add_zero]
    exact ⟨hopen, rfl⟩
  | normalized n | bound n =>
    rw [h.other _ (by simp), Nat.add_zero]
    exact ⟨hopen, rfl⟩

theorem total_ofEvents (es : List Event) (hopen : Open read (Metrics.ofEvents es).dialects) :
    total read (Metrics.ofEvents es).dialects = (es.map amount).sum := by
  induction es using List.reverseRecOn with
  | nil => rfl
  | append_singleton es e ih =>
    rw [ofEvents_concat] at hopen ⊢
    obtain ⟨hold, hsum⟩ := h.total_record _ e hopen
    rw [hsum, ih hold]
    simp

end DialectCounts

/-- What happens to the counters. -/
inductive Step where
  | event (e : Event)
  | reset

namespace Step

def perform (m : Metrics) : Step → Metrics
  | event e => m.record e
  | reset => zero

/-- The events since the last reset, where `es` are those before the step. -/
def since (es : List Event) : Step → List Event
  | event e => es ++ [e]
  | reset => []

end Step

def after (steps : List Step) : Metrics :=
  steps.foldl Step.perform zero

def sinceReset (steps : List Step) : List Event :=
  steps.foldl Step.since []

theorem perform_ofEvents (es : List Event) (s : Step) : s.perform (ofEvents es) = ofEvents (s.since es) := by
  cases s with
  | event e => exact (ofEvents_concat es e).symm
  | reset => rfl

theorem after_eq (steps : List Step) : after steps = ofEvents (sinceReset steps) := by
  have hfold : ∀ es, steps.foldl Step.perform (ofEvents es) = ofEvents (steps.foldl Step.since es) := by
    induction steps with
    | nil => exact fun _ => rfl
    | cons s steps ih =>
      intro es
      rw [List.foldl_cons, perform_ofEvents, ih, List.foldl_cons]
  exact hfold []

/-- No counter has reached the largest number. -/
structure Unfilled (m : Metrics) : Prop where
  counters : ∀ c ∈ m.counters, c.2 ≠ Window.largest
  serialized : Open (·.serialized) m.dialects
  paramsEmitted : Open (·.paramsEmitted) m.dialects

/-- The counters of the dialects add up, and each counter tells what the events amount to. -/
structure Consistent (m : Metrics) (es : List Event) : Prop where
  distinct : (m.dialects.map Prod.fst).Nodup
  written : m.queriesSerialized.toNat + m.statementsSerialized.toNat = total (·.serialized) m.dialects
  params : m.paramsEmitted.toNat = total (·.paramsEmitted) m.dialects
  counters : ∀ g ∈ gauges, (g.read m).toNat = (es.map g.amount).sum
  serialized : ∀ d, (m.entry d).serialized.toNat = (es.map (Event.writtenIn d)).sum
  paramsEmitted : ∀ d, (m.entry d).paramsEmitted.toNat = (es.map (Event.paramsIn d)).sum

theorem Open.entry {read : DialectCounters → UInt64} {m : Metrics} (h : Open read m.dialects)
    (hzero : read ⟨0, 0⟩ = 0) (d : Dialect) : read (m.entry d) ≠ Window.largest := by
  unfold Metrics.entry
  generalize m.dialects = ds at h
  induction ds with
  | nil =>
    rw [List.lookup_nil, Option.getD_none, hzero]
    decide
  | cons x ds ih =>
    obtain ⟨hx, hds⟩ := List.forall_mem_cons.mp h
    rw [List.lookup_cons]
    split
    · exact hx
    · exact ih hds

theorem sum_written (es : List Event) :
    (es.map Event.written).sum = (es.map Event.queries).sum + (es.map Event.changes).sum := by
  have hwritten : Event.written = fun e => e.queries + e.changes := by
    funext e
    cases e with
    | serialized d kind n => cases kind <;> rfl
    | normalized _ | bound _ | executed _ _ => rfl
  rw [hwritten, List.sum_map_add]

/-- Only the events since the last reset matter, so that a counter that was full before it does no harm. -/
theorem after_consistent (steps : List Step) (h : (after steps).Unfilled) :
    Consistent (after steps) (sinceReset steps) := by
  rw [after_eq] at h ⊢
  generalize sinceReset steps = es at h ⊢
  have hcounters : ∀ g ∈ gauges, (g.read (ofEvents es)).toNat = (es.map g.amount).sum := by
    intro g hg
    refine (gauges_count g hg).toNat_ofEvents (h.counters (g.name, g.read (ofEvents es)) ?_)
    rw [counters_eq]
    exact List.mem_map_of_mem hg
  refine ⟨nodup_ofEvents es, ?_, ?_, hcounters, fun d => ?_, fun d => ?_⟩
  · have hqueries : (ofEvents es).queriesSerialized.toNat = (es.map Event.queries).sum :=
      hcounters gauges[2] (List.getElem_mem _)
    have hchanges : (ofEvents es).statementsSerialized.toNat = (es.map Event.changes).sum :=
      hcounters gauges[3] (List.getElem_mem _)
    rw [serialized_dialectCounts.total_ofEvents es h.serialized, sum_written, hqueries, hchanges]
  · have hparams : (ofEvents es).paramsEmitted.toNat = (es.map Event.params).sum :=
      hcounters gauges[4] (List.getElem_mem _)
    rw [paramsEmitted_dialectCounts.total_ofEvents es h.paramsEmitted, hparams]
  · exact (entry_counts d).1.toNat_ofEvents (h.serialized.entry rfl d)
  · exact (entry_counts d).2.toNat_ofEvents (h.paramsEmitted.entry rfl d)

/-- A counter that is full, a reset, and then three statements and a run of one of them. -/
def resetSteps : List Step :=
  [.event (.bound UInt64.size), .reset, .event (.serialized .jpql .select 4),
    .event (.serialized .ansi .delete 1), .event (.executed .delete 7), .event (.serialized .jpql .count 2)]

theorem after_consistent_resetSteps :
    (after resetSteps).Unfilled ∧ Consistent (after resetSteps) (sinceReset resetSteps) := by
  have h : (after resetSteps).Unfilled := ⟨by decide, by decide, by decide⟩
  exact ⟨h, after_consistent resetSteps h⟩

end Metrics

end QueryText
