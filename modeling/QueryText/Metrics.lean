import QueryText.Event
import QueryText.Window

namespace QueryText

structure DialectCounters where
  serialized : UInt64
  paramsEmitted : UInt64
  deriving DecidableEq

/-- Counters over all events, and over the written statements of each dialect that has one. -/
structure Metrics where
  normalizeCalls : UInt64
  syntheticJoins : UInt64
  queriesSerialized : UInt64
  statementsSerialized : UInt64
  paramsEmitted : UInt64
  slotsBound : UInt64
  selectCalls : UInt64
  countCalls : UInt64
  insertCalls : UInt64
  updateCalls : UInt64
  deleteCalls : UInt64
  rowsReturned : UInt64
  rowsAffected : UInt64
  dialects : List (Dialect × DialectCounters)
  deriving DecidableEq

namespace Metrics

def zero : Metrics :=
  ⟨0, 0, 0, 0, 0, 0, 0, 0, 0, 0, 0, 0, 0, []⟩

def word (n : Nat) : UInt64 :=
  if n < UInt64.size then UInt64.ofNat n else Window.largest

def raise (counter amount : UInt64) : UInt64 :=
  Window.saturatingAdd counter amount

def raiseDialect (d : Dialect) (params : UInt64) :
    List (Dialect × DialectCounters) → List (Dialect × DialectCounters)
  | [] => [(d, ⟨1, params⟩)]
  | (e, c) :: rest =>
    if e = d then (e, ⟨raise c.serialized 1, raise c.paramsEmitted params⟩) :: rest
    else (e, c) :: raiseDialect d params rest

def countSerialized (kind : StatementKind) (m : Metrics) : Metrics :=
  match kind with
  | .select | .count => { m with queriesSerialized := raise m.queriesSerialized 1 }
  | _ => { m with statementsSerialized := raise m.statementsSerialized 1 }

def countExecuted (kind : StatementKind) (rows : UInt64) (m : Metrics) : Metrics :=
  match kind with
  | .select =>
    { m with selectCalls := raise m.selectCalls 1, rowsReturned := raise m.rowsReturned rows }
  | .count => { m with countCalls := raise m.countCalls 1 }
  | .insert =>
    { m with insertCalls := raise m.insertCalls 1, rowsAffected := raise m.rowsAffected rows }
  | .update =>
    { m with updateCalls := raise m.updateCalls 1, rowsAffected := raise m.rowsAffected rows }
  | .delete =>
    { m with deleteCalls := raise m.deleteCalls 1, rowsAffected := raise m.rowsAffected rows }

def record (m : Metrics) : Event → Metrics
  | .normalized joins =>
    { m with
      normalizeCalls := raise m.normalizeCalls 1
      syntheticJoins := raise m.syntheticJoins (word joins) }
  | .serialized d kind params =>
    { countSerialized kind m with
      paramsEmitted := raise m.paramsEmitted (word params)
      dialects := raiseDialect d (word params) m.dialects }
  | .bound slots => { m with slotsBound := raise m.slotsBound (word slots) }
  | .executed kind rows => countExecuted kind rows m

def counters (m : Metrics) : List (String × UInt64) :=
  [("normalize_calls", m.normalizeCalls), ("synthetic_joins", m.syntheticJoins),
   ("queries_serialized", m.queriesSerialized),
   ("statements_serialized", m.statementsSerialized), ("params_emitted", m.paramsEmitted),
   ("slots_bound", m.slotsBound), ("select_calls", m.selectCalls), ("count_calls", m.countCalls),
   ("insert_calls", m.insertCalls), ("update_calls", m.updateCalls),
   ("delete_calls", m.deleteCalls), ("rows_returned", m.rowsReturned),
   ("rows_affected", m.rowsAffected)]

def ofEvents (events : List Event) : Metrics :=
  events.foldl record zero

end Metrics

end QueryText
