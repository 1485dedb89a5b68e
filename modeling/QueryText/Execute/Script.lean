import QueryText.Execute.Backend

namespace QueryText.Execute

inductive Call where
  | prepare (text : String)
  | range (w : Window)
  | bind (slot : SlotCount) (path : Option Path) (v : Value)
  | execute
  | close

/-- The outcome of executions, the values that take several slots, the slot that takes no value, and
the calls that fail. -/
structure Script where
  outcome : Outcome
  wide : Option (Kind × Nat)
  rejectedSlot : Option Nat
  rejection : Option String
  prepareFailure : Option String
  executeFailure : Option String
  closeFailure : Option String
  rangeFailure : Option String
  ignoresRange : Bool

abbrev Log := List Call

namespace Script

def failure (reason : String) : ExecutorError :=
  if reason = "closed" then .closed else .backend reason

def answer {α : Type} (failed : Option ExecutorError) (a : α) : Except ExecutorError α :=
  match failed with
  | some e => .error e
  | none => .ok a

def width (s : Script) (v : Value) : SlotCount :=
  match s.wide with
  | some (k, n) => if v.kind = k then n else 1
  | none => 1

def coercionError (s : Script) (slot : SlotCount) (path : Option Path) (v : Value) : CoercionError :=
  match s.rejection with
  | some reason => .rejected slot reason
  | none => .typeMismatch slot ((path.map (·.dotted)).getD "?") v

/-- Calls are logged whether they fail or not, except for values that are not taken. -/
def backend (s : Script) : Backend Log where
  prepare text log := (answer (s.prepareFailure.map .prepare) (), log ++ [.prepare text])
  setRange w log :=
    if s.ignoresRange then (.ok (), log)
    else (answer (s.rangeFailure.map failure) (), log ++ [.range w])
  bind slot path v log :=
    if s.rejectedSlot = some slot.val then (.error (coercionError s slot path v), log)
    else (.ok (width s v), log ++ [.bind slot path v])
  execute log := (answer (s.executeFailure.map failure) s.outcome, log ++ [.execute])
  close log := (answer (s.closeFailure.map failure) (), log ++ [.close])

end Script

end QueryText.Execute
