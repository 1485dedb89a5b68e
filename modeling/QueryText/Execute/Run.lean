import QueryText.Execute.Bind
import QueryText.Execute.Guard
import QueryText.Statement.Written

namespace QueryText.Execute

variable {σ : Type}

/-- What a run leaves behind: its result, the state of the backend, what was reported, and the lines
of the trace. -/
structure Report (σ α : Type) where
  result : Except QueryError α
  state : σ
  events : List Event
  trace : List String

namespace Report

variable {α β : Type}

def failed (e : QueryError) (s : σ) : Report σ α :=
  ⟨.error e, s, [], []⟩

/-- The report of a continuation, behind what was reported before it. -/
def after (events : List Event) (r : Report σ α) : Report σ α :=
  { r with events := events ++ r.events }

def map (f : α → Except QueryError β) (r : Report σ α) : Report σ β :=
  ⟨r.result.bind f, r.state, r.events, r.trace⟩

end Report

def liftError {α : Type} : Except ExecutorError α → Except QueryError α
  | .ok a => .ok a
  | .error e => .error (.executor e)

def setRange? (b : Backend σ) (range : Option Window) (s : σ) : Except QueryError Unit × σ :=
  match range with
  | none => (.ok (), s)
  | some w =>
    let (r, s) := b.setRange w s
    (liftError r, s)

/-- Executes a statement whose slots are bound, and closes it. Where the execution fails, the statement
stays in its place. -/
def executeHeld (b : Backend σ) (g : Guard σ) : Except QueryError Outcome × Guard σ :=
  match g.execute b with
  | (.error e, g) => (.error (.executor e), g)
  | (.ok o, g) =>
    match g.finish b with
    | (.error e, g) => (.error (.executor e), g)
    | (.ok _, g) => (.ok o, g)

/-- The part of a run with a prepared statement: the slots bound, if they could be bound, and the
outcome. -/
def runHeld (b : Backend σ) (w : WrittenStatement) (params : ParamMap) (range : Option Window)
    (g : Guard σ) : Except QueryError SlotCount × Except QueryError Outcome × Guard σ :=
  match setRange? (Guard.backend b) range g with
  | (.error e, g) => (.error e, .error e, g)
  | (.ok _, g) =>
    match bindAll (Guard.backend b) w.bindings w.paths params g with
    | (.error e, g) => (.error e, .error e, g)
    | (.ok slots, g) =>
      let (r, g) := executeHeld b g
      (.ok slots, r, g)

def executedEvents (kind : StatementKind) : Except QueryError Outcome → List Event
  | .ok o => [.executed kind o.count]
  | .error _ => []

def openingLine (kind : StatementKind) (w : WrittenStatement) : String :=
  "[debug] " ++ kind.name ++ " [" ++ Fingerprint.short w.fingerprint ++ "] " ++ w.text

def closingLine (w : WrittenStatement) (slots : SlotCount) (o : Outcome) : String :=
  "[debug] [" ++ Fingerprint.short w.fingerprint ++ "] bound " ++ toString slots.val ++ " slot(s), "
    ++ toString o.count.toNat ++ " row(s)"

def closingLines (w : WrittenStatement) :
    Except QueryError SlotCount → Except QueryError Outcome → List String
  | .ok slots, .ok o => [closingLine w slots o]
  | _, _ => []

def traced (c : Config) (lines : List String) : List String :=
  if c.debug then lines else []

/-- Runs a statement. However the run ends, it leaves the place that it held the statement in. -/
def run (b : Backend σ) (c : Config) (kind : StatementKind) (w : WrittenStatement) (params : ParamMap)
    (range : Option Window) (s : σ) : Report σ Outcome :=
  match (Guard.empty s).prepare b w.text with
  | (.error e, g) =>
    { result := .error (.executor e), state := g.state, events := [], trace := traced c [openingLine kind w] }
  | (.ok _, g) =>
    let (bound, result, g) := runHeld b w params range g
    { result
      state := (g.drop b).state
      events := boundEvents bound ++ executedEvents kind result
      trace := traced c (openingLine kind w :: closingLines w bound result) }

def runWritten (b : Backend σ) (c : Config) (kind : StatementKind)
    (w : Except QueryError WrittenStatement) (params : ParamMap) (s : σ) : Report σ UInt64 :=
  match w with
  | .error e => .failed e s
  | .ok w => ((run b c kind w params none s).map fun o => .ok o.count).after [w.event kind]

end QueryText.Execute
