import QueryText.Execute.Backend

namespace QueryText.Execute

/-- The state of a backend, and whether a statement is prepared on it. -/
structure Guard (σ : Type) where
  held : Bool
  state : σ

namespace Guard

variable {σ : Type}

def empty (s : σ) : Guard σ :=
  ⟨false, s⟩

def drop (b : Backend σ) (g : Guard σ) : Guard σ :=
  if g.held then ⟨false, (b.close g.state).2⟩ else g

/-- Prepares a statement, which takes the place of the one there is once that succeeded. -/
def prepare (b : Backend σ) (text : String) (g : Guard σ) : Except ExecutorError Unit × Guard σ :=
  match b.prepare text g.state with
  | (.error e, s) => (.error e, { g with state := s })
  | (.ok _, s) => (.ok (), { (drop b { g with state := s }) with held := true })

def finish (b : Backend σ) (g : Guard σ) : Except ExecutorError Unit × Guard σ :=
  let (r, s) := b.close g.state
  (r, ⟨false, s⟩)

def execute (b : Backend σ) (g : Guard σ) : Except ExecutorError Outcome × Guard σ :=
  let (r, s) := b.execute g.state
  (r, { g with state := s })

def bind (b : Backend σ) (slot : SlotCount) (path : Option Path) (v : Value) (g : Guard σ) :
    Except CoercionError SlotCount × Guard σ :=
  let (r, s) := b.bind slot path v g.state
  (r, { g with state := s })

def setRange (b : Backend σ) (w : Window) (g : Guard σ) : Except ExecutorError Unit × Guard σ :=
  let (r, s) := b.setRange w g.state
  (r, { g with state := s })

def backend (b : Backend σ) : Backend (Guard σ) where
  prepare := prepare b
  setRange := setRange b
  bind := bind b
  execute := execute b
  close := finish b

end Guard

end QueryText.Execute
