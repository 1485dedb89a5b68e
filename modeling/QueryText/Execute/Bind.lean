import QueryText.Event
import QueryText.Execute.Backend
import QueryText.Render.Chunk

namespace QueryText.Execute

variable {σ : Type}

/-- The values of bindings; a parameter without a value is refused. -/
def resolveAll (params : ParamMap) : List Binding → Except QueryError (List Value)
  | [] => .ok []
  | .value v :: bs => (resolveAll params bs).map (v :: ·)
  | .param p :: bs =>
    match params.get? p with
    | none => .error (.parameterNotSet p)
    | some v => (resolveAll params bs).map (v :: ·)

/-- Binds values in turn from that slot on, and tells the first slot after them. -/
def bindFrom (b : Backend σ) (slot : SlotCount) :
    List (Value × Option Path) → σ → Except QueryError SlotCount × σ
  | [], s => (.ok slot, s)
  | (v, p) :: rest, s =>
    match b.bind slot p v s with
    | (.error e, s) => (.error (.coercion e), s)
    | (.ok width, s) => bindFrom b (slot + width) rest s

/-- Binds all values and tells how many slots they took. Before anything is bound, there has to be a
path entry for each binding, and a value for each parameter. -/
def bindAll (b : Backend σ) (bindings : List Binding) (paths : List (Option Path)) (params : ParamMap)
    (s : σ) : Except QueryError SlotCount × σ :=
  if bindings.length ≠ paths.length then (.error (.arityMismatch paths.length bindings.length), s)
  else
    match resolveAll params bindings with
    | .error e => (.error e, s)
    | .ok values =>
      match bindFrom b 1 (values.zip paths) s with
      | (.error e, s) => (.error e, s)
      | (.ok stop, s) => (.ok (stop - 1), s)

def boundEvents : Except QueryError SlotCount → List Event
  | .ok slots => [.bound slots]
  | .error _ => []

end QueryText.Execute
