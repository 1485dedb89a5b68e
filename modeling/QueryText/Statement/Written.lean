import QueryText.Config
import QueryText.Event
import QueryText.Fingerprint
import QueryText.Render.Expr

namespace QueryText

open Render

/-- A query whose values are all known. `paths` tells what each value is compared with, and `window`
what is left to the backend to apply. -/
structure WrittenQuery where
  text : String
  params : List Value
  paths : List (Option Path)
  dialect : Dialect
  window : Window

/-- A statement whose values may be known only when its slots are bound. -/
structure WrittenStatement where
  text : String
  bindings : List Binding
  paths : List (Option Path)
  dialect : Dialect

namespace WrittenStatement

def ofChunks (r : Rules) (cs : List Chunk) : WrittenStatement :=
  ⟨Chunk.fullText r cs, Chunk.bindings cs, Chunk.paths cs, r.dialect⟩

def fingerprint (s : WrittenStatement) : String :=
  Fingerprint.compute s.dialect s.text s.bindings.length

def event (s : WrittenStatement) (kind : StatementKind) : Event :=
  .serialized s.dialect kind s.bindings.length

end WrittenStatement

namespace WrittenQuery

/-- The values of bindings, none of which may be left to be looked up. -/
def values : List Binding → Except QueryError (List Value)
  | [] => .ok []
  | .value v :: bs => (values bs).map (v :: ·)
  | .param p :: _ => .error (.parameterNotSet p)

def ofChunks (r : Rules) (w : Window) (cs : List Chunk) : Except QueryError WrittenQuery :=
  (values (Chunk.bindings cs)).map fun vs => ⟨Chunk.fullText r cs, vs, Chunk.paths cs, r.dialect, w⟩

def fingerprint (q : WrittenQuery) : String :=
  Fingerprint.compute q.dialect q.text q.params.length

def event (q : WrittenQuery) (kind : StatementKind) : Event :=
  .serialized q.dialect kind q.params.length

def statement (q : WrittenQuery) : WrittenStatement :=
  ⟨q.text, q.params.map .value, q.paths, q.dialect⟩

end WrittenQuery

namespace Select

def writtenAs (form : Form) (w : Window) (q : Select Expr) (c : Config) : Except QueryError WrittenQuery :=
  match q.write form (.of c.rules .resolving c.literals [q.params]) with
  | .ok cs => WrittenQuery.ofChunks c.rules w cs
  | .error e => .error e

theorem writtenAs_eq_bind (form : Form) (w : Window) (q : Select Expr) (c : Config) :
    q.writtenAs form w c =
      (q.write form (.of c.rules .resolving c.literals [q.params])).bind (WrittenQuery.ofChunks c.rules w) := by
  unfold writtenAs
  cases q.write form (.of c.rules .resolving c.literals [q.params]) <;> rfl

theorem writtenAs_ok_iff {form : Form} {w : Window} {q : Select Expr} {c : Config} {s : WrittenQuery} :
    q.writtenAs form w c = .ok s ↔
      ∃ cs, q.write form (.of c.rules .resolving c.literals [q.params]) = .ok cs ∧
        WrittenQuery.ofChunks c.rules w cs = .ok s := by
  rw [writtenAs_eq_bind]
  cases q.write form (.of c.rules .resolving c.literals [q.params]) <;> simp [Except.bind]

def written (q : Select Expr) (c : Config) : Except QueryError WrittenQuery :=
  q.writtenAs .rows q.window c

def writtenCount (q : Select Expr) (c : Config) : Except QueryError WrittenQuery :=
  q.writtenAs .count .unrestricted c

end Select

end QueryText
