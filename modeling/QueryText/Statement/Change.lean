import QueryText.Statement.Delete
import QueryText.Statement.Insert
import QueryText.Statement.Update

namespace QueryText

inductive Change where
  | insert (i : Insert)
  | update (u : Update)
  | delete (d : Delete)

namespace Change

def kind : Change → StatementKind
  | insert _ => .insert
  | update _ => .update
  | delete _ => .delete

def bind (c : Change) (p : Param) (v : Value) : Change :=
  match c with
  | insert i => insert (i.bind p v)
  | update u => update (u.bind p v)
  | delete d => delete (d.bind p v)

def written : Change → Except QueryError WrittenStatement
  | insert i => i.written
  | update u => u.written
  | delete d => d.written

def execute {σ : Type} (b : Execute.Backend σ) (c : Change) (s : σ) : Execute.Report σ UInt64 :=
  match c with
  | insert i => i.execute b s
  | update u => u.execute b s
  | delete d => d.execute b s

end Change

end QueryText
