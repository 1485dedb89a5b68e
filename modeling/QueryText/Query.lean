import QueryText.Execute.Run
import QueryText.Query.Builder
import QueryText.Render.Preview

namespace QueryText

structure Query where
  builder : Query.Builder
  config : Config

namespace Query

open Execute

def of (c : Config) : Query :=
  ⟨.ofRules c.rules, c⟩

def written (q : Query) : Except QueryError WrittenQuery :=
  q.builder.select.written q.config

def writtenCount (q : Query) : Except QueryError WrittenQuery :=
  q.builder.select.writtenCount q.config

def preview (q : Query) : String :=
  match q.builder.select.preview q.config.rules with
  | .ok s => s
  | .error e => "<unrenderable: " ++ e.message ++ ">"

def externalRange (r : Rules) (w : Window) : Option Window :=
  match r.pagination with
  | .external => if w.isRestricting then some w else none
  | _ => none

variable {σ : Type}

def list (b : Backend σ) (q : Query) (s : σ) : Report σ (List (List Value)) :=
  match q.written with
  | .error e => .failed e s
  | .ok w =>
    let report :=
      run b q.config .select w.statement .empty (externalRange q.config.rules w.window) s
    (report.map fun o => .ok o.toRows).after [w.event .select]

def countOf (rows : List (List Value)) : Except QueryError UInt64 :=
  match rows.head?.bind (·.head?) with
  | some (.uint n) => .ok n
  | some (.int n) =>
    if 0 ≤ n.toInt then .ok n.toUInt64 else .error (.executor (.negativeCount n))
  | v => .error (.executor (.notACount v))

def count (b : Backend σ) (q : Query) (s : σ) : Report σ UInt64 :=
  match q.writtenCount with
  | .error e => .failed e s
  | .ok w =>
    ((run b q.config .count w.statement .empty none s).map fun o => countOf o.toRows).after
      [w.event .count]

end Query

end QueryText
