import QueryText.Condition
import QueryText.Descriptor
import QueryText.Statement.Written

namespace QueryText.Statement

open Render Writer

def targetEntity (p : Path) : Except QueryError Entity :=
  match p.rootEntity? with
  | some e => .ok e
  | none => .error (.precondition (.notEntityRoot p))

/-- Statements defer their parameters. In SQL they name columns without the table. -/
def context (c : Config) (params : ParamMap) : Context :=
  { Context.of c.rules .deferring c.literals [params] with bareColumns := c.rules.grammar = .sql }

def writeTable (e : Entity) : Writer :=
  (match e.schema with
    | some s => identifier s ++ text "."
    | none => nothing) ++ identifier e.table

def writeTarget (name : String) (e : Entity) : Writer :=
  byRules fun r =>
    match r.grammar with
    | .sql => writeTable e
    | .jpql => text (e.simpleName ++ " " ++ name)
    | .jdoql => text e.typeName

def aboutTarget (target : Path) (w : Writer) : Writer := fun c =>
  w (if c.rules.grammar = .jdoql then { c with candidate := some target } else c)

def writeFilter (filter : Option Expr) : Writer :=
  match filter with
  | none => nothing
  | some e => Query.clause (·.keywords.filter) e.write

def writeAssigned (column : Path) (e : Expr) : Writer :=
  fun c => e.write { c with compared := some column }

def finish (c : Config) (params : ParamMap) (w : Writer) : Except QueryError WrittenStatement :=
  (w (context c params)).map (.ofChunks c.rules)

/-- The conditions that are present, added to the filter in turn. -/
def addConditions (filter : Option Expr) (cs : List Condition) : Option Expr :=
  cs.foldl Condition.and filter

def field (d : Descriptor) (name : String) : Except QueryError Path :=
  match d.get? name with
  | some p => .ok p
  | none =>
    .error (.unknownField ((d.root.entity?.map (·.simpleName)).getD d.root.dotted) name)

/-- Sets fields by name, in order, up to the first one that is not declared. What is set stays. -/
def populate {α : Type} (set : α → Path → Expr → α) (d : Descriptor) :
    α → List (String × Value) → α × Option QueryError
  | s, [] => (s, none)
  | s, (name, v) :: row =>
    match field d name with
    | .error e => (s, some e)
    | .ok p => populate set d (set s p (.constant v)) row

end QueryText.Statement
