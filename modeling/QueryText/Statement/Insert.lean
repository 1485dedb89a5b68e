import QueryText.Execute.Run
import QueryText.Statement.Clause

namespace QueryText

structure Insert where
  config : Config
  target : Path
  columns : List Path
  values : List Expr
  params : ParamMap

namespace Insert

open Render Writer Statement

def of (c : Config) (target : Path) : Insert :=
  ⟨c, target, [], [], .empty⟩

def addColumns (i : Insert) (ps : List Path) : Insert :=
  { i with columns := i.columns ++ ps }

def addValues (i : Insert) (es : List Expr) : Insert :=
  { i with values := i.values ++ es }

def set (i : Insert) (column : Path) (e : Expr) : Insert :=
  { i with columns := i.columns ++ [column], values := i.values ++ [e] }

def populate (i : Insert) (d : Descriptor) (row : List (String × Value)) : Insert × Option QueryError :=
  Statement.populate set d i row

def bind (i : Insert) (p : Param) (v : Value) : Insert :=
  { i with params := i.params.insert p v }

def keyword (r : Rules) : Except QueryError String :=
  match r.grammar, r.keywords.insertInto with
  | .sql, some k => .ok k
  | _, _ => r.unsupported .insert

def write (i : Insert) (keyword : String) (e : Entity) : Writer :=
  text (keyword ++ " ") ++ writeTable e ++
    text " (" ++ separated ", " (i.columns.map fun p => identifier p.name) ++ text ")" ++
    clauseBreak ++ byRules (fun r => text (r.keywords.values ++ " (")) ++
    separated ", " ((i.columns.zip i.values).map fun x => writeAssigned x.1 x.2) ++ text ")"

def written (i : Insert) : Except QueryError WrittenStatement := do
  let e ← targetEntity i.target
  let k ← keyword i.config.rules
  if i.columns.isEmpty then throw (.precondition .nothingToInsert)
  if i.columns.length ≠ i.values.length then
    throw (.arityMismatch i.columns.length i.values.length)
  finish i.config i.params (i.write k e)

def execute {σ : Type} (b : Execute.Backend σ) (i : Insert) (s : σ) : Execute.Report σ UInt64 :=
  Execute.runWritten b i.config .insert i.written i.params s

end Insert

end QueryText
