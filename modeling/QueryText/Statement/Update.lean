import QueryText.Execute.Run
import QueryText.Statement.Clause

namespace QueryText

structure Update where
  config : Config
  target : Path
  assignments : List (Path × Expr)
  filter : Option Expr
  params : ParamMap

namespace Update

open Render Writer Statement

def of (c : Config) (target : Path) : Update :=
  ⟨c, target, [], none, .empty⟩

/-- Assigns to a column. A column that has an assignment keeps its place and gets the new value. -/
def assign (column : Path) (e : Expr) : List (Path × Expr) → List (Path × Expr)
  | [] => [(column, e)]
  | a :: as => if a.1 = column then (column, e) :: as else a :: assign column e as

def set (u : Update) (column : Path) (e : Expr) : Update :=
  { u with assignments := assign column e u.assignments }

def populate (u : Update) (d : Descriptor) (row : List (String × Value)) : Update × Option QueryError :=
  Statement.populate set d u row

def addFilter (u : Update) (cs : List Condition) : Update :=
  { u with filter := addConditions u.filter cs }

def bind (u : Update) (p : Param) (v : Value) : Update :=
  { u with params := u.params.insert p v }

def keyword (r : Rules) : Except QueryError String :=
  match r.keywords.update with
  | some k => .ok k
  | none => r.unsupported .update

def writeAssignment (a : Path × Expr) : Writer :=
  Operand.writePath a.1 ++ text " = " ++ writeAssigned a.1 a.2

def write (u : Update) (keyword : String) (e : Entity) : Writer :=
  text (keyword ++ " ") ++ writeTarget u.target.name e ++
    aboutTarget u.target
      (Query.clause (·.keywords.assign) (separated ", " (u.assignments.map writeAssignment)) ++
        writeFilter u.filter)

def written (u : Update) : Except QueryError WrittenStatement := do
  let e ← targetEntity u.target
  let k ← keyword u.config.rules
  if u.assignments.isEmpty then throw (.precondition .nothingToUpdate)
  finish u.config u.params (u.write k e)

def execute {σ : Type} (b : Execute.Backend σ) (u : Update) (s : σ) : Execute.Report σ UInt64 :=
  Execute.runWritten b u.config .update u.written u.params s

end Update

end QueryText
