import QueryText.Execute.Run
import QueryText.Statement.Clause

namespace QueryText

structure Delete where
  config : Config
  target : Path
  filter : Option Expr
  params : ParamMap

namespace Delete

open Render Writer Statement

def of (c : Config) (target : Path) : Delete :=
  ⟨c, target, none, .empty⟩

def addFilter (d : Delete) (cs : List Condition) : Delete :=
  { d with filter := addConditions d.filter cs }

def bind (d : Delete) (p : Param) (v : Value) : Delete :=
  { d with params := d.params.insert p v }

def write (d : Delete) (e : Entity) : Writer :=
  byRules (fun r => text (r.keywords.deleteFrom ++ " ")) ++ writeTarget d.target.name e ++
    aboutTarget d.target (writeFilter d.filter)

def written (d : Delete) : Except QueryError WrittenStatement := do
  let e ← targetEntity d.target
  finish d.config d.params (d.write e)

def execute {σ : Type} (b : Execute.Backend σ) (d : Delete) (s : σ) : Execute.Report σ UInt64 :=
  Execute.runWritten b d.config .delete d.written d.params s

end Delete

end QueryText
