import Mathlib.Data.List.Nodup
import QueryText.Proofs.Inserting.Row
import QueryText.Proofs.Populating

namespace QueryText

namespace Statement

/-- The columns of the fields, each with its value, up to the first field that is not declared. -/
def fields (d : Descriptor) (row : List (String × Value)) : List (Path × Expr) :=
  (row.takeWhile fun f => (d.get? f.1).isSome).filterMap fun f => (d.get? f.1).map (·, .constant f.2)

end Statement

namespace Render

end Render

namespace Update

open Render Statement
open QueryText.Insert (Cell)

inductive Call where
  | set (column : Path) (e : Expr)
  | populate (d : Descriptor) (row : List (String × Value))
  | filter (cs : List Condition)
  | bind (p : Param) (v : Value)

namespace Call

def perform (u : Update) : Call → Update
  | set p e => u.set p e
  | populate d row => (u.populate d row).1
  | filter cs => u.addFilter cs
  | bind p v => u.bind p v

/-- What a call assigns, in turn. -/
def assigned : Call → List (Path × Expr)
  | set p e => [(p, e)]
  | populate d row => fields d row
  | filter _ => []
  | bind _ _ => []

end Call

def after (u : Update) (calls : List Call) : Update :=
  calls.foldl Call.perform u

def context (u : Update) : Context :=
  let c := Statement.context u.config u.params
  if c.rules.grammar = .jdoql then { c with candidate := some u.target } else c

theorem rules_context (u : Update) : u.context.rules = u.config.rules := by
  simp only [context]
  split <;> rfl

variable {u : Update}

end Update

end QueryText
