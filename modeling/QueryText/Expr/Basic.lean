import QueryText.Dialect.Basic
import QueryText.Operator
import QueryText.Path
import QueryText.Pattern
import QueryText.Select

namespace QueryText

/-- A custom fragment without its arguments: how it is written, in which dialects, and of what kind
the result is. -/
structure Fragment where
  pattern : Pattern
  dialects : Option (List Dialect)
  kind : Kind

namespace Fragment

def supports (f : Fragment) (d : Dialect) : Bool :=
  match f.dialects with
  | none => true
  | some ds => ds.contains d

end Fragment

inductive Expr where
  | path (p : Path)
  | operation (op : Operator) (args : List Expr)
  | constant (v : Value)
  | param (p : Param)
  | custom (f : Fragment) (args : List Expr)
  | subQuery (q : Select Expr)

namespace Expr

mutual

/-- Kind of the result. A sub-query has the kind of its first projection. -/
def kind : Expr → Kind
  | path p => p.kind
  | operation op args => op.resultKind (firstKind args)
  | constant v => v.kind
  | param p => p.kind
  | custom f _ => f.kind
  | subQuery q => projectionKind q

def firstKind : List Expr → Kind
  | [] => .any
  | e :: _ => e.kind

def projectionKind : Select Expr → Kind
  | ⟨_, _, _, _, _, _, projection, _, _, _, _⟩ => firstKind projection

end

def isPredicate (e : Expr) : Bool :=
  e.kind == .bool

/-- Written as one unit, which never needs parentheses around it. -/
def isAtomic : Expr → Bool
  | path _ | constant _ | param _ | subQuery _ => true
  | operation _ _ | custom _ _ => false

def path? : Expr → Option Path
  | path p => some p
  | _ => none

def argsOf? (op : Operator) : Expr → Option (List Expr)
  | operation o args => if o = op then some args else none
  | _ => none

def aliased (target : Expr) (variableName : Path) : Expr :=
  operation .asAlias [target, path variableName]

def and (a b : Expr) : Expr :=
  operation .and [a, b]

def conjoin (existing : Option Expr) (e : Expr) : Expr :=
  match existing with
  | none => e
  | some c => c.and e

end Expr

end QueryText
