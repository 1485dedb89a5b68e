import QueryText.Expr.Operations

namespace QueryText

abbrev Condition := Option Expr

namespace Condition

/-- Combines with a further condition; the first one that is present stands alone. -/
def combine (op : Operator) (c d : Condition) : Condition :=
  match c, d with
  | c, none => c
  | none, d => d
  | some a, some b => some (.operation op [a, b])

def and (c d : Condition) : Condition :=
  c.combine .and d

def or (c d : Condition) : Condition :=
  c.combine .or d

def andAnyOf (c : Condition) (ds : List Condition) : Condition :=
  c.and (ds.foldl or none)

def orAllOf (c : Condition) (ds : List Condition) : Condition :=
  c.or (ds.foldl and none)

def negate (c : Condition) : Condition :=
  c.map Expr.not

end Condition

namespace Join

def addCondition (j : Join Expr) (e : Expr) : Join Expr :=
  { j with condition := some (Expr.conjoin j.condition e) }

end Join

namespace Select

def addFilter (q : Select Expr) (e : Expr) : Select Expr :=
  { q with filter := some (Expr.conjoin q.filter e) }

def addHaving (q : Select Expr) (e : Expr) : Select Expr :=
  { q with having := some (Expr.conjoin q.having e) }

def orNoJoin (q : Option (Select Expr)) : Except QueryError (Select Expr) :=
  match q with
  | some q => .ok q
  | none => .error (.precondition .noJoin)

def insertBeforeCurrent (q : Select Expr) (js : List (Join Expr)) : Except QueryError (Select Expr) :=
  orNoJoin (q.insertBeforeCurrent? js)

def addJoinCondition (q : Select Expr) (e : Expr) : Except QueryError (Select Expr) :=
  orNoJoin (q.modifyCurrent? (·.addCondition e))

def addJoinFlag (q : Select Expr) (f : JoinFlag) : Except QueryError (Select Expr) :=
  orNoJoin (q.modifyCurrent? (·.addFlag f))

end Select

end QueryText
