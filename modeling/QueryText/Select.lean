import QueryText.Join
import QueryText.Order
import QueryText.Param
import QueryText.Window

namespace QueryText

/-- A query over expressions of type `α`. The current join is the one that conditions and flags
attach to, by its position. -/
structure Select (α : Type) where
  joins : List (Join α)
  current : Option Nat
  filter : Option α
  having : Option α
  groupBy : List α
  orderBy : List (Order α)
  projection : List α
  distinct : Bool
  unique : Bool
  window : Window
  params : ParamMap

namespace Select

variable {α : Type}

def empty : Select α :=
  { joins := [], current := none, filter := none, having := none, groupBy := [], orderBy := []
    projection := [], distinct := false, unique := false, window := .unrestricted, params := .empty }

def currentJoin? (q : Select α) : Option (Join α) :=
  q.current.bind (q.joins[·]?)

def addJoin (q : Select α) (j : Join α) : Select α :=
  { q with joins := q.joins ++ [j], current := some q.joins.length }

def addSyntheticJoins (q : Select α) (js : List (Join α)) : Select α :=
  { q with joins := q.joins ++ js }

/-- Puts joins in front of the current one, which stays current. -/
def insertBeforeCurrent? (q : Select α) (js : List (Join α)) : Option (Select α) :=
  q.current.map fun i =>
    { q with
      joins := q.joins.take i ++ js ++ q.joins.drop i
      current := some (i + js.length) }

def modifyCurrent? (q : Select α) (f : Join α → Join α) : Option (Select α) :=
  match q.current with
  | none => none
  | some i => (q.joins[i]?).map fun j => { q with joins := q.joins.set i (f j) }

def addGroup (q : Select α) (e : α) : Select α :=
  { q with groupBy := q.groupBy ++ [e] }

def addOrder (q : Select α) (o : Order α) : Select α :=
  { q with orderBy := q.orderBy ++ [o] }

def addProjection (q : Select α) (e : α) : Select α :=
  { q with projection := q.projection ++ [e] }

def withDistinct (q : Select α) (b : Bool) : Select α :=
  { q with distinct := b }

def withUnique (q : Select α) (b : Bool) : Select α :=
  { q with unique := b }

def withWindow (q : Select α) (w : Window) : Select α :=
  { q with window := w }

def bind (q : Select α) (p : Param) (v : Value) : Select α :=
  { q with params := q.params.insert p v }

end Select

end QueryText
