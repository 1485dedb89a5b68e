import QueryText.Condition
import QueryText.Dialect.Rules
import QueryText.Event
import QueryText.Query.AnyPath

namespace QueryText.Query

/-- A query in the making; `nextElement` numbers the variables of normalization. -/
structure Builder where
  select : Select Expr
  normalizing : Bool
  nextElement : Nat

/-- What a call leaves behind: the builder, what it reported, and why it was refused, if it was. -/
structure Step where
  builder : Builder
  events : List Event
  refusal : Option QueryError

namespace Builder

open AnyPath

def empty (normalizing : Bool) : Builder :=
  ⟨.empty, normalizing, 0⟩

def ofRules (r : Rules) : Builder :=
  empty r.joinsAnyPaths

def modify (b : Builder) (f : Select Expr → Select Expr) : Builder :=
  { b with select := f b.select }

def attempt (b : Builder) (f : Select Expr → Except QueryError (Select Expr)) : Step :=
  match f b.select with
  | .ok q => ⟨{ b with select := q }, [], none⟩
  | .error e => ⟨b, [], some e⟩

def sources (b : Builder) (targets : List Expr) : Builder :=
  b.modify fun q => targets.foldl (fun q e => q.addJoin (.of .plain e)) q

def join (b : Builder) (kind : JoinKind) (target : Expr) : Builder :=
  b.modify (·.addJoin (.of kind target))

def joinAs (b : Builder) (kind : JoinKind) (target element : Path) : Builder :=
  b.join kind (.aliased (.path target) element)

def normalized (b : Builder) (e : Expr) : Normalized :=
  if b.normalizing then normalize e b.nextElement else ⟨e, [], b.nextElement⟩

def normalizedEvents (n : Normalized) : List Event :=
  if n.replaced.isEmpty then [] else [.normalized n.replaced.length]

def declared? : Expr → Option Path
  | .path p => if p.isRoot then some p else none
  | .operation .asAlias (_ :: .path v :: _) => some v
  | _ => none

/-- Joins for the elements of its collections have to come before the join that a condition is for,
so the condition must not run through collections of the variable that the join declares. -/
def selfReference? (target : Expr) (n : Normalized) : Option QueryError :=
  match declared? target with
  | none => none
  | some v =>
    (n.replaced.find? fun r => r.collection.rootVariable == v).map fun r =>
      .precondition (.selfReference r.collection v)

/-- Appends a join with its condition, behind the joins that the condition needs. -/
def joinWhen (b : Builder) (kind : JoinKind) (target : Expr) (c : Condition) : Step :=
  match c with
  | none => ⟨b.join kind target, [], none⟩
  | some e =>
    let n := b.normalized e
    let b := { b with nextElement := n.next }
    match selfReference? target n with
    | some refusal => ⟨b, normalizedEvents n, some refusal⟩
    | none =>
      ⟨b.modify fun q =>
          (q.addSyntheticJoins n.joins).addJoin ((Join.of kind target).addCondition n.condition),
        normalizedEvents n, none⟩

/-- Adds a condition to the current join, whose target is given. -/
def joinCondition (b : Builder) (target e : Expr) : Step :=
  let n := b.normalized e
  let b := { b with nextElement := n.next }
  match selfReference? target n with
  | some refusal => ⟨b, normalizedEvents n, some refusal⟩
  | none =>
    let step := b.attempt fun q => do (← q.insertBeforeCurrent n.joins).addJoinCondition n.condition
    { step with events := normalizedEvents n }

/-- Adds conditions to the current join in turn, up to the first refusal. -/
def joinConditions (b : Builder) (target : Expr) : List Condition → Step
  | [] => ⟨b, [], none⟩
  | none :: cs => b.joinConditions target cs
  | some e :: cs =>
    let step := b.joinCondition target e
    match step.refusal with
    | some _ => step
    | none =>
      let rest := step.builder.joinConditions target cs
      { rest with events := step.events ++ rest.events }

def when (b : Builder) (cs : List Condition) : Step :=
  match b.select.currentJoin? with
  | none => ⟨b, [], some (.precondition .noJoin)⟩
  | some j => b.joinConditions j.target cs

def addFlag (b : Builder) (f : JoinFlag) : Step :=
  b.attempt (·.addJoinFlag f)

def fetch (b : Builder) : Step :=
  b.addFlag .fetch

def fetchAll (b : Builder) : Step :=
  b.addFlag .fetchAllProperties

/-- Adds conditions by `add`, each behind the joins that it needs. -/
def addConditions (add : Select Expr → Expr → Select Expr) (b : Builder) : List Condition → Step
  | [] => ⟨b, [], none⟩
  | none :: cs => b.addConditions add cs
  | some e :: cs =>
    let n := b.normalized e
    let rest :=
      addConditions add
        { b with select := add (b.select.addSyntheticJoins n.joins) n.condition, nextElement := n.next } cs
    { rest with events := normalizedEvents n ++ rest.events }

def filter (b : Builder) (cs : List Condition) : Step :=
  b.addConditions .addFilter cs

def having (b : Builder) (cs : List Condition) : Step :=
  b.addConditions .addHaving cs

def groupBy (b : Builder) (es : List Expr) : Builder :=
  b.modify fun q => es.foldl .addGroup q

def orderBy (b : Builder) (os : List (Order Expr)) : Builder :=
  b.modify fun q => os.foldl .addOrder q

def project (b : Builder) (es : List Expr) : Builder :=
  b.modify fun q => es.foldl .addProjection q

def distinct (b : Builder) : Builder :=
  b.modify (·.withDistinct true)

def unique (b : Builder) : Builder :=
  b.modify (·.withUnique true)

def limit (b : Builder) (n : UInt64) : Builder :=
  b.modify fun q => q.withWindow (q.window.withLimit n)

def offset (b : Builder) (n : UInt64) : Builder :=
  b.modify fun q => q.withWindow (q.window.withOffset n)

def restrict (b : Builder) (w : Window) : Builder :=
  b.modify (·.withWindow w)

def bind (b : Builder) (p : Param) (v : Value) : Builder :=
  b.modify (·.bind p v)

end Builder

end QueryText.Query
