import QueryText.Decimal.Notation
import QueryText.Dialect.Basic
import QueryText.Join
import QueryText.Operator
import QueryText.Param
import QueryText.Path
import QueryText.Pattern
import QueryText.Value.Spelling

namespace QueryText

inductive Precondition where
  | noJoin
  | noSource
  | notEntityRoot (path : Path)
  | nothingToInsert
  | nothingToUpdate
  /-- the condition of a join runs through a collection of the variable that the join declares -/
  | selfReference (collection declared : Path)

namespace Precondition

def message : Precondition → String
  | noJoin => "no joins given"
  | noSource => "query has no source"
  | notEntityRoot p => "'" ++ p.dotted ++ "' is not an entity root"
  | nothingToInsert => "no columns to insert"
  | nothingToUpdate => "no columns to update"
  | selfReference c v =>
    "collection any-path over '" ++ c.dotted ++ "' in the condition of the join declaring '" ++ v.name ++ "'"

end Precondition

inductive Construct where
  | operator (op : Operator)
  | operatorSlot (index : Nat) (op : Operator)
  | custom (pattern : Pattern)
  | customSlot (index : Nat) (pattern : Pattern)
  | untypedInstance
  | anyPath (path : Path)
  | keywordlessJoin (kind : JoinKind)
  | undeclaringJoin (kind : JoinKind)
  | aliasWithoutVariable
  | candidate
  | multiColumnCount
  | nullsFirst
  | nullsLast
  | insert
  | update
  | nonFinite (x : Float)
  | literal (kind : String)
  | listLiteral

namespace Construct

def slotText (index : Nat) : String :=
  "slot \x7b" ++ toString index ++ "\x7d"

def message : Construct → String
  | operator op => "operator " ++ op.name
  | operatorSlot n op => slotText n ++ " in the " ++ op.name ++ " pattern"
  | custom p => "custom template '" ++ p.source ++ "'"
  | customSlot n p => slotText n ++ " in custom template '" ++ p.source ++ "'"
  | untypedInstance => "instanceof without an entity type"
  | anyPath p => "collection any-path '" ++ p.dotted ++ "' outside a join"
  | keywordlessJoin k => "join type " ++ k.name
  | undeclaringJoin k => k.name ++ " join"
  | aliasWithoutVariable => "alias join without a variable"
  | candidate => "non-entity candidate"
  | multiColumnCount => "count of a multi-column distinct projection"
  | nullsFirst => "nulls first ordering"
  | nullsLast => "nulls last ordering"
  | insert => "insert"
  | update => "update"
  | nonFinite x => "non-finite float literal " ++ Decimal.Notation.floatText x
  | literal k => k ++ " literal"
  | listLiteral => "inline list literal"

end Construct

inductive CoercionError where
  | typeMismatch (slot : Nat) (target : String) (value : Value)
  | rejected (slot : Nat) (reason : String)

namespace CoercionError

def message : CoercionError → String
  | typeMismatch slot target value =>
    "cannot bind " ++ value.spelling ++ " to " ++ target ++ " at slot " ++ toString slot
  | rejected slot reason => "coercion rejected value at slot " ++ toString slot ++ ": " ++ reason

end CoercionError

/-- A failure of the backend, or an answer of it that is no count. -/
inductive ExecutorError where
  | prepare (reason : String)
  | backend (reason : String)
  | closed
  | negativeCount (n : Int64)
  | notACount (found : Option Value)

namespace ExecutorError

def message : ExecutorError → String
  | prepare r => "failed to prepare statement: " ++ r
  | backend r => "statement backend failure: " ++ r
  | closed => "statement already closed"
  | negativeCount n => "statement backend failure: negative count " ++ toString n.toInt
  | notACount v =>
    "statement backend failure: count query returned " ++ Value.optionSpelling v ++ " instead of a number"

end ExecutorError

inductive QueryError where
  | arityMismatch (paths values : Nat)
  | precondition (missing : Precondition)
  | coercion (e : CoercionError)
  | executor (e : ExecutorError)
  | operatorArity (op : Operator) (actual : Nat)
  | parameterNotSet (p : Param)
  | unknownField (entity field : String)
  | unsupported (construct : Construct) (dialect : Dialect)

/-- What went wrong, for callers that do not look at the details. -/
inductive ErrorKind where
  | config
  | coercion
  | executor
  | notSet
  | precondition
  | unsupported
  deriving DecidableEq

def ErrorKind.name : ErrorKind → String
  | config => "Config"
  | coercion => "Coercion"
  | executor => "Executor"
  | notSet => "NotSet"
  | precondition => "Precondition"
  | unsupported => "Unsupported"

inductive ErrorOrigin where
  | bind
  | builder
  | config
  | execute
  | serialize
  deriving DecidableEq

def ErrorOrigin.name : ErrorOrigin → String
  | bind => "Bind"
  | builder => "Builder"
  | config => "Config"
  | execute => "Execute"
  | serialize => "Serialize"

namespace QueryError

def name : QueryError → String
  | arityMismatch _ _ => "ArityMismatch"
  | precondition _ => "BuilderPrecondition"
  | coercion _ => "Coercion"
  | executor _ => "Executor"
  | operatorArity _ _ => "OperatorArity"
  | parameterNotSet _ => "ParameterNotSet"
  | unknownField _ _ => "UnknownField"
  | unsupported _ _ => "UnsupportedConstruct"

def message : QueryError → String
  | arityMismatch paths values =>
    "expected " ++ toString paths ++ " values for " ++ toString paths ++ " paths, but got " ++ toString values
  | precondition p => "builder precondition violated: " ++ p.message
  | coercion e => e.message
  | executor e => e.message
  | operatorArity op actual =>
    "operator " ++ op.name ++ " takes " ++ toString op.arity ++ " arguments, but got " ++ toString actual
  | parameterNotSet p => "parameter not set: " ++ p.label
  | unknownField entity field => "entity " ++ entity ++ " has no field '" ++ field ++ "'"
  | unsupported c d => c.message ++ " is not supported by the " ++ d.name ++ " dialect"

def kind : QueryError → ErrorKind
  | arityMismatch _ _ | precondition _ | operatorArity _ _ | unknownField _ _ => .precondition
  | parameterNotSet _ => .notSet
  | unsupported _ _ => .unsupported
  | coercion _ => .coercion
  | executor _ => .executor

def origin : QueryError → ErrorOrigin
  | precondition _ | operatorArity _ _ => .builder
  | unsupported _ _ => .serialize
  | arityMismatch _ _ | coercion _ | parameterNotSet _ | unknownField _ _ => .bind
  | executor _ => .execute

end QueryError

end QueryText
