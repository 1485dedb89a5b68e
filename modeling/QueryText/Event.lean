import QueryText.Dialect.Basic

namespace QueryText

inductive StatementKind where
  | select
  | count
  | insert
  | update
  | delete
  deriving DecidableEq

namespace StatementKind

def name : StatementKind → String
  | select => "Select"
  | count => "Count"
  | insert => "Insert"
  | update => "Update"
  | delete => "Delete"

end StatementKind

inductive Event where
  | normalized (joins : Nat)
  | serialized (dialect : Dialect) (kind : StatementKind) (params : Nat)
  | bound (slots : Nat)
  | executed (kind : StatementKind) (rows : UInt64)
  deriving DecidableEq

end QueryText
