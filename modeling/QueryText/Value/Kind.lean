import QueryText.Entity

namespace QueryText

inductive Kind where
  | any
  | bool
  | int
  | float
  | text
  | date
  | dateTime
  | time
  | bytes
  | entity (name : Entity)
  | collection (element : Kind)
  deriving DecidableEq

namespace Kind

def simple : List Kind :=
  [any, bool, int, float, text, date, dateTime, time, bytes]

def name : Kind → String
  | any => "Any"
  | bool => "Bool"
  | int => "Int"
  | float => "Float"
  | text => "Text"
  | date => "Date"
  | dateTime => "DateTime"
  | time => "Time"
  | bytes => "Bytes"
  | entity e => "Entity(" ++ e.typeName ++ ")"
  | collection k => "Collection(" ++ k.name ++ ")"

def element? : Kind → Option Kind
  | collection k => some k
  | _ => none

def entity? : Kind → Option Entity
  | entity e => some e
  | _ => none

def isCollection (k : Kind) : Bool :=
  k.element?.isSome

end Kind

end QueryText
