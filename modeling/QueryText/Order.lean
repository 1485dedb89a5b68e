namespace QueryText

inductive Direction where
  | ascending
  | descending
  deriving DecidableEq

def Direction.name : Direction → String
  | ascending => "Asc"
  | descending => "Desc"

inductive NullOrder where
  | unspecified
  | first
  | last
  deriving DecidableEq

def NullOrder.name : NullOrder → String
  | unspecified => "Default"
  | first => "NullsFirst"
  | last => "NullsLast"

structure Order (α : Type) where
  target : α
  direction : Direction
  nulls : NullOrder

end QueryText
