import QueryText.Calendar
import QueryText.Value.Kind

namespace QueryText

inductive Value where
  | null
  | bool (b : Bool)
  | int (n : Int64)
  | uint (n : UInt64)
  | float (x : Float)
  | text (s : String)
  | date (d : Date)
  | dateTime (t : DateTime)
  | time (t : Time)
  | bytes (bs : List UInt8)
  | list (items : List Value)

namespace Value

mutual

/-- Equality of structure; numbers of floating point compare as numbers. -/
def beq : Value → Value → Bool
  | null, null => true
  | bool a, bool b => a == b
  | int a, int b => a == b
  | uint a, uint b => a == b
  | float a, float b => a == b
  | text a, text b => a == b
  | date a, date b => a == b
  | dateTime a, dateTime b => a == b
  | time a, time b => a == b
  | bytes a, bytes b => a == b
  | list as, list bs => beqAll as bs
  | _, _ => false

def beqAll : List Value → List Value → Bool
  | [], [] => true
  | a :: as, b :: bs => beq a b && beqAll as bs
  | _, _ => false

end

instance : BEq Value := ⟨beq⟩

def isNull : Value → Bool
  | null => true
  | _ => false

def text? : Value → Option String
  | text s => some s
  | _ => none

def items? : Value → Option (List Value)
  | list items => some items
  | _ => none

def isEmptyList : Value → Bool
  | list [] => true
  | _ => false

/-- A list has the kind of its first element; nothing is known of nulls and of empty lists. -/
def kind : Value → Kind
  | null => .any
  | bool _ => .bool
  | int _ => .int
  | uint _ => .int
  | float _ => .float
  | text _ => .text
  | date _ => .date
  | dateTime _ => .dateTime
  | time _ => .time
  | bytes _ => .bytes
  | list [] => .collection .any
  | list (v :: _) => .collection v.kind

end Value

end QueryText
