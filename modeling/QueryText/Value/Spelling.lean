import QueryText.Decimal.Notation
import QueryText.Text.Escaped
import QueryText.Value.Basic

namespace QueryText.Value

open Decimal.Notation

def bracketed (items : List String) : String :=
  "[" ++ String.intercalate ", " items ++ "]"

mutual

def spelling : Value → String
  | null => "Null"
  | bool b => "Bool(" ++ (if b then "true" else "false") ++ ")"
  | int n => "Int(" ++ toString n.toInt ++ ")"
  | uint n => "Uint(" ++ toString n.toNat ++ ")"
  | float x => "Float(" ++ floatText x ++ ")"
  | text s => "Text(" ++ Text.Escaped.quote s ++ ")"
  | date d => "Date(" ++ d.text ++ ")"
  | dateTime t => "DateTime(" ++ t.text ++ ")"
  | time t => "Time(" ++ t.text ++ ")"
  | bytes bs => "Bytes(" ++ bracketed (bs.map fun b => toString b.toNat) ++ ")"
  | list items => "List(" ++ bracketed (spellings items) ++ ")"

def spellings : List Value → List String
  | [] => []
  | v :: vs => v.spelling :: spellings vs

end

def optionSpelling : Option Value → String
  | none => "None"
  | some v => "Some(" ++ v.spelling ++ ")"

end QueryText.Value
