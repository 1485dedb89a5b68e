import QueryText.Dialect.Rules

namespace QueryText.Rules

def hexByte (b : UInt8) : List Char :=
  [Nat.digitChar (b.toNat / 16), Nat.digitChar (b.toNat % 16)]

def wrapped (r : Rules) (form : Option Wrap) (kind content : String) : Except QueryError String :=
  match form with
  | some w => .ok (w.around content)
  | none => r.unsupported (.literal kind)

def quotedText (s : String) : String :=
  Text.Quoted.quote '\x27' s

def floatLiteral (r : Rules) (x : Float) : Except QueryError String :=
  if Decimal.Notation.isFinite x then .ok (Decimal.Notation.floatText x)
  else r.unsupported (.nonFinite x)

mutual

def literal (r : Rules) : Value → Except QueryError String
  | .null => .ok r.literals.null
  | .bool b => .ok (if b then r.literals.true else r.literals.false)
  | .int n => .ok (toString n.toInt)
  | .uint n => .ok (toString n.toNat)
  | .float x => r.floatLiteral x
  | .text s => .ok (quotedText s)
  | .date d => r.wrapped r.literals.date "date" d.text
  | .time t => r.wrapped r.literals.time "time" t.clock
  | .dateTime t => r.wrapped r.literals.dateTime "datetime" t.clock
  | .bytes bs => r.wrapped r.literals.bytes "binary" (String.ofList (bs.flatMap hexByte))
  | .list items =>
    if r.flattensLists then
      match r.literalAll items with
      | .ok texts => .ok ("(" ++ String.intercalate ", " texts ++ ")")
      | .error e => .error e
    else r.unsupported .listLiteral

def literalAll (r : Rules) : List Value → Except QueryError (List String)
  | [] => .ok []
  | v :: vs =>
    match r.literal v with
    | .error e => .error e
    | .ok t =>
      match r.literalAll vs with
      | .error e => .error e
      | .ok ts => .ok (t :: ts)

end

end QueryText.Rules
