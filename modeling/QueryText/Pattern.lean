import QueryText.Decimal.Digits
import QueryText.Text.Blank
import QueryText.Text.Escaped

namespace QueryText

inductive Affix where
  | bare
  | leading
  | trailing
  | both
  deriving DecidableEq

namespace Affix

def name : Affix → String
  | bare => "None"
  | leading => "Prefix"
  | trailing => "Suffix"
  | both => "Both"

def ofMarks : Bool → Bool → Affix
  | false, false => bare
  | true, false => leading
  | false, true => trailing
  | true, true => both

def apply (a : Affix) (s : String) : String :=
  match a with
  | bare => s
  | leading => "%" ++ s
  | trailing => s ++ "%"
  | both => "%" ++ s ++ "%"

end Affix

namespace Pattern

structure Slot where
  index : Nat
  affix : Affix
  deriving DecidableEq

def indexBound : Nat :=
  UInt64.size

/-- A pattern character by character, its slots recognized. -/
inductive Piece where
  | char (c : Char)
  | slot (s : Slot)
  deriving DecidableEq

def openBrace : Char :=
  '\x7b'

def closeBrace : Char :=
  '\x7d'

def splitMark : List Char → Bool × List Char
  | '%' :: cs => (true, cs)
  | cs => (false, cs)

/-- The slot between two braces: a number that fits, with or without percent signs around it. -/
def Slot.ofBody? (body : List Char) : Option Slot :=
  let (leading, rest) := splitMark body
  let (trailing, reversed) := splitMark rest.reverse
  let digits := reversed.reverse
  if !digits.isEmpty && digits.all Char.isDigit && Decimal.Digits.number digits < indexBound then
    some ⟨Decimal.Digits.number digits, .ofMarks leading trailing⟩
  else none

def literal (body : List Char) : List Piece :=
  .char openBrace :: body.map .char

/-- Pieces of a pattern. The first argument holds the characters since an open brace that has not
met another brace yet, the last one first. -/
def scan : Option (List Char) → List Char → List Piece
  | none, [] => []
  | some body, [] => literal body.reverse
  | none, c :: cs => if c == openBrace then scan (some []) cs else .char c :: scan none cs
  | some body, c :: cs =>
    if c == openBrace then literal body.reverse ++ scan (some []) cs
    else if c == closeBrace then
      match Slot.ofBody? body.reverse with
      | some s => .slot s :: scan none cs
      | none => literal body.reverse ++ .char c :: scan none cs
    else scan (some (c :: body)) cs

/-- A stretch of text, or a slot. A slot is enclosed when it stands between call parentheses or
commas, where its argument needs no grouping. -/
inductive Element where
  | text (s : List Char)
  | slot (s : Slot) (enclosed : Bool)
  deriving DecidableEq

def gather : List Piece → List Element
  | [] => []
  | .slot s :: ps => .slot s false :: gather ps
  | .char c :: ps =>
    match gather ps with
    | .text t :: es => .text (c :: t) :: es
    | es => .text [c] :: es

/-- The text ends, blanks aside, with a parenthesis or comma that opens an argument. -/
def opensArgument (t : List Char) : Bool :=
  match t.reverse.dropWhile Text.Blank.isBlank with
  | '(' :: _ | ',' :: _ => true
  | _ => false

/-- The text starts, blanks aside, with a parenthesis or comma that closes an argument. -/
def closesArgument (t : List Char) : Bool :=
  match t.dropWhile Text.Blank.isBlank with
  | ')' :: _ | ',' :: _ => true
  | _ => false

/-- Finds the enclosed slots, given whether the text before opens an argument. -/
def markEnclosed (opened : Bool) : List Element → List Element
  | [] => []
  | .text t :: es => .text t :: markEnclosed (opensArgument t) es
  | .slot s _ :: .text t :: es =>
    .slot s (opened && closesArgument t) :: markEnclosed false (.text t :: es)
  | .slot s _ :: es => .slot s false :: markEnclosed false es

def parse (source : List Char) : List Element :=
  markEnclosed false (gather (scan none source))

end Pattern

/-- A pattern is its source; two patterns are the same when their sources are. -/
structure Pattern where
  source : String
  deriving DecidableEq

namespace Pattern

def elements (p : Pattern) : List Element :=
  parse p.source.toList

def spelling (p : Pattern) : String :=
  "Template(" ++ Text.Escaped.quote p.source ++ ")"

def argCount (p : Pattern) : Nat :=
  p.elements.foldl
    (fun n e =>
      match e with
      | .text _ => n
      | .slot s _ => max n (s.index + 1)) 0

def singleLine (p : Pattern) : Pattern :=
  ⟨String.ofList (p.source.toList.map fun c => if c == '\n' then ' ' else c)⟩

def closesAtEnd (depth : Nat) : List Char → Bool
  | [] => false
  | c :: cs =>
    if c == '(' then closesAtEnd (depth + 1) cs
    else if c == ')' then if depth ≤ 1 then cs.isEmpty else closesAtEnd (depth - 1) cs
    else closesAtEnd depth cs

def isCallName (c : Char) : Bool :=
  c.isAlphanum || c == '_' || c == '.'

/-- The pattern is one call: a name, then parentheses up to the end. -/
def isCall (p : Pattern) : Bool :=
  let cs := p.source.toList
  let name := cs.takeWhile (· != '(')
  !name.isEmpty && name.all isCallName && closesAtEnd 0 (cs.drop name.length)

end Pattern

end QueryText
