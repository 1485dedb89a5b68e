import QueryText.Text.ClusterTable
import QueryText.Text.PrintTable

namespace QueryText.Text.Escaped

open ClusterTable PrintTable

def hexDigits (n : Nat) : List Char :=
  Nat.toDigits 16 n

/-- The escape of a code point: its hexadecimal number in braces. -/
def codePoint (c : Char) : List Char :=
  ['\x5c', 'u', '\x7b'] ++ hexDigits c.toNat ++ ['\x7d']

def isHidden (c : Char) : Bool :=
  if c.toNat < 128 then c.toNat < 32 || c.toNat == 127 else hiddenRanges.covers c

/-- The halfwidth sound marks extend the character before them, but have a width and a form of their
own. -/
def isSoundMark (c : Char) : Bool :=
  c.toNat == 0xFF9E || c.toNat == 0xFF9F

def isMark (c : Char) : Bool :=
  c.toNat ≥ 128 && extendRanges.covers c && !isSoundMark c

def doubleQuote : Char :=
  '\x22'

def backslash : Char :=
  '\x5c'

def escapeChar (c : Char) : List Char :=
  if c.toNat == 0 then [backslash, '0']
  else if c == '\t' then [backslash, 't']
  else if c == '\r' then [backslash, 'r']
  else if c == '\n' then [backslash, 'n']
  else if c == backslash || c == doubleQuote then [backslash, c]
  else if isMark c || isHidden c then codePoint c
  else [c]

def quote (s : String) : String :=
  String.ofList (doubleQuote :: s.toList.flatMap escapeChar ++ [doubleQuote])

end QueryText.Text.Escaped
