import QueryText.Text.LetterTable

namespace QueryText.Text.LetterCase

open LetterTable

/-- The other case of `c` beyond ASCII: a listed sequence, a run's shift, or `c` itself. -/
def mapLetter (sequences : List (Nat × List Nat)) (runs : List CaseRun) (c : Char) : List Char :=
  match sequences.find? (·.1 == c.toNat), runs.find? (·.contains c.toNat) with
  | some s, _ => s.2.map Char.ofNat
  | none, some r => [Char.ofNat (c.toNat + r.shift).toNat]
  | none, none => [c]

def upperChar (c : Char) : List Char :=
  if c.toNat < 128 then [c.toUpper] else mapLetter upperSequences upperRuns c

def lowerChar (c : Char) : List Char :=
  if c.toNat < 128 then [c.toLower] else mapLetter lowerSequences lowerRuns c

/-- Characters that the rule of the final sigma looks past; in ASCII the apostrophe, the full stop,
the colon, the circumflex and the grave accent. -/
def isIgnorable (c : Char) : Bool :=
  if c.toNat < 128 then [39, 46, 58, 94, 96].contains c.toNat else ignorableRanges.covers c

def isCased (c : Char) : Bool :=
  if c.toNat < 128 then c.isAlpha else casedRanges.covers c

def startsCased (cs : List Char) : Bool :=
  ((cs.dropWhile isIgnorable).head?.map isCased).getD false

def capitalSigma : Char := Char.ofNat 0x3A3

def finalSigma : Char := Char.ofNat 0x3C2

/-- Lower case of `cs` after the characters `before`, the nearest first. -/
def lowerFrom (before : List Char) : List Char → List Char
  | [] => []
  | c :: cs =>
    (if c == capitalSigma && startsCased before && !startsCased cs then [finalSigma] else lowerChar c)
      ++ lowerFrom (c :: before) cs

def upper (cs : List Char) : List Char :=
  cs.flatMap upperChar

def lower (cs : List Char) : List Char :=
  lowerFrom [] cs

def isUpper (cs : List Char) : Bool :=
  upper cs != lower cs && cs == upper cs

def isLower (cs : List Char) : Bool :=
  upper cs != lower cs && cs == lower cs

end QueryText.Text.LetterCase
