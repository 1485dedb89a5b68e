import QueryText.Text.Cluster
import QueryText.Text.LetterCase

namespace QueryText.Text.Words

open LetterCase Cluster

def isSeparator (k : List Char) : Bool :=
  k == ['_'] || k == ['-'] || k == [' ']

def isDigits (k : List Char) : Bool :=
  k.all Char.isDigit

def endsWord (a : List Char) (rest : List (List Char)) : Bool :=
  match rest with
  | [] => false
  | b :: rest =>
    isLower a && isUpper b || isUpper a && isDigits b || isLower a && isDigits b ||
      isDigits a && isUpper b || isDigits a && isLower b ||
      isUpper a && isUpper b && (rest.head?.map isLower).getD false

/-- The words of a cluster list; between two separators stands an empty word. -/
def splitClusters : List (List Char) → List (List Char)
  | [] => [[]]
  | k :: ks =>
    match splitClusters ks with
    | [] => []
    | w :: ws =>
      if isSeparator k then [] :: w :: ws
      else if endsWord k ks then k :: w :: ws
      else (k ++ w) :: ws

def words (cs : List Char) : List (List Char) :=
  if cs.isEmpty then [] else splitClusters (clusters cs)

/-- First character in upper case, the rest in lower case; a mark on the first character belongs to the
rest. -/
def capitalize : List Char → List Char
  | [] => []
  | c :: cs => upperChar c ++ lower cs

def joinWith (separator : List Char) (ws : List (List Char)) : List Char :=
  (ws.intersperse separator).flatten

/-- Words in upper case, joined by underscores: `OrderLine` gives `ORDER_LINE`. -/
def upperSnake (s : String) : String :=
  String.ofList (joinWith ['_'] ((words s.toList).map upper))

/-- The first word in lower case, the others capitalized: `OrderLine` gives `orderLine`. -/
def camel (s : String) : String :=
  match words s.toList with
  | [] => ""
  | w :: ws => String.ofList (lower w ++ (ws.map capitalize).flatten)

end QueryText.Text.Words
