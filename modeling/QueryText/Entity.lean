import QueryText.Text.Words

namespace QueryText

structure Entity where
  typeName : String
  table : String
  schema : Option String
  deriving DecidableEq

namespace Entity

def lastPart (cs : List Char) : List Char :=
  (cs.reverse.takeWhile fun c => c != '.' && c != ':').reverse

def simpleName (e : Entity) : String :=
  String.ofList (lastPart e.typeName.toList)

/-- The entity of a type, stored in the table that the simple type name suggests. -/
def ofType (typeName : String) : Entity :=
  { typeName
    table := Text.Words.upperSnake (String.ofList (lastPart typeName.toList))
    schema := none }

def defaultAlias (e : Entity) : String :=
  Text.Words.camel e.simpleName

end Entity

end QueryText
