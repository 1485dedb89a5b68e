import QueryText.Text.Blank

namespace QueryText

inductive Dialect where
  | ansi
  | derby
  | mysql
  | postgres
  | jpql
  | jdoql
  deriving DecidableEq

namespace Dialect

def all : List Dialect :=
  [ansi, derby, mysql, postgres, jpql, jdoql]

def name : Dialect → String
  | ansi => "ansi"
  | derby => "derby"
  | mysql => "mysql"
  | postgres => "postgres"
  | jpql => "jpql"
  | jdoql => "jdoql"

def asciiLower (s : String) : List Char :=
  s.toList.map Char.toLower

/-- The dialect of that name, whatever the case of its ASCII letters and the blanks around it. -/
def ofName? (s : String) : Option Dialect :=
  all.find? fun d => asciiLower d.name == asciiLower (Text.Blank.trim s)

end Dialect

inductive Grammar where
  | sql
  | jpql
  | jdoql
  deriving DecidableEq

def Grammar.name : Grammar → String
  | sql => "Sql"
  | jpql => "Jpql"
  | jdoql => "Jdoql"

end QueryText
