import QueryText.Dialect.Presets

namespace QueryText

structure Config where
  rules : Rules
  /-- values are written into the text instead of being bound -/
  literals : Bool
  /-- statements and their slots are traced -/
  debug : Bool

namespace Config

def ofRules (r : Rules) : Config :=
  ⟨r, false, false⟩

def ofDialect (d : Dialect) : Config :=
  ofRules (.ofDialect d)

def standard : Config :=
  ofDialect .ansi

def dialect (c : Config) : Dialect :=
  c.rules.dialect

end Config

end QueryText
