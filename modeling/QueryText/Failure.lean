import QueryText.Config.Settings
import QueryText.Error

namespace QueryText

inductive Failure where
  | query (e : QueryError)
  | config (e : ConfigError)

namespace Failure

def name : Failure → String
  | query e => e.name
  | config e => e.name

def kind : Failure → ErrorKind
  | query e => e.kind
  | config _ => .config

def origin : Failure → ErrorOrigin
  | query e => e.origin
  | config _ => .config

def message : Failure → String
  | query e => e.message
  | config e => e.message

end Failure

end QueryText
