import QueryText.Dialect.Literal
import QueryText.Fingerprint.Sha256

namespace QueryText.Fingerprint

/-- Four bytes, the most significant first; larger numbers count as the largest that fits. -/
def word (n : Nat) : List UInt8 :=
  Sha256.bytesOf (UInt32.ofNat (min n (UInt32.size - 1)))

def bytes (s : String) : List UInt8 :=
  s.toUTF8.toList

def measured (s : String) : List UInt8 :=
  word (bytes s).length ++ bytes s

def message (d : Dialect) (text : String) (slots : Nat) : List UInt8 :=
  bytes "stmtfp:v1" ++ measured d.name ++ measured text ++ word slots

def hex (bs : List UInt8) : String :=
  String.ofList (bs.flatMap Rules.hexByte)

def compute (d : Dialect) (text : String) (slots : Nat) : String :=
  hex (Sha256.digest (message d text slots))

def short (fingerprint : String) : String :=
  String.ofList (fingerprint.toList.take 8)

end QueryText.Fingerprint
