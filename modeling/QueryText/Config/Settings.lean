import QueryText.Config

namespace QueryText

structure Settings where
  dialect : String
  useLiterals : Bool
  singleSpace : Bool
  debug : Bool

/-- A document that cannot be read as settings, or a dialect that nobody knows. -/
inductive ConfigError where
  | parse
  | unknownDialect (name : String)

namespace ConfigError

def name : ConfigError → String
  | parse => "Parse"
  | unknownDialect _ => "UnknownDialect"

def message : ConfigError → String
  | parse => ""
  | unknownDialect name => "unknown dialect '" ++ name ++ "'"

end ConfigError

namespace Settings

def standard : Settings :=
  ⟨Dialect.ansi.name, false, false, false⟩

abbrev Reader (α : Type) := List Char → Option (α × List Char)

def isSpace (c : Char) : Bool :=
  c == ' ' || c == '\t'

def skipSpaces (cs : List Char) : List Char :=
  cs.dropWhile isSpace

/-- Control characters other than the tabulator stand nowhere in a document. -/
def isForbidden (c : Char) : Bool :=
  c.toNat < 32 && c != '\t' || c.toNat == 127

def isBareKey (c : Char) : Bool :=
  c.isAlphanum || c == '_' || c == '-'

def hexValue? (c : Char) : Option Nat :=
  if c.isDigit then some (c.toNat - 48)
  else if 'a' ≤ c && c ≤ 'f' then some (c.toNat - 87)
  else if 'A' ≤ c && c ≤ 'F' then some (c.toNat - 55)
  else none

def hexNumber? (cs : List Char) : Option Nat :=
  cs.foldlM (fun n c => (hexValue? c).map (16 * n + ·)) 0

def scalar? (digits : List Char) : Option Char := do
  let n ← hexNumber? digits
  if n.isValidChar then some (Char.ofNat n) else none

def escaped? : Reader Char
  | 'b' :: cs => some ('\x08', cs)
  | 't' :: cs => some ('\t', cs)
  | 'n' :: cs => some ('\n', cs)
  | 'f' :: cs => some ('\x0c', cs)
  | 'r' :: cs => some ('\r', cs)
  | 'e' :: cs => some ('\x1b', cs)
  | '\x22' :: cs => some ('\x22', cs)
  | '\x5c' :: cs => some ('\x5c', cs)
  | 'x' :: cs => coded 2 cs
  | 'u' :: cs => coded 4 cs
  | 'U' :: cs => coded 8 cs
  | _ => none
where
  coded (digits : Nat) (cs : List Char) : Option (Char × List Char) :=
    if cs.length < digits then none else (scalar? (cs.take digits)).map (·, cs.drop digits)

def prepend (c : Char) : Option (List Char × List Char) → Option (List Char × List Char)
  | some (text, cs) => some (c :: text, cs)
  | none => none

def basic : Nat → Reader (List Char)
  | 0, _ => none
  | _, [] => none
  | _, '\x22' :: cs => some ([], cs)
  | fuel + 1, '\x5c' :: cs =>
    match escaped? cs with
    | none => none
    | some (c, cs) => prepend c (basic fuel cs)
  | fuel + 1, c :: cs => if isForbidden c then none else prepend c (basic fuel cs)

/-- The rest of a string in single quotes, which has no escapes. -/
def verbatim : Reader (List Char)
  | [] => none
  | '\x27' :: cs => some ([], cs)
  | c :: cs => if isForbidden c then none else prepend c (verbatim cs)

/-- Up to two quotes may stand directly before the three that close a string. -/
def closing? (q : Char) : Reader (List Char)
  | a :: b :: c :: cs =>
    if a == q && b == q && c == q then
      let extra := (cs.take 2).takeWhile (· == q)
      some (extra, cs.drop extra.length)
    else none
  | _ => none

/-- What follows blanks and line breaks; a carriage return alone breaks no line. -/
def skipBlanks : List Char → List Char
  | '\n' :: cs => skipBlanks cs
  | '\r' :: '\n' :: cs => skipBlanks cs
  | c :: cs => if isSpace c then skipBlanks cs else c :: cs
  | [] => []

/-- A backslash at the end of a line skips to the next character that is not blank. -/
def lineEnd? (cs : List Char) : Option (List Char) :=
  match skipSpaces cs with
  | '\n' :: rest | '\r' :: '\n' :: rest => some (skipBlanks rest)
  | _ => none

def longBasic : Nat → Reader (List Char)
  | 0, _ => none
  | _, [] => none
  | fuel + 1, c :: cs =>
    match closing? '\x22' (c :: cs) with
    | some r => some r
    | none =>
      if c == '\x5c' then
        match lineEnd? cs, escaped? cs with
        | some rest, _ => longBasic fuel rest
        | none, some (d, rest) => prepend d (longBasic fuel rest)
        | none, none => none
      else
        match c, cs with
        | '\r', '\n' :: rest => prepend '\r' (prepend '\n' (longBasic fuel rest))
        | _, _ => if isForbidden c && c != '\n' then none else prepend c (longBasic fuel cs)

def longVerbatim : Nat → Reader (List Char)
  | 0, _ => none
  | _, [] => none
  | fuel + 1, c :: cs =>
    match closing? '\x27' (c :: cs) with
    | some r => some r
    | none =>
      match c, cs with
      | '\r', '\n' :: rest => prepend '\r' (prepend '\n' (longVerbatim fuel rest))
      | _, _ => if isForbidden c && c != '\n' then none else prepend c (longVerbatim fuel cs)

/-- A line break directly after the opening quotes does not count. -/
def skipFirstBreak : List Char → List Char
  | '\n' :: cs => cs
  | '\r' :: '\n' :: cs => cs
  | cs => cs

inductive Setting where
  | flag (b : Bool)
  | text (s : String)

def asText : Option (List Char × List Char) → Option (Setting × List Char)
  | some (cs, rest) => some (.text (String.ofList cs), rest)
  | none => none

def value? : Reader Setting
  | 't' :: 'r' :: 'u' :: 'e' :: cs => some (.flag true, cs)
  | 'f' :: 'a' :: 'l' :: 's' :: 'e' :: cs => some (.flag false, cs)
  | '\x22' :: '\x22' :: '\x22' :: cs => asText (longBasic (cs.length + 1) (skipFirstBreak cs))
  | '\x27' :: '\x27' :: '\x27' :: cs => asText (longVerbatim (cs.length + 1) (skipFirstBreak cs))
  | '\x22' :: cs => asText (basic (cs.length + 1) cs)
  | '\x27' :: cs => asText (verbatim cs)
  | _ => none

def key? : Reader String
  | '\x22' :: cs => (basic (cs.length + 1) cs).map fun r => (String.ofList r.1, r.2)
  | '\x27' :: cs => (verbatim cs).map fun r => (String.ofList r.1, r.2)
  | cs =>
    let name := cs.takeWhile isBareKey
    if name.isEmpty then none else some (String.ofList name, cs.drop name.length)

def endOfLine? (cs : List Char) : Option (List Char) :=
  let rest :=
    match skipSpaces cs with
    | '#' :: comment => comment.dropWhile (!isForbidden ·)
    | rest => rest
  match rest with
  | [] => some []
  | '\n' :: rest | '\r' :: '\n' :: rest => some rest
  | _ => none

def entry? (cs : List Char) : Option ((String × Setting) × List Char) := do
  let (name, rest) ← key? cs
  match skipSpaces rest with
  | '=' :: rest =>
    let (v, rest) ← value? (skipSpaces rest)
    some ((name, v), rest)
  | _ => none

def entries : Nat → List Char → Option (List (String × Setting))
  | 0, _ => none
  | _, [] => some []
  | fuel + 1, cs =>
    match endOfLine? cs with
    | some rest => entries fuel rest
    | none => do
      let (e, rest) ← entry? (skipSpaces cs)
      let rest ← endOfLine? rest
      let es ← entries fuel rest
      some (e :: es)

def apply (s : Settings) : String × Setting → Option Settings
  | ("dialect", .text d) => some { s with dialect := d }
  | ("use_literals", .flag b) => some { s with useLiterals := b }
  | ("new_line_to_single_space", .flag b) => some { s with singleSpace := b }
  | ("debug", .flag b) => some { s with debug := b }
  | _ => none

def byteOrderMark : Char :=
  '\ufeff'

def skipMark : List Char → List Char
  | c :: cs => if c == byteOrderMark then cs else c :: cs
  | [] => []

def noRepeats : List String → Bool
  | [] => true
  | n :: ns => !ns.contains n && noRepeats ns

def ofDocument? (document : String) : Option Settings := do
  let cs := skipMark document.toList
  let es ← entries (cs.length + 1) cs
  if noRepeats (es.map (·.1)) then es.foldlM apply standard else none

end Settings

namespace Config

def ofSettings (s : Settings) : Except ConfigError Config :=
  match Dialect.ofName? s.dialect with
  | none => .error (.unknownDialect s.dialect)
  | some d =>
    let rules := Rules.ofDialect d
    .ok ⟨if s.singleSpace then rules.onOneLine else rules, s.useLiterals, s.debug⟩

def ofDocument (document : String) : Except ConfigError Config :=
  match Settings.ofDocument? document with
  | none => .error .parse
  | some s => ofSettings s

end Config

end QueryText
