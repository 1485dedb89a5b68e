import QueryText.Proofs.Reading.Notation

namespace QueryText.Reading

def openParen : Word :=
  ['(']

def closeParen : Word :=
  [')']

def strip? : List Word → List Token → Option (List Token)
  | [], ts => some ts
  | w :: ws, .word v :: ts => if w = v then strip? ws ts else none
  | _ :: _, _ => none

theorem strip?_append (ws : List Word) (ts : List Token) : strip? ws (ws.map .word ++ ts) = some ts := by
  induction ws with
  | nil => rfl
  | cons w ws ih => simpa [strip?] using ih

variable (t : List Notation)

def leading? (ts : List Token) : Option (Notation × List Token) :=
  t.findSome? fun x => if x.lead = [] then none else (strip? (wordsOf x.lead) ts).map (x, ·)

/-- The notation that goes on, behind its first operand, with the words at the front. -/
def going? (ts : List Token) : Option (Notation × List Token) :=
  t.findSome? fun x => if x.lead = [] then (strip? (wordsOf x.led) ts).map (x, ·) else none

mutual

/-- Reads one expression whose operators stay within the limit, with as many operands and operators as
there are. Whatever is read takes away tokens, which is checked for the sake of termination only. -/
def readAt (m : Limit) : List Token → Option (Expr × List Token)
  | [] => none
  | .atom e :: ts => goOn m e ts
  | .word w :: ts =>
    if w = openParen then
      match readAt none ts with
      | some (e, .word v :: k) =>
        if v = closeParen ∧ k.length < ts.length then goOn m e k else none
      | _ => none
    else
      match leading? t (.word w :: ts) with
      | some (x, k) =>
        if allowed x.rank m ∧ k.length ≤ ts.length then
          match readHoles x.rank 0 x.holes k with
          | some (es, k') => if k'.length ≤ ts.length then goOn m (.operation x.op es) k' else none
          | none => none
        else none
      | none => none
termination_by ts => (ts.length, 0)

def goOn (m : Limit) (e : Expr) (ts : List Token) : Option (Expr × List Token) :=
  match going? t ts with
  | some (x, k) =>
    if allowed x.rank m then
      if k.length < ts.length then
        match readHoles x.rank 1 x.holes.tail k with
        | some (es, k') => if k'.length < ts.length then goOn m (.operation x.op (e :: es)) k' else none
        | none => none
      else none
    else some (e, ts)
  | none => some (e, ts)
termination_by (ts.length, 0)

def readHoles (rank : Option Nat) (i : Nat) :
    List Hole → List Token → Option (List Expr × List Token)
  | [], ts => some ([], ts)
  | h :: hs, ts =>
    match readAt (limitAt rank i h.enclosed) ts with
    | some (e, k) =>
      match strip? (wordsOf h.after) k with
      | some k' =>
        if k'.length < ts.length then
          match readHoles rank (i + 1) hs k' with
          | some (es, k'') => some (e :: es, k'')
          | none => none
        else none
      | none => none
    | none => none
termination_by _ ts => (ts.length, 1)

end

/-- Reads all of the tokens as one expression. -/
def read (ts : List Token) : Option Expr :=
  match readAt t none ts with
  | some (e, []) => some e
  | _ => none

end QueryText.Reading
