import QueryText.Proofs.Objects.Receivers
import QueryText.Proofs.Reading.Notation

namespace QueryText

open Render Operand

namespace Expr

def isOperation : Expr → Bool
  | operation _ _ => true
  | _ => false

/-- How loosely the text of the expression binds. A settled membership is a comparison of numbers, or a
word. -/
def rankWritten (c : Context) : Expr → Option Nat
  | operation op args =>
    match emptyMembership? c op (operands args) with
    | some _ =>
      match c.rules.grammar with
      | .jdoql => none
      | _ => some Rules.comparison
    | none => (c.rules.operators op).bind (·.rank)
  | _ => none

theorem knownText?_of_isOperation {e : Expr} (h : e.isOperation = true) (c : Context) :
    knownText? c e = none := by
  cases e with
  | operation => rfl
  | path | constant | param | custom | subQuery => cases h

end Expr

namespace Fragment

variable {f : Fragment} {args : List Expr} {c : Context} {cs : List Chunk}

/-- The operation in a slot that stands open and asks for no wildcards. -/
def openOperation? (args : List Expr) : Pattern.Element → Option Expr
  | .slot ⟨index, .bare⟩ false => (args[index]?).filter (·.isOperation)
  | _ => none

/-- One element of the pattern, an operation in an open slot in parentheses unless they are dropped. -/
def writeGroupedElement (f : Fragment) (args : List Expr) (dropped : Bool) (el : Pattern.Element) : Writer :=
  match openOperation? args el with
  | some arg => if dropped then arg.write else Writer.parenthesized arg.write
  | none => writeCustomElement f (Expr.operands args) el

/-- The fragment with the operations in its open slots in parentheses, but for those that are dropped. -/
def writeGrouped (f : Fragment) (args : List Expr) (dropped : Nat → Bool) : Writer :=
  Writer.all (f.pattern.elements.mapIdx fun i => writeGroupedElement f args (dropped i))

/-- It is the fragment with operations in parentheses, up to parentheses that may be left out: what they
are around may stand in the text of the pattern as it is. -/
def KeepsGrouping (limit : Nat → Reading.Limit) (f : Fragment) (args : List Expr) (c : Context)
    (cs : List Chunk) : Prop :=
  ∃ dropped : Nat → Bool,
    (∀ i arg, dropped i = true → (f.pattern.elements[i]?).bind (openOperation? args) = some arg →
      Reading.allowed (arg.rankWritten c) (limit i) = true) ∧
    f.writeGrouped args dropped c = .ok cs

theorem writeCustomElement_of_openOperation? {el : Pattern.Element} {arg : Expr}
    (h : openOperation? args el = some arg) :
    writeCustomElement f (Expr.operands args) el = arg.write := by
  unfold openOperation? at h
  split at h
  · next index =>
    obtain ⟨harg, -⟩ := Option.filter_eq_some_iff.mp h
    have hoperand : (Expr.operands args)[index]? = some arg.operand := by
      rw [Expr.operands_eq_map, List.getElem?_map, harg, Option.map_some]
    funext d
    simp only [writeCustomElement, hoperand, writeAffixed, ↓reduceIte]
    rfl
  · cases h

theorem writeCustomElement_of_wildcards {s : Pattern.Slot} {enclosed : Bool} {arg : Expr}
    (hs : s.affix ≠ .bare) (harg : args[s.index]? = some arg) (hop : arg.isOperation = true) :
    writeCustomElement f (Expr.operands args) (.slot s enclosed) =
      Writer.parenthesized (withWildcards Operand.concat s.affix arg.operand).write := by
  have hoperand : (Expr.operands args)[s.index]? = some arg.operand := by
    rw [Expr.operands_eq_map, List.getElem?_map, harg, Option.map_some]
  funext d
  simp only [writeCustomElement, hoperand, writeAffixed, hs, ↓reduceIte, Expr.expr_operand,
    Expr.knownText?_of_isOperation hop]

theorem write_custom (h : (Expr.custom f args).write c = .ok cs) :
    Writer.all (f.pattern.elements.map (writeCustomElement f (Expr.operands args))) c = .ok cs := by
  change (if _ then _ else _) = _ at h
  split at h
  · exact h
  · cases h

theorem writeGroupedElement_dropped (el : Pattern.Element) :
    f.writeGroupedElement args true el = writeCustomElement f (Expr.operands args) el := by
  unfold writeGroupedElement
  cases hel : openOperation? args el with
  | none => rfl
  | some arg => exact (writeCustomElement_of_openOperation? hel).symm

theorem writeGrouped_dropped :
    f.writeGrouped args (fun _ => true) =
      Writer.all (f.pattern.elements.map (writeCustomElement f (Expr.operands args))) := by
  simp only [writeGrouped, funext writeGroupedElement_dropped, List.mapIdx_eq_zipIdx_map]
  rw [← Function.comp_def _ Prod.fst, ← List.map_map, List.zipIdx_map_fst]

theorem length_writeGroupedElement {el : Pattern.Element} {dropped : Bool} {xs ys : List Chunk}
    (hx : writeCustomElement f (Expr.operands args) el c = .ok xs)
    (hy : f.writeGroupedElement args dropped el c = .ok ys) :
    xs.length ≤ ys.length ∧
      (ys.length ≤ xs.length → ∀ arg, openOperation? args el = some arg → dropped = true) := by
  cases dropped with
  | true =>
    rw [writeGroupedElement_dropped] at hy
    obtain rfl := Except.ok.inj (hx.symm.trans hy)
    exact ⟨le_rfl, fun _ _ _ => rfl⟩
  | false =>
    unfold writeGroupedElement at hy
    cases hel : openOperation? args el with
    | none =>
      rw [hel] at hy
      obtain rfl := Except.ok.inj (hx.symm.trans hy)
      simp
    | some arg =>
      rw [writeCustomElement_of_openOperation? hel] at hx
      rw [hel] at hy
      obtain rfl := Except.ok.inj ((Expr.parenthesized_ok hx).symm.trans hy)
      have hlength : (.text "(" :: xs ++ [.text ")"] : List Chunk).length = xs.length + 2 := by simp
      exact ⟨by omega, fun hle => by omega⟩

theorem length_writeGrouped (els : List Pattern.Element) (dropped : Nat → Bool) {xs ys : List Chunk}
    (hx : Writer.all (els.map (writeCustomElement f (Expr.operands args))) c = .ok xs)
    (hy : Writer.all (els.mapIdx fun i => writeGroupedElement f args (dropped i)) c = .ok ys) :
    xs.length ≤ ys.length ∧ (ys.length ≤ xs.length →
      ∀ i arg, (els[i]?).bind (openOperation? args) = some arg → dropped i = true) := by
  induction els generalizing dropped xs ys with
  | nil =>
    obtain rfl := Except.ok.inj hx
    obtain rfl := Except.ok.inj hy
    simp
  | cons el els ih =>
    rw [List.map_cons, Writer.all] at hx
    rw [List.mapIdx_cons, Writer.all] at hy
    obtain ⟨xs, xs', hel, hxs, rfl⟩ := append_ok hx
    obtain ⟨ys, ys', hel', hys, rfl⟩ := append_ok hy
    obtain ⟨hle, hfirst⟩ := length_writeGroupedElement hel hel'
    obtain ⟨hle', hrest⟩ := ih (fun i => dropped (i + 1)) hxs hys
    simp only [List.length_append]
    refine ⟨by omega, fun hlength i arg hi => ?_⟩
    cases i with
    | zero => exact hfirst (by omega) arg (by simpa using hi)
    | succ i => exact hrest (by omega) i arg (by simpa using hi)

theorem keepsGrouping_iff_allowed (limit : Nat → Reading.Limit)
    (h : (Expr.custom f args).write c = .ok cs) :
    KeepsGrouping limit f args c cs ↔
      ∀ i arg, (f.pattern.elements[i]?).bind (openOperation? args) = some arg →
        Reading.allowed (arg.rankWritten c) (limit i) = true := by
  have hcs := write_custom h
  constructor
  · rintro ⟨dropped, hredundant, hds⟩ i arg harg
    have hdropped := (length_writeGrouped f.pattern.elements dropped hcs hds).2 le_rfl i arg harg
    exact hredundant i arg hdropped harg
  · exact fun hallowed => ⟨fun _ => true, fun i arg _ => hallowed i arg, writeGrouped_dropped ▸ hcs⟩

/-- Whatever the text of the pattern takes apart, a fragment keeps the grouping of its operations exactly
when none in an open slot binds too loosely for the text around it. Where wildcards are put around an
operation, it is in parentheses. -/
theorem keepsGrouping_iff (limit : Nat → Reading.Limit) (h : (Expr.custom f args).write c = .ok cs) :
    (KeepsGrouping limit f args c cs ↔
      ∀ i arg, (f.pattern.elements[i]?).bind (openOperation? args) = some arg →
        Reading.allowed (arg.rankWritten c) (limit i) = true) ∧
    ∀ s enclosed arg, .slot s enclosed ∈ f.pattern.elements → s.affix ≠ .bare →
      args[s.index]? = some arg → arg.isOperation = true →
        writeCustomElement f (Expr.operands args) (.slot s enclosed) =
          Writer.parenthesized (withWildcards Operand.concat s.affix arg.operand).write :=
  ⟨keepsGrouping_iff_allowed limit h, fun _ _ _ _ => writeCustomElement_of_wildcards⟩

/-- What may stand in the slots of a pattern, when the operator has that one. -/
def limits (r : Rules) (op : Operator) (i : Nat) : Reading.Limit :=
  match (r.operators op).bind fun rule => (rule.pattern.elements[i]?).map (rule.rank, ·) with
  | some (rank, .slot s enclosed) => Reading.limitAt rank s.index enclosed
  | _ => none

section Weights

def cat : Path :=
  .source (.ofType "Cat") "cat"

/-- Values are written into the text. -/
def inlined : Context :=
  .of (.ofDialect .ansi) .resolving true []

def doubled : Fragment :=
  ⟨⟨"\x7b0\x7d * 2"⟩, none, .int⟩

def idTimesWeight : Expr :=
  .operation .mul [.path (cat.property "id" .int), .path (cat.property "bodyWeight" .int)]

def idPlusWeight : Expr :=
  .operation .add [.path (cat.property "id" .int), .path (cat.property "bodyWeight" .int)]

/-- A product may be doubled as it is. -/
theorem keepsGrouping_iff_doubledProduct :
    ∃ cs, (Expr.custom doubled [idTimesWeight]).write inlined = .ok cs ∧
      Chunk.fullText inlined.rules cs = "cat.id * cat.bodyWeight * 2" ∧
      KeepsGrouping (limits inlined.rules .mul) doubled [idTimesWeight] inlined cs := by
  refine ⟨_, rfl, by decide +kernel, (keepsGrouping_iff _ rfl).1.mpr fun i arg hi => ?_⟩
  have hi' : i < 2 := by
    by_contra hlarge
    rw [List.getElem?_eq_none (by change 2 ≤ i; omega)] at hi
    cases hi
  match i, hi' with
  | 0, _ =>
    obtain rfl : idTimesWeight = arg := Option.some.inj hi
    decide +kernel
  | 1, _ => cases hi

/-- A sum is taken apart: only one of its numbers is doubled. -/
theorem doubled_not_keepsGrouping :
    ∃ cs cs', (Expr.custom doubled [idPlusWeight]).write inlined = .ok cs ∧
      (Expr.operation .add [.path (cat.property "id" .int),
        .operation .mul [.path (cat.property "bodyWeight" .int), .constant (.int 2)]]).write inlined = .ok cs' ∧
      Chunk.fullText inlined.rules cs = "cat.id + cat.bodyWeight * 2" ∧
      Chunk.fullText inlined.rules cs' = "cat.id + cat.bodyWeight * 2" ∧
      ¬KeepsGrouping (limits inlined.rules .mul) doubled [idPlusWeight] inlined cs := by
  refine ⟨_, _, rfl, rfl, by decide +kernel, by decide +kernel, fun h => ?_⟩
  have hallowed := (keepsGrouping_iff_allowed (limits inlined.rules .mul) rfl).mp h 0 idPlusWeight rfl
  revert hallowed
  decide +kernel

end Weights

end Fragment

end QueryText
