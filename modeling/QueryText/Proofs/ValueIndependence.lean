import QueryText.Proofs.Coupling.Expr
import QueryText.Proofs.Slots
import QueryText.Statement.Written

namespace QueryText

namespace Value

/-- The value that stands for all values of the same shape. -/
def shape : Value → Value
  | text _ => text ""
  | list items => list (List.replicate items.length null)
  | _ => null

theorem shape_shape (v : Value) : v.shape.shape = v.shape := by
  cases v <;> simp [shape]

end Value

namespace ParamMap

/-- The same parameters with values that stand for their shapes. -/
def shape (m : ParamMap) : ParamMap :=
  ⟨m.entries.map fun e => (e.1, e.2.shape)⟩

theorem get?_shape (m : ParamMap) (p : Param) : m.shape.get? p = (m.get? p).map Value.shape := by
  obtain ⟨entries⟩ := m
  induction entries with
  | nil => rfl
  | cons e es ih =>
    obtain ⟨id, v⟩ := e
    change List.lookup p.id ((id, v.shape) :: es.map _) = (List.lookup p.id ((id, v) :: es)).map _
    simp only [lookup_cons_ite]
    split
    · rfl
    · exact ih

end ParamMap

/-- Every value is replaced by the one that stands for its shape. -/
def Substitution.shapes : Substitution :=
  ⟨Value.shape, fun _ _ => none, ParamMap.shape⟩

/-- The query without its values: equal for queries that differ in values of the same shapes only. -/
def Select.shape (q : Select Expr) : Select Expr :=
  Expr.substituteSelect .shapes [] q

theorem Select.window_shape (q : Select Expr) : q.shape.window = q.window :=
  Expr.window_substituteSelect .shapes [] q

namespace Render

namespace Chunk

def blank : Chunk → Chunk
  | .text s => .text s
  | .slot (.value _) path => .slot (.value .null) path
  | .slot (.param p) path => .slot (.param p) path

theorem textFrom_blank (r : Rules) (slot : Nat) (cs : List Chunk) :
    textFrom r slot (cs.map blank) = textFrom r slot cs := by
  induction cs generalizing slot with
  | nil => rfl
  | cons c cs ih => rcases c with s | ⟨v | p, path⟩ <;> simp [blank, textFrom, ih]

theorem paths_blank (cs : List Chunk) : paths (cs.map blank) = paths cs := by
  induction cs with
  | nil => rfl
  | cons c cs ih => rcases c with s | ⟨v | p, path⟩ <;> simp [blank, paths, ih]

theorem values_blank (cs : List Chunk) :
    (WrittenQuery.values (bindings (cs.map blank))).map List.length =
      (WrittenQuery.values (bindings cs)).map List.length := by
  induction cs with
  | nil => rfl
  | cons c cs ih =>
    rcases c with s | ⟨v | p, path⟩
    · exact ih
    · simp only [List.map_cons, blank, bindings, WrittenQuery.values]
      cases hb : WrittenQuery.values (bindings (cs.map blank)) <;>
        cases hc : WrittenQuery.values (bindings cs) <;> simp_all [Except.map]
    · rfl

theorem ofItems_blank (path : Option Path) (items : List Value) :
    (ofItems path items).map blank = ofItems path (List.replicate items.length .null) := by
  rw [map_ofItems (g := fun _ => .null) rfl fun _ => rfl, List.map_const']

theorem ofValue_blank (r : Rules) (path : Option Path) (v : Value) :
    (ofValue r path v).map blank = (ofValue r path v.shape).map blank := by
  cases v with
  | list items =>
    simp only [Value.shape, ofValue]
    split
    · simp [ofItems_blank]
    · rfl
  | _ => rfl

end Chunk

def blankResult : Except QueryError (List Chunk) → Except QueryError (List Chunk)
  | .ok cs => .ok (cs.map Chunk.blank)
  | .error e => .error e

theorem blankResult_joined (x y : Except QueryError (List Chunk)) :
    blankResult (joined x y) = joined (blankResult x) (blankResult y) := by
  cases x <;> cases y <;> simp [blankResult]

open Operand

/-- Values are resolved and bound, and those in scope of the second run are without content. -/
structure ShapeContexts (ms : List ParamMap) (c d : Context) : Prop where
  scopes : c.scopes = ms
  mode : c.mode = .resolving
  inlining : c.inlining = false
  eq : d = { c with scopes := ms.map ParamMap.shape }

namespace ShapeContexts

variable {scopes : List ParamMap} {c d : Context}

theorem binds (h : ShapeContexts scopes c d) : c.Binds :=
  ⟨by simp [h.mode], h.inlining⟩

theorem mode' (h : ShapeContexts scopes c d) : d.mode = .resolving := by
  rw [h.eq]
  exact h.mode

theorem binds' (h : ShapeContexts scopes c d) : d.Binds :=
  ⟨by simp [h.mode'], by rw [h.eq]; exact h.inlining⟩

theorem writeValue (h : ShapeContexts scopes c d) {v w : Value} (hv : v.shape = w.shape) :
    blankResult (writeValue v c) = blankResult (Operand.writeValue w d) := by
  rw [writeValue_eq v c h.binds, writeValue_eq w d h.binds', h.eq]
  simp only [blankResult]
  rw [Chunk.ofValue_blank, hv, ← Chunk.ofValue_blank]

theorem resolve (h : ShapeContexts scopes c d) (p : Param) :
    d.resolve p = (c.resolve p).map Value.shape := by
  rw [h.eq]
  simp only [Context.resolve, h.scopes]
  clear h
  induction scopes with
  | nil => rfl
  | cons m ms ih =>
    rw [List.map_cons, List.findSome?_cons, List.findSome?_cons, ParamMap.get?_shape, ih]
    cases m.get? p <;> rfl

end ShapeContexts

def shapeCoupling (scopes : List ParamMap) : Coupling where
  contexts := ShapeContexts scopes
  results x y := blankResult x = blankResult y
  rules_alike {c d} h := ⟨c.rules.flattensLists, by rw [h.eq]; rfl⟩
  nested_cases h := .inl (by rw [h.eq])
  comparing h p := ⟨h.scopes, h.mode, h.inlining, by rw [h.eq]⟩
  candidate h p := ⟨h.scopes, h.mode, h.inlining, by rw [h.eq]⟩
  nothing := rfl
  text _ := rfl
  fail _ _ := rfl
  join h h' := by rw [blankResult_joined, blankResult_joined, h, h']
  path {c d} h p := by
    have hp : writePath p c = writePath p d := by
      refine writePath_congr ⟨c.rules.flattensLists, ?_⟩ ?_ ?_ ?_ p <;> rw [h.eq]
      rfl
    rw [hp]
  wildcards := True
  wildcardText h _ s := h.writeValue rfl

theorem text?_shape (v : Value) : v.shape.text?.isSome = v.text?.isSome := by
  cases v <;> rfl

theorem isEmptyList_shape (v : Value) : v.shape.isEmptyList = v.isEmptyList := by
  rcases v with _ | _ | _ | _ | _ | _ | _ | _ | _ | _ | ⟨_ | _⟩ <;> rfl

theorem knownAlike_shape {c d : Context} {scopes : List ParamMap} (h : ShapeContexts scopes c d)
    {e f : Expr} (hk : (knownText? d f).isSome = (knownText? c e).isSome) :
    (shapeCoupling scopes).KnownAlike c d e f := by
  unfold Coupling.KnownAlike
  generalize knownText? c e = x, knownText? d f = y at hk
  cases x <;> cases y
  case none.none => trivial
  case some.some s t => exact fun a => h.writeValue rfl
  all_goals simp at hk

theorem constant_shape (scopes : List ParamMap) (v : Value) :
    (shapeCoupling scopes).CoupledOperand (.constant v) (.constant v.shape) := by
  refine .intro rfl (fun c d hc => hc.writeValue v.shape_shape.symm) (fun c d hc => ?_)
    (fun _ c d hc => ?_) .nil
  · exact (isEmptyList_shape v).symm
  · exact knownAlike_shape hc (text?_shape v)

theorem param_shape (scopes : List ParamMap) (p : Param) :
    (shapeCoupling scopes).CoupledOperand (.param p) (.param p) := by
  refine .intro rfl (fun c d hc => ?_) (fun c d hc => ?_) (fun _ c d hc => ?_) .nil
  · change blankResult (writeParam p c) = blankResult (writeParam p d)
    simp only [writeParam, hc.mode, hc.mode', hc.resolve p]
    cases c.resolve p with
    | none => rfl
    | some v => exact hc.writeValue v.shape_shape.symm
  · simp only [Operand.param, isEmptyList, hc.resolve p]
    cases c.resolve p with
    | none => rfl
    | some v => exact (isEmptyList_shape v).symm
  · refine knownAlike_shape hc ?_
    simp only [Operand.param, knownText?, hc.mode, hc.mode', hc.resolve p]
    cases c.resolve p with
    | none => rfl
    | some v => exact text?_shape v

def shapeCouplings : Couplings .shapes fun _ => True where
  at_ := shapeCoupling
  queries _ := ⟨.inl trivial, .inl trivial⟩
  constant scopes v _ := constant_shape scopes v
  param scopes p _ := param_shape scopes p
  operation _ _ _ _ := .inl trivial
  custom _ _ _ _ := .inl trivial
  inside scopes params c d h :=
    ⟨by rw [Context.inside, h.scopes], h.mode, h.inlining, by rw [h.eq]; rfl⟩
  outside _ _ _ _ h := h

theorem write_shape (form : Form) (q : Select Expr) (r : Rules) :
    blankResult (q.write form (.of r .resolving false [q.params])) =
      blankResult (q.shape.write form (.of r .resolving false [q.shape.params])) := by
  have hq := shapeCouplings.selectOperands_coupled [] q fun _ _ => trivial
  have hp : q.shape.params = q.params.shape := Couplings.params_substituteSelect [] q
  refine Coupling.write_coupled (shapeCouplings.queries _) form hq _ _ ⟨rfl, rfl, rfl, ?_⟩
  rw [hp]
  rfl

end Render

/-- The outcomes agree in all but the values of the slots. -/
def SameButValues : Except QueryError WrittenQuery → Except QueryError WrittenQuery → Prop
  | .ok s, .ok t =>
    s.text = t.text ∧ s.paths = t.paths ∧ s.params.length = t.params.length ∧
      s.fingerprint = t.fingerprint ∧ s.window = t.window
  | .error e, .error f => e = f
  | _, _ => False

open Render

theorem ofChunks_sameButValues (r : Rules) (w : Window) {xs ys : List Chunk}
    (h : xs.map Chunk.blank = ys.map Chunk.blank) :
    SameButValues (WrittenQuery.ofChunks r w xs) (WrittenQuery.ofChunks r w ys) := by
  have ht : Chunk.fullText r xs = Chunk.fullText r ys := by
    rw [Chunk.fullText, ← Chunk.textFrom_blank, h, Chunk.textFrom_blank, ← Chunk.fullText]
  have hp : Chunk.paths xs = Chunk.paths ys := by
    rw [← Chunk.paths_blank, h, Chunk.paths_blank]
  have hv := Chunk.values_blank xs
  rw [h, Chunk.values_blank ys] at hv
  unfold WrittenQuery.ofChunks
  cases hx : WrittenQuery.values (Chunk.bindings xs) with
  | error e =>
    cases hy : WrittenQuery.values (Chunk.bindings ys) with
    | error f =>
      rw [hx, hy] at hv
      exact (Except.error.inj hv).symm
    | ok ws => simp [hx, hy, Except.map] at hv
  | ok vs =>
    cases hy : WrittenQuery.values (Chunk.bindings ys) with
    | error f => simp [hx, hy, Except.map] at hv
    | ok ws =>
      rw [hx, hy] at hv
      have hl : ws.length = vs.length := Except.ok.inj hv
      refine ⟨ht, hp, hl.symm, ?_, rfl⟩
      change Fingerprint.compute _ _ _ = Fingerprint.compute _ _ _
      rw [ht, hl]

theorem writtenAs_sameButValues (form : Form) (w : Window) {q q' : Select Expr}
    (h : q.shape = q'.shape) (c : Config) (hc : c.literals = false) :
    SameButValues (q.writtenAs form w c) (q'.writtenAs form w c) := by
  have hb := (write_shape form q c.rules).trans (h ▸ (write_shape form q' c.rules).symm)
  rw [Select.writtenAs_eq_bind, Select.writtenAs_eq_bind, hc]
  generalize q.write form (.of c.rules .resolving false [q.params]) = x,
    q'.write form (.of c.rules .resolving false [q'.params]) = y at hb
  cases x with
  | error e =>
    cases y with
    | error f => exact Except.error.inj hb
    | ok ys => exact absurd hb (by simp [blankResult])
  | ok xs =>
    cases y with
    | error f => exact absurd hb (by simp [blankResult])
    | ok ys => exact ofChunks_sameButValues c.rules w (Except.ok.inj hb)

/-- Two queries that differ only in values of the same shapes are written with the same text and
paths and as many values, or neither can be written. -/
theorem written_sameButValues (c : Config) (hc : c.literals = false) (q q' : Select Expr)
    (h : q.shape = q'.shape) :
    SameButValues (q.written c) (q'.written c) ∧
      SameButValues (q.writtenCount c) (q'.writtenCount c) := by
  have hw : q.window = q'.window := by rw [← q.window_shape, h, q'.window_shape]
  refine ⟨?_, writtenAs_sameButValues .count .unrestricted h c hc⟩
  unfold Select.written
  rw [hw]
  exact writtenAs_sameButValues .rows q'.window h c hc

/-- The cats whose names start with a text, or whose age is one of a list. -/
def catsLike (start : String) (ages : List Value) : Select Expr :=
  let cat := Path.source (.ofType "Cat") "cat"
  { Select.empty with
    joins := [.of .plain (.path cat)]
    filter := some (.operation .or [
      .operation .startsWith [.path (cat.property "name" .text), .constant (.text start)],
      .operation .isIn [.path (cat.property "age" .int), .param (.anonymous 1 (.collection .int))]])
    projection := [.path cat]
    params := .insert .empty (.anonymous 1 (.collection .int)) (.list ages) }

/-- A quote in a value does not end a text in the statement. -/
theorem written_sameButValues_catsLike :
    (catsLike "Tom" [.int 1, .int 2]).shape = (catsLike "' or 1 = 1 --" [.int 3, .null]).shape ∧
      SameButValues ((catsLike "Tom" [.int 1, .int 2]).written .standard)
        ((catsLike "' or 1 = 1 --" [.int 3, .null]).written .standard) :=
  have h : (catsLike "Tom" [.int 1, .int 2]).shape = (catsLike "' or 1 = 1 --" [.int 3, .null]).shape := rfl
  ⟨h, (written_sameButValues .standard rfl _ _ h).1⟩

end QueryText
