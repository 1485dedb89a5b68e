import QueryText.Proofs.Coupling.Expr
import QueryText.Proofs.Slots

namespace QueryText.Render

open Operand

namespace Chunk

def against (p : Option Path) : Chunk → Chunk
  | .text s => .text s
  | .slot b q => .slot b (q.or p)

variable (p : Option Path) (cs : List Chunk)

@[simp] theorem bindings_against : bindings (cs.map (against p)) = bindings cs := by
  induction cs with
  | nil => rfl
  | cons c cs ih => cases c <;> simp [against, bindings, ih]

@[simp] theorem paths_against : paths (cs.map (against p)) = (paths cs).map (·.or p) := by
  induction cs with
  | nil => rfl
  | cons c cs ih => cases c <;> simp [against, paths, ih]

theorem ofValue_against (r : Rules) (q : Option Path) (v : Value) :
    (ofValue r q v).map (against p) = ofValue r (q.or p) v :=
  map_ofValue (fun _ _ => rfl) (fun _ => rfl) r v

end Chunk

def againstResult (p : Option Path) (x : Except QueryError (List Chunk)) :
    Except QueryError (List Chunk) :=
  x.map (List.map (Chunk.against p))

theorem againstResult_texts (p : Option Path) (ss : List String) :
    .ok (ss.map .text) = againstResult p (.ok (ss.map .text)) := by
  simp [againstResult, Except.map, Chunk.against]

theorem againstResult_error (p : Option Path) (e : QueryError) : .error e = againstResult p (.error e) :=
  rfl

theorem againstResult_ok {p : Option Path} {x : Except QueryError (List Chunk)} {ys : List Chunk}
    (h : againstResult p x = .ok ys) : ∃ xs, x = .ok xs ∧ ys = xs.map (Chunk.against p) := by
  cases x with
  | error e => cases h
  | ok xs => exact ⟨xs, rfl, (Except.ok.inj h).symm⟩

theorem againstResult_joined (p : Option Path) (x y : Except QueryError (List Chunk)) :
    againstResult p (joined x y) = joined (againstResult p x) (againstResult p y) := by
  cases x with
  | error e => rfl
  | ok xs =>
    cases y with
    | error e => rfl
    | ok ys => simp [againstResult, Except.map]

def Context.comparedOr (c : Context) (p : Option Path) : Context :=
  { c with compared := c.compared.or p }

variable (p : Option Path) (c : Context)

theorem writeValue_comparedOr (v : Value) :
    writeValue v (c.comparedOr p) = againstResult p (writeValue v c) := by
  have hslots : slots v (c.comparedOr p) = againstResult p (slots v c) := by
    simp only [slots_eq, againstResult, Except.map, Chunk.ofValue_against]
    rfl
  simp only [writeValue, hslots]
  cases hm : c.mode with
  | preview => simp only [Context.comparedOr, hm]; rfl
  | resolving | deferring =>
    simp only [Context.comparedOr, hm]
    split
    · cases c.rules.literal v <;> rfl
    · rfl

theorem writeParam_comparedOr (q : Param) :
    writeParam q (c.comparedOr p) = againstResult p (writeParam q c) := by
  have hresolve : (c.comparedOr p).resolve q = c.resolve q := rfl
  have hmode : (c.comparedOr p).mode = c.mode := rfl
  simp only [writeParam, hresolve, hmode]
  cases c.mode with
  | resolving =>
    cases c.resolve q with
    | none => rfl
    | some v => exact writeValue_comparedOr p c v
  | preview =>
    cases c.resolve q with
    | none => rfl
    | some v => exact writeValue_comparedOr p c v
  | deferring =>
    cases c.resolve q with
    | none =>
      simp only
      split <;> rfl
    | some v =>
      cases v with
      | list items => exact writeValue_comparedOr p c (.list items)
      | _ => rfl

def againstCoupling (p : Option Path) : Coupling where
  contexts c d := d = c.comparedOr p
  results x y := y = againstResult p x
  rules_alike {c _} h := ⟨c.rules.flattensLists, by rw [h]; rfl⟩
  nested_cases h := .inl (by rw [h]; rfl)
  comparing h q := by rw [h]; rfl
  candidate h q := by rw [h]; rfl
  nothing := againstResult_texts p []
  text s := againstResult_texts p [s]
  fail e _ := againstResult_error p e
  join h h' := by rw [againstResult_joined, h, h']
  path {c _} h q := by
    have hp : writePath q (c.comparedOr p) = writePath q c :=
      writePath_congr (c := c.comparedOr p) (d := c) ⟨c.rules.flattensLists, rfl⟩ rfl rfl rfl q
    rw [h, hp]
    obtain ⟨e, he⟩ | ⟨s, hs⟩ := writePath_cases q c
    · rw [he]
      rfl
    · rw [hs]
      rfl
  wildcards := True
  wildcardText {c _} h _ s := by rw [h, writeValue_comparedOr]

theorem coupled_against {w : Writer} (h : ∀ c : Context, w (c.comparedOr p) = againstResult p (w c)) :
    (againstCoupling p).Coupled w w := by
  intro c d hc
  rw [hc]
  exact h c

def againstCouplings (p : Option Path) : Couplings .identity fun _ => True where
  at_ _ := againstCoupling p
  queries _ := ⟨.inl trivial, .inl trivial⟩
  constant _ v _ := .constant (coupled_against p fun c => writeValue_comparedOr p c v)
  param _ q _ := .param (coupled_against p fun c => writeParam_comparedOr p c q) (fun _ _ h => by rw [h]; rfl)
    fun _ _ _ h => by rw [h]; rfl
  operation _ _ _ _ := .inl trivial
  custom _ _ _ _ := .inl trivial
  inside _ params c d h := by rw [h]; rfl
  outside _ _ _ _ h := h

theorem write_comparedOr (e : Expr) : e.write (c.comparedOr p) = againstResult p (e.write c) := by
  have h := (againstCouplings p).operand_coupled [] e fun _ _ => trivial
  rw [Expr.substitute_identity] at h
  exact h.write c _ rfl

theorem select_write_comparedOr (form : Form) (q : Select Expr) :
    q.write form (c.comparedOr p) = againstResult p (q.write form c) := by
  have h := (againstCouplings p).selectOperands_coupled [] q fun _ _ => trivial
  rw [Expr.substituteSelect_identity] at h
  exact Coupling.write_coupled ((againstCouplings p).queries []) form h c _ rfl

end QueryText.Render
