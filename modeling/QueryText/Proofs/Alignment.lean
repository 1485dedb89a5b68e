import QueryText.Proofs.Coupling.Change
import QueryText.Proofs.Coupling.Expr
import QueryText.Proofs.Slots

namespace QueryText

/-- The same rules, under which a list that is bound takes one slot. -/
def Rules.unspread (inlining : Bool) (r : Rules) : Rules :=
  r.withFlattening (inlining && r.flattensLists)

namespace Render

namespace Chunk

def spread (r : Rules) : Chunk → List Chunk
  | .text s => [.text s]
  | .slot (.value v) path => ofValue r path v
  | .slot (.param p) path => [.slot (.param p) path]

theorem ofValue_withFlattening (r : Rules) (path : Option Path) (v : Value) :
    ofValue (r.withFlattening false) path v = [.slot (.value v) path] := by
  cases v <;> rfl

end Chunk

def spreadResult (r : Rules) : Except QueryError (List Chunk) → Except QueryError (List Chunk)
  | .ok cs => .ok (cs.flatMap (Chunk.spread r))
  | .error e => .error e

open Operand

structure SpreadContexts (r : Rules) (c d : Context) : Prop where
  rules : d.rules = r
  mode : d.mode ≠ .preview
  eq : c = { d with rules := r.unspread d.inlining }

namespace SpreadContexts

variable {r : Rules} {c d : Context}

theorem rules_alike (h : SpreadContexts r c d) : ∃ b, c.rules = d.rules.withFlattening b := by
  rw [h.eq, h.rules]
  exact ⟨_, rfl⟩

theorem writeValue (h : SpreadContexts r c d) (v : Value) :
    Operand.writeValue v d = spreadResult r (Operand.writeValue v c) := by
  have hr := h.rules
  have hmode : c.mode ≠ .preview := h.eq ▸ h.mode
  have hrules : c.rules = r.unspread d.inlining := by rw [h.eq]
  have hinlining : c.inlining = d.inlining := by rw [h.eq]
  have hcompared : c.compared = d.compared := by rw [h.eq]
  cases hi : d.inlining with
  | true =>
    -- the literal of a list is that of its items in both runs
    have hsame : r.unspread true = r := r.withFlattening_self
    rw [writeValue_literal h.mode hi, writeValue_literal hmode (hinlining.trans hi), hrules, hi, hsame, hr]
    cases r.literal v <;> rfl
  | false =>
    rw [writeValue_eq v d ⟨h.mode, hi⟩, writeValue_eq v c ⟨hmode, hinlining.trans hi⟩, hrules, hi, hr,
      hcompared]
    change _ = spreadResult r (.ok (Chunk.ofValue (r.withFlattening false) d.compared v))
    rw [Chunk.ofValue_withFlattening]
    simp [spreadResult, Chunk.spread]

theorem slot (h : SpreadContexts r c d) (p : Param) :
    Except.ok [Chunk.slot (.param p) d.compared] =
      spreadResult r (.ok [Chunk.slot (.param p) c.compared]) := by
  rw [h.eq]
  rfl

end SpreadContexts

end Render

open Render

structure Placeholder where
  number : Nat
  binding : Binding
  path : Option Path

/-- A stretch of a statement. -/
inductive Piece where
  | text (s : String)
  | placeholder (p : Placeholder)

namespace Piece

def spelling (r : Rules) : Piece → String
  | text s => s
  | placeholder p => r.placeholder p.number

def placeholder? : Piece → Option Placeholder
  | text _ => none
  | placeholder p => some p

def placeholders (ps : List Piece) : List Placeholder :=
  ps.filterMap placeholder?

def ofChunks (slot : Nat) : List Chunk → List Piece
  | [] => []
  | .text s :: cs => text s :: ofChunks slot cs
  | .slot b path :: cs => placeholder ⟨slot, b, path⟩ :: ofChunks (slot + 1) cs

variable (slot : Nat) (cs : List Chunk)

theorem text_ofChunks (r : Rules) :
    String.join ((ofChunks slot cs).map (spelling r)) = Chunk.textFrom r slot cs := by
  induction cs generalizing slot with
  | nil => rfl
  | cons c cs ih => cases c <;> simp [ofChunks, Chunk.textFrom, spelling, ih]

theorem numbers_ofChunks :
    (placeholders (ofChunks slot cs)).map (·.number) = List.range' slot (Chunk.bindings cs).length := by
  induction cs generalizing slot with
  | nil => rfl
  | cons c cs ih =>
    cases c with
    | text s => exact ih slot
    | slot b path =>
      have h := ih (slot + 1)
      simp only [placeholders, ofChunks, List.filterMap_cons, placeholder?, List.map_cons,
        Chunk.bindings, List.length_cons, List.range'_succ] at h ⊢
      rw [h]

theorem bindings_ofChunks :
    (placeholders (ofChunks slot cs)).map (·.binding) = Chunk.bindings cs := by
  induction cs generalizing slot with
  | nil => rfl
  | cons c cs ih =>
    cases c with
    | text s => exact ih slot
    | slot b path => exact congrArg (b :: ·) (ih (slot + 1))

theorem paths_ofChunks : (placeholders (ofChunks slot cs)).map (·.path) = Chunk.paths cs := by
  induction cs generalizing slot with
  | nil => rfl
  | cons c cs ih =>
    cases c with
    | text s => exact ih slot
    | slot b path => exact congrArg (path :: ·) (ih (slot + 1))

end Piece

theorem values_eq {bs : List Binding} {vs : List Value} (h : WrittenQuery.values bs = .ok vs) :
    bs = vs.map .value := by
  induction bs generalizing vs with
  | nil =>
    obtain rfl := Except.ok.inj h
    rfl
  | cons b bs ih =>
    cases b with
    | param p => cases h
    | value v =>
      obtain ⟨ws, hws, rfl⟩ := Except.map_eq_ok_iff.mp h
      rw [ih hws, List.map_cons]

theorem statement_ofChunks {r : Rules} {w : Window} {cs : List Chunk} {s : WrittenQuery}
    (h : WrittenQuery.ofChunks r w cs = .ok s) : s.statement = .ofChunks r cs := by
  obtain ⟨vs, hvs, rfl⟩ := Except.map_eq_ok_iff.mp h
  rw [WrittenStatement.ofChunks, values_eq hvs]
  rfl

end QueryText
