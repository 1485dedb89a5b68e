import QueryText.Proofs.Alignment
import QueryText.Query

namespace QueryText

namespace Render

open Operand

/-- The same surroundings, for a statement with literals and for display. -/
structure DisplayContexts (c d : Context) : Prop where
  mode : c.mode = .resolving
  inlining : c.inlining = true
  eq : d = { c with mode := .preview }

namespace DisplayContexts

variable {c d : Context}

theorem mode' (h : DisplayContexts c d) : d.mode = .preview := by
  rw [h.eq]

theorem rules (h : DisplayContexts c d) : d.rules = c.rules := by
  rw [h.eq]

theorem resolve (h : DisplayContexts c d) (p : Param) : d.resolve p = c.resolve p := by
  rw [h.eq]
  rfl

theorem writeValue (h : DisplayContexts c d) (v : Value) {xs : List Chunk}
    (hx : Operand.writeValue v c = .ok xs) : Operand.writeValue v d = .ok xs := by
  simp only [Operand.writeValue, h.mode, h.inlining, ↓reduceIte] at hx
  simp only [Operand.writeValue, h.mode', previewText, h.rules]
  cases hl : c.rules.literal v with
  | error e =>
    rw [hl] at hx
    cases hx
  | ok s =>
    rw [hl] at hx
    exact hx

theorem writePath (h : DisplayContexts c d) (p : Path) {xs : List Chunk}
    (hx : Operand.writePath p c = .ok xs) : Operand.writePath p d = .ok xs := by
  have htext : pathText d p = pathText c p :=
    pathText_congr (fun _ => by rw [h.rules]) (by rw [h.eq]) (by rw [h.eq]) p
  obtain ⟨-, rfl⟩ := writePath_ok_iff.mp hx
  exact writePath_ok_iff.mpr ⟨fun _ => h.mode', by rw [htext]⟩

theorem writeParam (h : DisplayContexts c d) (p : Param) {xs : List Chunk}
    (hx : Operand.writeParam p c = .ok xs) : Operand.writeParam p d = .ok xs := by
  simp only [Operand.writeParam, h.mode] at hx
  simp only [Operand.writeParam, h.mode', h.resolve]
  cases hv : c.resolve p with
  | none =>
    rw [hv] at hx
    cases hx
  | some v =>
    rw [hv] at hx
    exact h.writeValue v hx

end DisplayContexts

def Displays (x y : Except QueryError (List Chunk)) : Prop :=
  ∀ xs, x = .ok xs → y = .ok xs

/-- Two runs over the same expressions. What the first one writes, the second one displays. -/
def displayCoupling : Coupling where
  contexts := DisplayContexts
  results := Displays
  rules_alike {c d} h := ⟨c.rules.flattensLists, by rw [h.rules, Rules.withFlattening_self]⟩
  nested_cases h := .inl (by rw [h.eq])
  comparing h p := ⟨h.mode, h.inlining, by rw [h.eq]⟩
  candidate h p := ⟨h.mode, h.inlining, by rw [h.eq]⟩
  nothing _ hx := hx
  text _ _ hx := hx
  fail _ _ _ hx := hx
  join := joined_keeps
  path h p _ hx := h.writePath p hx
  wildcards := True
  wildcardText h _ s _ hx := h.writeValue (.text s) hx

theorem constant_display (v : Value) : displayCoupling.CoupledOperand (.constant v) (.constant v) :=
  .constant fun _ _ hc _ hx => hc.writeValue v hx

theorem param_display (p : Param) : displayCoupling.CoupledOperand (.param p) (.param p) :=
  .param (fun _ _ hc _ hx => hc.writeParam p hx) (fun _ _ hc => (hc.resolve p).symm) fun _ _ _ hc => by
    simp [hc.mode, hc.mode']

def displayCouplings : Couplings .identity fun _ => True where
  at_ _ := displayCoupling
  queries _ := ⟨.inl trivial, .inl trivial⟩
  constant _ v _ := constant_display v
  param _ p _ := param_display p
  operation _ _ _ _ := .inl trivial
  custom _ _ _ _ := .inl trivial
  inside _ _ _ _ h := ⟨h.mode, h.inlining, by rw [h.eq]; rfl⟩
  outside _ _ _ _ h := h

theorem write_display (form : Form) (q : Select Expr) (r : Rules) {xs : List Chunk}
    (h : q.write form (.of r .resolving true [q.params]) = .ok xs) :
    q.write form (.of r .preview true [q.params]) = .ok xs := by
  have hq := displayCouplings.selectOperands_coupled [] q fun _ _ => trivial
  rw [Expr.substituteSelect_identity] at hq
  exact Coupling.write_coupled (displayCouplings.queries _) form hq _ _ ⟨rfl, rfl, rfl⟩ xs h

end Render

open Render

/-- Whenever a query can be written with literals, the text for display is the text that is written. -/
theorem Query.preview_eq_literalText (q : Query) (w : WrittenQuery)
    (h : Query.written { q with config := { q.config with literals := true } } = .ok w) :
    q.preview = w.text := by
  change q.builder.select.writtenAs .rows q.builder.select.window { q.config with literals := true } =
    .ok w at h
  unfold Select.writtenAs at h
  cases hx : q.builder.select.write .rows
      (.of q.config.rules .resolving true [q.builder.select.params]) with
  | error e =>
    rw [hx] at h
    cases h
  | ok xs =>
    rw [hx] at h
    have htext : w.text = Chunk.fullText q.config.rules xs :=
      congrArg WrittenStatement.text (statement_ofChunks h)
    simp only [preview, Select.preview, write_display .rows q.builder.select q.config.rules hx, htext]

/-- The cats whose names start with a text, and that a product is named after by another one. -/
def namesakeCats : Query :=
  let cat := Path.source (.ofType "Cat") "cat"
  let product := Path.source (.ofType "Product") "product"
  let start := Param.anonymous 1 .text
  let name := Param.anonymous 2 .text
  let namesakes : Select Expr :=
    { Select.empty with
      joins := [.of .plain (.path product)]
      filter := some ((Expr.path (product.property "name" .text)).eq (.param name))
      params := .insert .empty name (.text "Tom's") }
  { Query.of .standard with
    builder :=
      { Query.Builder.empty false with
        select :=
          { Select.empty with
            joins := [.of .plain (.path cat)]
            filter := some (((Expr.path (cat.property "name" .text)).startsWith (.param start)).and
              (.existsIn namesakes))
            params := .insert .empty start (.text "50%") } } }

theorem Query.preview_eq_literalText_namesakeCats :
    ∃ w, Query.written { namesakeCats with config := { namesakeCats.config with literals := true } } = .ok w ∧
      namesakeCats.preview = w.text := by
  have hok : (Query.written
      { namesakeCats with config := { namesakeCats.config with literals := true } }).isOk = true := by
    decide +kernel
  cases hw : Query.written
      { namesakeCats with config := { namesakeCats.config with literals := true } } with
  | error e =>
    rw [hw] at hok
    cases hok
  | ok w => exact ⟨w, rfl, preview_eq_literalText namesakeCats w hw⟩

end QueryText
