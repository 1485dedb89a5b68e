import QueryText.Proofs.Coupling

namespace QueryText.Render

namespace Chunk

def ofItems (path : Option Path) (items : List Value) : List Chunk :=
  (items.map fun v => .slot (.value v) path).intersperse (.text ", ")

def ofValue (r : Rules) (path : Option Path) (v : Value) : List Chunk :=
  match v with
  | .list items => if r.flattensLists then .text "(" :: ofItems path items ++ [.text ")"] else [.slot (.value v) path]
  | _ => [.slot (.value v) path]

theorem map_ofItems {f : Chunk → Chunk} {g : Value → Value} {p q : Option Path}
    (hcomma : f (.text ", ") = .text ", ")
    (hslot : ∀ v, f (.slot (.value v) p) = .slot (.value (g v)) q) (items : List Value) :
    (ofItems p items).map f = ofItems q (items.map g) := by
  induction items with
  | nil => rfl
  | cons v vs ih =>
    cases vs with
    | nil => exact congrArg ([·]) (hslot v)
    | cons w ws =>
      change f (.slot (.value v) p) :: f (.text ", ") :: (ofItems p (w :: ws)).map f = _
      rw [hslot, hcomma, ih]
      rfl

theorem map_ofValue {f : Chunk → Chunk} {p q : Option Path}
    (htext : ∀ s ∈ ["(", ", ", ")"], f (.text s) = .text s)
    (hslot : ∀ v, f (.slot (.value v) p) = .slot (.value v) q) (r : Rules) (v : Value) :
    (ofValue r p v).map f = ofValue r q v := by
  cases v with
  | list items =>
    simp only [ofValue]
    split
    · rw [List.map_append, List.map_cons, map_ofItems (g := id) (htext _ (by simp)) hslot, List.map_id,
        List.map_singleton, htext _ (by simp), htext _ (by simp)]
    · exact congrArg ([·]) (hslot _)
  | _ => exact congrArg ([·]) (hslot _)

theorem bindings_ofItems (path : Option Path) (items : List Value) :
    bindings (ofItems path items) = items.map .value := by
  induction items with
  | nil => rfl
  | cons v vs ih =>
    cases vs with
    | nil => rfl
    | cons w ws => exact congrArg (Binding.value v :: ·) ih

theorem bindings_ofValue (r : Rules) (path : Option Path) (v : Value) :
    bindings (ofValue r path v) = (r.slotValues v).map .value := by
  cases v with
  | list items =>
    simp only [ofValue, Rules.slotValues]
    split
    · simp [bindings, bindings_ofItems]
    · rfl
  | _ => rfl

end Chunk

open Operand

theorem separated_slots (items : List Value) (c : Context) :
    Writer.separated ", " (items.map fun v c => .ok [.slot (.value v) c.compared]) c =
      .ok (Chunk.ofItems c.compared items) := by
  induction items with
  | nil => rfl
  | cons v vs ih =>
    cases vs with
    | nil => rfl
    | cons w ws =>
      rw [List.map_cons] at ih
      rw [List.map_cons, List.map_cons, Writer.separated, append_apply, append_apply, ih]
      · rfl
      · simp

theorem slots_eq (v : Value) (c : Context) :
    slots v c = .ok (Chunk.ofValue c.rules c.compared v) := by
  cases v with
  | list items =>
    simp only [slots, Chunk.ofValue]
    split
    · rw [Writer.parenthesized, append_apply, append_apply, separated_slots]
      rfl
    · rfl
  | _ => rfl

structure Context.Binds (c : Context) : Prop where
  mode : c.mode ≠ .preview
  inlining : c.inlining = false

theorem writeValue_eq_ite {c : Context} (hm : c.mode ≠ .preview) (v : Value) :
    writeValue v c = if c.inlining then (c.rules.literal v).map fun s => [.text s] else slots v c := by
  unfold writeValue
  split
  · exact absurd ‹_› hm
  · cases c.rules.literal v <;> rfl

theorem writeValue_literal {c : Context} (hm : c.mode ≠ .preview) (hi : c.inlining = true) (v : Value) :
    writeValue v c = (c.rules.literal v).map fun s => [.text s] := by
  rw [writeValue_eq_ite hm, if_pos hi]

theorem writeValue_eq (v : Value) (c : Context) (h : c.Binds) :
    writeValue v c = .ok (Chunk.ofValue c.rules c.compared v) := by
  rw [writeValue_eq_ite h.mode, if_neg (by simp [h.inlining]), slots_eq]

theorem pathText_congr {c d : Context} (hi : ∀ n, c.rules.identifier n = d.rules.identifier n)
    (hc : c.candidate = d.candidate) (hb : c.bareColumns = d.bareColumns) (p : Path) :
    pathText c p = pathText d p := by
  induction p with
  | root n k => rw [pathText, pathText, hc, hi]
  | child p n r k ih => rw [pathText, pathText, hb, hi, ih]

theorem writePath_congr {c d : Context} (hr : ∃ b, c.rules = d.rules.withFlattening b)
    (hm : (c.mode != .preview) = (d.mode != .preview)) (hc : c.candidate = d.candidate)
    (hb : c.bareColumns = d.bareColumns) (p : Path) : writePath p c = writePath p d := by
  obtain ⟨b, hr⟩ := hr
  have hi : ∀ n, c.rules.identifier n = d.rules.identifier n := by
    intro n
    rw [hr]
    rfl
  unfold writePath
  rw [pathText_congr hi hc hb, hm, hr]
  rfl

theorem writePath_ok_iff {p : Path} {c : Context} {cs : List Chunk} :
    writePath p c = .ok cs ↔ (p.throughAny = true → c.mode = .preview) ∧ cs = [.text (pathText c p)] := by
  unfold writePath
  split
  · next h =>
    simp only [Bool.and_eq_true, bne_iff_ne] at h
    constructor
    · rintro ⟨⟩
    · rintro ⟨hmode, -⟩
      exact absurd (hmode h.1) h.2
  · next h =>
    simp only [Bool.and_eq_true, bne_iff_ne, not_and, not_not] at h
    exact ⟨fun hcs => ⟨h, (Except.ok.inj hcs).symm⟩, fun hcs => by rw [hcs.2]⟩

theorem writePath_cases (p : Path) (c : Context) :
    (∃ e, writePath p c = .error e) ∨ ∃ s, writePath p c = .ok [.text s] := by
  cases h : writePath p c with
  | error e => exact .inl ⟨e, rfl⟩
  | ok cs =>
    obtain ⟨-, rfl⟩ := writePath_ok_iff.mp h
    exact .inr ⟨_, rfl⟩

end QueryText.Render
