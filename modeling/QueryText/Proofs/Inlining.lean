import QueryText.Proofs.Alignment
import QueryText.Proofs.ValueIndependence

namespace QueryText

/-- Texts in turn: `first`, then each of `middles` followed by one of `rest`. -/
def weave (first : String) (middles rest : List String) : String :=
  first ++ String.join (List.zipWith (· ++ ·) middles rest)

theorem weave_append_left (s first : String) (middles rest : List String) :
    weave (s ++ first) middles rest = s ++ weave first middles rest := by
  rw [weave, String.append_assoc, ← weave]

theorem weave_cons (m f : String) (ms fs : List String) :
    weave "" (m :: ms) (f :: fs) = m ++ weave f ms fs := by
  simp [weave, String.append_assoc]

theorem WrittenQuery.values_map (vs : List Value) : values (vs.map .value) = .ok vs := by
  induction vs with
  | nil => rfl
  | cons v vs ih =>
    rw [List.map_cons, values, ih]
    rfl

theorem Rules.literalAll_ok {r : Rules} {vs : List Value} {texts : List String}
    (h : r.literalAll vs = .ok texts) : List.Forall₂ (fun v l => r.literal v = .ok l) vs texts := by
  induction vs generalizing texts with
  | nil =>
    obtain rfl := Except.ok.inj h
    exact .nil
  | cons v vs ih =>
    simp only [literalAll] at h
    split at h
    · cases h
    · next l hl =>
      split at h
      · cases h
      · next ls hls =>
        obtain rfl := Except.ok.inj h
        exact .cons hl (ih hls)

namespace Render

namespace Chunk

/-- The text of chunks with the literals of their values in the slots. -/
inductive FilledBy (r : Rules) : List Chunk → String → Prop where
  | nil : FilledBy r [] ""
  | text (s : String) {cs : List Chunk} {t : String} (h : FilledBy r cs t) :
      FilledBy r (.text s :: cs) (s ++ t)
  | slot {v : Value} {l : String} (path : Option Path) (hl : r.literal v = .ok l) {cs : List Chunk}
      {t : String} (h : FilledBy r cs t) : FilledBy r (.slot (.value v) path :: cs) (l ++ t)

namespace FilledBy

variable {r : Rules} {xs ys : List Chunk} {s t : String}

theorem append (h : FilledBy r xs s) (h' : FilledBy r ys t) : FilledBy r (xs ++ ys) (s ++ t) := by
  induction h with
  | nil => simpa using h'
  | text s _ ih =>
    rw [String.append_assoc]
    exact .text s ih
  | slot path hl _ ih =>
    rw [String.append_assoc]
    exact .slot path hl ih

theorem ofSlot {v : Value} (path : Option Path) (h : r.literal v = .ok s) :
    FilledBy r [.slot (.value v) path] s := by
  have hs := slot path h (nil (r := r))
  rwa [String.append_empty] at hs

theorem ofText (s : String) : FilledBy r [.text s] s := by
  have hs := text s (nil (r := r))
  rwa [String.append_empty] at hs

theorem ofItems (path : Option Path) {items : List Value} {texts : List String}
    (h : List.Forall₂ (fun v l => r.literal v = .ok l) items texts) :
    FilledBy r (Chunk.ofItems path items) (String.intercalate ", " texts) := by
  induction h with
  | nil => exact .nil
  | cons hv hs ih =>
    cases hs with
    | nil => exact ofSlot path hv
    | cons _ _ =>
      rw [String.intercalate_cons_cons, String.append_assoc]
      exact .slot path hv (.text ", " ih)

theorem ofValue (path : Option Path) {v : Value} (h : r.literal v = .ok s) :
    FilledBy r (Chunk.ofValue r path v) s := by
  cases v with
  | list items =>
    have hlist := h
    simp only [Rules.literal] at h
    simp only [Chunk.ofValue]
    split at h
    · split at h
      · next hflat _ texts htexts =>
        obtain rfl := Except.ok.inj h
        rw [if_pos hflat]
        exact ((ofText "(").append (ofItems path (Rules.literalAll_ok htexts))).append (ofText ")")
      · cases h
    · cases h
  | _ => exact ofSlot path h

theorem exists_weave (h : FilledBy r xs t) (slot : Nat) :
    ∃ (vs : List Value) (first : String) (rest literals : List String),
      bindings xs = vs.map .value ∧ rest.length = vs.length ∧
        List.Forall₂ (fun v l => r.literal v = .ok l) vs literals ∧
        textFrom r slot xs = weave first ((List.range' slot vs.length).map r.placeholder) rest ∧
        t = weave first literals rest := by
  induction h generalizing slot with
  | nil => exact ⟨[], "", [], [], rfl, rfl, .nil, rfl, rfl⟩
  | text s _ ih =>
    obtain ⟨vs, first, rest, literals, hb, hlen, hl, htext, ht⟩ := ih slot
    refine ⟨vs, s ++ first, rest, literals, hb, hlen, hl, ?_, ?_⟩
    · rw [textFrom, htext, weave_append_left]
    · rw [ht, weave_append_left]
  | @slot v l path hv cs t _ ih =>
    obtain ⟨vs, first, rest, literals, hb, hlen, hl, htext, ht⟩ := ih (slot + 1)
    refine ⟨v :: vs, "", first :: rest, l :: literals, ?_, ?_, .cons hv hl, ?_, ?_⟩
    · rw [bindings, hb, List.map_cons]
    · rw [List.length_cons, List.length_cons, hlen]
    · rw [textFrom, htext, List.length_cons, List.range'_succ, List.map_cons, weave_cons]
    · rw [ht, weave_cons]

end FilledBy

end Chunk

/-- The first run has no slots, and its text is that of the second one with its values written in. -/
def FilledResult (r : Rules) (x y : Except QueryError (List Chunk)) : Prop :=
  ∀ xs, x = .ok xs →
    Chunk.bindings xs = [] ∧ ∃ ys, y = .ok ys ∧ Chunk.FilledBy r ys (Chunk.fullText r xs)

theorem filledResult_text (r : Rules) {s : String} {ys : List Chunk} (h : Chunk.FilledBy r ys s) :
    FilledResult r (.ok [.text s]) (.ok ys) := by
  intro xs hx
  obtain rfl := Except.ok.inj hx
  refine ⟨rfl, ys, rfl, ?_⟩
  simpa [Chunk.fullText, Chunk.textFrom] using h

theorem filledResult_joined {r : Rules} {x y x' y' : Except QueryError (List Chunk)}
    (h : FilledResult r x y) (h' : FilledResult r x' y') :
    FilledResult r (joined x x') (joined y y') := by
  have hok {xs : List Chunk} {y : Except QueryError (List Chunk)} : FilledResult r (.ok xs) y ↔
      ∃ ys, y = .ok ys ∧ Chunk.bindings xs = [] ∧ Chunk.FilledBy r ys (Chunk.fullText r xs) := by
    simp only [FilledResult, Except.ok.injEq, forall_eq']
    exact ⟨fun ⟨hb, ys, hy, hys⟩ => ⟨ys, hy, hb, hys⟩, fun ⟨ys, hy, hb, hys⟩ => ⟨hb, ys, hy, hys⟩⟩
  refine joined_related hok (fun ⟨hb, hys⟩ ⟨hb', hys'⟩ => ⟨?_, ?_⟩) (fun _ _ xs hx => by cases hx)
    (fun _ _ xs hx => by cases hx) h h'
  · rw [Chunk.bindings_append, hb, hb', List.append_nil]
  · rw [Chunk.fullText, Chunk.textFrom_append, hb]
    exact hys.append hys'

open Operand

/-- Values are known; the first run writes them into the text, the second one binds them. -/
structure LiteralContexts (r : Rules) (c d : Context) : Prop where
  rules : c.rules = r
  mode : c.mode = .resolving
  inlining : c.inlining = true
  eq : d = { c with inlining := false }

namespace LiteralContexts

variable {r : Rules} {c d : Context}

theorem binds (h : LiteralContexts r c d) : d.Binds := by
  rw [h.eq]
  exact ⟨by simp [h.mode], rfl⟩

theorem mode' (h : LiteralContexts r c d) : d.mode = .resolving := by
  rw [h.eq]
  exact h.mode

theorem resolve (h : LiteralContexts r c d) (p : Param) : c.resolve p = d.resolve p := by
  rw [h.eq]
  rfl

theorem writeValue (h : LiteralContexts r c d) (v : Value) :
    FilledResult r (Operand.writeValue v c) (Operand.writeValue v d) := by
  have hd : d.rules = r := by rw [h.eq]; exact h.rules
  rw [writeValue_eq v d h.binds, hd, writeValue_literal (by simp [h.mode]) h.inlining, h.rules]
  cases hl : r.literal v with
  | error e => exact fun xs hx => by cases hx
  | ok s => exact filledResult_text r (.ofValue d.compared hl)

end LiteralContexts

def literalCoupling (r : Rules) : Coupling where
  contexts := LiteralContexts r
  results := FilledResult r
  rules_alike {c d} h := ⟨c.rules.flattensLists, by rw [h.eq]; rfl⟩
  nested_cases h := .inl (by rw [h.eq])
  comparing h p := ⟨h.rules, h.mode, h.inlining, by rw [h.eq]⟩
  candidate h p := ⟨h.rules, h.mode, h.inlining, by rw [h.eq]⟩
  nothing xs hx := by
    obtain rfl := Except.ok.inj hx
    exact ⟨rfl, [], rfl, .nil⟩
  text s := filledResult_text r (.ofText s)
  fail _ _ _ hx := by cases hx
  join := filledResult_joined
  path {c d} h p := by
    have hp : writePath p c = writePath p d := by
      refine writePath_congr ⟨c.rules.flattensLists, ?_⟩ ?_ ?_ ?_ p <;> rw [h.eq]
      rfl
    rw [hp]
    obtain ⟨e, he⟩ | ⟨s, hs⟩ := writePath_cases p d
    · rw [he]
      exact fun xs hx => by cases hx
    · rw [hs]
      exact filledResult_text r (.ofText s)
  wildcards := True
  wildcardText h _ s := h.writeValue (.text s)

theorem constant_literal (r : Rules) (v : Value) :
    (literalCoupling r).CoupledOperand (.constant v) (.constant v) :=
  .constant fun _ _ hc => hc.writeValue v

theorem param_literal (r : Rules) (p : Param) :
    (literalCoupling r).CoupledOperand (.param p) (.param p) :=
  .param
    (Coupling.writeParam_coupled (fun _ _ hc => hc.resolve p)
      (fun _ _ hc => ⟨hc.mode.trans hc.mode'.symm, hc.binds.mode⟩) (fun xs hx => by cases hx)
      (fun v _ _ hc => hc.writeValue v) fun _ _ hc hd => by simp [hc.mode'] at hd)
    (fun _ _ hc => hc.resolve p) fun _ _ _ hc => by rw [hc.mode, hc.mode']

def literalCouplings (r : Rules) : Couplings .identity fun _ => True where
  at_ _ := literalCoupling r
  queries _ := ⟨.inl trivial, .inl trivial⟩
  constant _ v _ := constant_literal r v
  param _ p _ := param_literal r p
  operation _ _ _ _ := .inl trivial
  custom _ _ _ _ := .inl trivial
  inside _ _ c d h := ⟨h.rules, h.mode, h.inlining, by rw [h.eq]; rfl⟩
  outside _ _ _ _ h := h

theorem write_literal (form : Form) (q : Select Expr) (r : Rules) :
    FilledResult r (q.write form (.of r .resolving true [q.params]))
      (q.write form (.of r .resolving false [q.params])) := by
  have hq := (literalCouplings r).selectOperands_coupled [] q fun _ _ => trivial
  rw [Expr.substituteSelect_identity] at hq
  exact Coupling.write_coupled ((literalCouplings r).queries _) form hq _ _ ⟨rfl, rfl, rfl, rfl⟩

end Render

open Render

/-- The text of `s` is that of `t` with the literals of its values in the place of the placeholders,
and `s` leaves no value to bind. -/
structure FillsIn (r : Rules) (s t : WrittenQuery) : Prop where
  params : s.params = []
  paths : s.paths = []
  dialect : s.dialect = t.dialect
  window : s.window = t.window
  text : ∃ (first : String) (rest literals : List String),
    rest.length = t.params.length ∧
      List.Forall₂ (fun v l => r.literal v = .ok l) t.params literals ∧
      t.text = weave first ((List.range' 1 t.params.length).map r.placeholder) rest ∧
      s.text = weave first literals rest

theorem ofChunks_fillsIn {r : Rules} {w : Window} {xs ys : List Chunk} {s : WrittenQuery}
    (hb : Chunk.bindings xs = []) (hf : Chunk.FilledBy r ys (Chunk.fullText r xs))
    (h : WrittenQuery.ofChunks r w xs = .ok s) :
    ∃ t, WrittenQuery.ofChunks r w ys = .ok t ∧ FillsIn r s t := by
  obtain ⟨vs, first, rest, literals, hvs, hlen, hl, htext, hs⟩ := hf.exists_weave 1
  have hp : Chunk.paths xs = [] := by
    rw [← List.length_eq_zero_iff, Chunk.length_paths, hb, List.length_nil]
  unfold WrittenQuery.ofChunks at h ⊢
  rw [hb] at h
  rw [hvs, WrittenQuery.values_map]
  obtain rfl := Except.ok.inj h
  exact ⟨_, rfl, rfl, hp, rfl, rfl, first, rest, literals, hlen, hl, htext, hs⟩

theorem writtenAs_fillsIn {form : Form} {w : Window} {q : Select Expr} {c : Config} {s : WrittenQuery}
    (h : q.writtenAs form w { c with literals := true } = .ok s) :
    ∃ t, q.writtenAs form w { c with literals := false } = .ok t ∧ FillsIn c.rules s t := by
  obtain ⟨xs, hx, hs⟩ := Select.writtenAs_ok_iff.mp h
  obtain ⟨hb, ys, hy, hf⟩ := write_literal form q c.rules xs hx
  obtain ⟨t, ht, hfill⟩ := ofChunks_fillsIn hb hf hs
  exact ⟨t, Select.writtenAs_ok_iff.mpr ⟨ys, hy, ht⟩, hfill⟩

/-- Whenever a query or its count can be written with literals, it can be written with placeholders,
and the literals fill the places of the placeholders. -/
theorem written_fillsIn (q : Select Expr) (c : Config) (s : WrittenQuery) :
    (q.written { c with literals := true } = .ok s →
      ∃ t, q.written { c with literals := false } = .ok t ∧ FillsIn c.rules s t) ∧
    (q.writtenCount { c with literals := true } = .ok s →
      ∃ t, q.writtenCount { c with literals := false } = .ok t ∧ FillsIn c.rules s t) :=
  ⟨fun h => writtenAs_fillsIn h, fun h => writtenAs_fillsIn h⟩

theorem written_fillsIn_catsLike :
    ∃ s t,
      (catsLike "Tom" [.int 1, .list [.int 2]]).written { Config.standard with literals := true } =
        .ok s ∧
      (catsLike "Tom" [.int 1, .list [.int 2]]).written { Config.standard with literals := false } =
        .ok t ∧
      FillsIn Config.standard.rules s t := by
  have hok : ((catsLike "Tom" [.int 1, .list [.int 2]]).written
      { Config.standard with literals := true }).isOk = true := by decide +kernel
  cases hs : (catsLike "Tom" [.int 1, .list [.int 2]]).written
      { Config.standard with literals := true } with
  | error e =>
    rw [hs] at hok
    cases hok
  | ok s =>
    obtain ⟨t, ht, hf⟩ := (written_fillsIn (catsLike "Tom" [.int 1, .list [.int 2]]) .standard s).1 hs
    exact ⟨s, t, rfl, ht, hf⟩

end QueryText
