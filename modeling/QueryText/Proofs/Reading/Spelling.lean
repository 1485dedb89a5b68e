import QueryText.Proofs.Reading.Layout
import QueryText.Proofs.Slots

namespace QueryText

namespace Render.Chunk

/-- The chunk without the path that its value is compared with. -/
def unpathed : Chunk → Chunk
  | text s => text s
  | slot b _ => slot b none

theorem textFrom_unpathed (r : Rules) (slot : Nat) (cs : List Chunk) :
    textFrom r slot (cs.map unpathed) = textFrom r slot cs := by
  induction cs generalizing slot with
  | nil => rfl
  | cons c cs ih => cases c <;> simp [unpathed, textFrom, ih]

theorem bindings_unpathed (cs : List Chunk) : bindings (cs.map unpathed) = bindings cs := by
  induction cs with
  | nil => rfl
  | cons c cs ih => cases c <;> simp [unpathed, bindings, ih]

theorem ofValue_unpathed (r : Rules) (p : Option Path) (v : Value) :
    (ofValue r p v).map unpathed = ofValue r none v :=
  map_ofValue (fun _ _ => rfl) (fun _ => rfl) r v

end Render.Chunk

namespace Reading

open Render Chunk

def Item.chunks (c : Context) : Item → List Chunk
  | .text t => [.text (String.ofList t)]
  | .atom e =>
    match e.write c with
    | .ok cs => cs
    | .error _ => []

/-- The chunks of the items, whatever their values are compared with. -/
def spelled (c : Context) (items : List Item) : List Chunk :=
  (items.flatMap (Item.chunks c)).map unpathed

theorem spelled_append (c : Context) (xs ys : List Item) :
    spelled c (xs ++ ys) = spelled c xs ++ spelled c ys := by
  simp [spelled]

def Spells (c : Context) (w : Writer) (items : List Item) : Prop :=
  ∀ p, ∃ cs, w { c with compared := p } = .ok cs ∧ cs.map unpathed = spelled c items

namespace Spells

variable {c : Context} {v w : Writer} {xs ys : List Item}

theorem nothing : Spells c .nothing [] :=
  fun _ => ⟨[], rfl, rfl⟩

theorem text (t : List Char) : Spells c (.text (String.ofList t)) [.text t] :=
  fun _ => ⟨_, rfl, rfl⟩

theorem append (h : Spells c v xs) (h' : Spells c w ys) : Spells c (v ++ w) (xs ++ ys) := by
  intro p
  obtain ⟨cs, hv, hcs⟩ := h p
  obtain ⟨ds, hw, hds⟩ := h' p
  refine ⟨cs ++ ds, ?_, ?_⟩
  · rw [append_apply, hv, hw, joined_ok_ok]
  · rw [List.map_append, hcs, hds, spelled_append]

theorem grouped {b : Bool} (h : Spells c w xs) :
    Spells c (fun d => if b then Writer.parenthesized w d else w d) (groupedItems b xs) := by
  cases b with
  | false => exact h
  | true => exact append (append (text ['(']) h) (text [')'])

end Spells

open Operand

variable {c : Context}

theorem writeValue_compared {v : Value} {cs : List Chunk} (h : writeValue v c = .ok cs) (p : Option Path) :
    ∃ ds, writeValue v { c with compared := p } = .ok ds ∧ ds.map unpathed = cs.map unpathed := by
  by_cases hb : c.Binds
  · rw [writeValue_eq v c hb] at h
    have hb' : ({ c with compared := p } : Context).Binds := ⟨hb.mode, hb.inlining⟩
    refine ⟨_, writeValue_eq v _ hb', ?_⟩
    obtain rfl := Except.ok.inj h
    rw [ofValue_unpathed, ofValue_unpathed]
  · -- the text of the value stands where its slots would
    have hw : writeValue v { c with compared := p } = writeValue v c := by
      unfold writeValue
      by_cases hi : c.inlining
      · simp only [hi, if_true]
      · have hm : c.mode = .preview := by
          by_contra hm
          exact hb ⟨hm, by simpa using hi⟩
        simp only [hm]
    exact ⟨cs, hw.trans h, rfl⟩

theorem writeParam_alike {d : Context} {q : Param} (hm : d.mode = c.mode) (hr : d.resolve q = c.resolve q)
    (hv : ∀ v cs, writeValue v c = .ok cs →
      ∃ ds, writeValue v d = .ok ds ∧ ds.map unpathed = cs.map unpathed)
    {cs : List Chunk} (h : writeParam q c = .ok cs) :
    ∃ ds, writeParam q d = .ok ds ∧ ds.map unpathed = cs.map unpathed := by
  unfold writeParam at h ⊢
  rw [hm, hr]
  generalize c.mode = mode at h ⊢
  generalize c.resolve q = resolved at h ⊢
  cases mode with
  | resolving =>
    cases resolved with
    | none => simp at h
    | some v => exact hv v cs h
  | deferring =>
    cases resolved with
    | none =>
      by_cases hq : q.kind.isCollection
      · simp [hq] at h
      · simp only [hq] at h ⊢
        obtain rfl := Except.ok.inj h
        exact ⟨_, rfl, rfl⟩
    | some v =>
      cases v with
      | list items => exact hv _ cs h
      | _ =>
        obtain rfl := Except.ok.inj h
        exact ⟨_, rfl, rfl⟩
  | preview =>
    cases resolved with
    | none => exact ⟨cs, h, rfl⟩
    | some v => exact hv v cs h

theorem Atom.spells {e : Expr} (h : Atom c e) : Spells c e.write [.atom e] := by
  intro p
  obtain ⟨cs, hcs⟩ := h.written
  have hs : spelled c [.atom e] = cs.map unpathed := by simp [spelled, Item.chunks, hcs]
  rw [hs]
  cases e with
  | path q =>
    have hq : writePath q { c with compared := p } = writePath q c :=
      writePath_congr (c := { c with compared := p }) (d := c) ⟨_, c.rules.withFlattening_self⟩ rfl rfl rfl q
    exact ⟨cs, hq.trans hcs, rfl⟩
  | constant v => exact writeValue_compared hcs p
  | param q =>
    have hv := fun v ds (h : writeValue v c = .ok ds) => writeValue_compared h p
    exact writeParam_alike (c := c) (d := { c with compared := p }) rfl rfl hv hcs
  | _ => exact absurd h.leaf (by simp [Expr.isLeaf])

theorem isEmptyList_compared (p : Option Path) (e : Expr) :
    isEmptyList { c with compared := p } e = isEmptyList c e := by
  cases e <;> rfl

theorem Plain.isEmptyList_eq {e : Expr} (h : Plain c e) : isEmptyList c e = false := by
  cases h with
  | atom h => exact h.nonempty
  | operation => rfl

theorem emptyMembership?_of_plain (op : Operator) {args : List Expr} (h : ∀ e ∈ args, Plain c e)
    (p : Option Path) :
    emptyMembership? { c with compared := p } op (Expr.operands args) = none := by
  have hsecond : ((Expr.operands args)[1]?.map fun a =>
      isEmptyList { c with compared := p } a.expr).getD false = false := by
    rw [Expr.operands_eq_map, List.getElem?_map]
    cases he : args[1]? with
    | none => rfl
    | some e =>
      have hm : e ∈ args := List.mem_of_getElem? he
      simpa [isEmptyList_compared, Expr.expr_operand] using (h e hm).isEmptyList_eq
  simp [emptyMembership?, hsecond]

theorem textElement_spelled (f : Pattern.Element → Writer) (t : List Char) (es : List Pattern.Element)
    (items : List Item) (hf : ∀ t, f (.text t) = .text (String.ofList t))
    (h : Spells c (.all (es.map f)) items) :
    Spells c (.all ((textElement t ++ es).map f)) (textItems t ++ items) := by
  cases t with
  | nil => exact h
  | cons a t =>
    have ht := Spells.append (Spells.text (a :: t)) h
    rw [← hf] at ht
    exact ht

theorem writeGrouped_spells (x : Notation) (i : Nat) (h : Hole) {e : Expr}
    (he : Spells c e.write (layout c.rules e)) :
    Spells c (writeGrouped x.op x.rank i h.enclosed e.operand)
      (groupedItems (x.groups c.rules i h e) (layout c.rules e)) := by
  have hg := Spells.grouped (b := x.groups c.rules i h e) he
  intro p
  obtain ⟨cs, hcs, hs⟩ := hg p
  refine ⟨cs, ?_, hs⟩
  rw [← hcs]
  unfold writeGrouped
  rw [Expr.expr_operand]
  rfl

theorem holes_spelled (concat : Operand → Operand → Operand) {x : Notation} (hop : x.op ≠ .instanceOf)
    (hs : List Hole) (before es : List Expr) (hlen : hs.length = es.length)
    (he : ∀ e ∈ es, Spells c e.write (layout c.rules e)) :
    Spells c
      (.all ((holeElements before.length hs).map
        (writeElement concat x.op x.rank (Expr.operands (before ++ es)))))
      (layoutFrom c.rules x before.length hs es) := by
  induction hs generalizing before es with
  | nil =>
    obtain rfl : es = [] := List.eq_nil_of_length_eq_zero hlen.symm
    exact Spells.nothing
  | cons h hs ih =>
    cases es with
    | nil => simp at hlen
    | cons e es =>
      have hrest := ih (before ++ [e]) es (by simpa using hlen) fun f hf => he f (by simp [hf])
      rw [List.append_assoc, List.singleton_append, List.length_append, List.length_singleton] at hrest
      have hslot : writeElement concat x.op x.rank (Expr.operands (before ++ e :: es))
          (.slot ⟨before.length, .bare⟩ h.enclosed) =
            writeGrouped x.op x.rank before.length h.enclosed e.operand := by
        funext d
        simp [writeElement, Expr.operands_eq_map, hop, writeAffixed]
      have hfirst := writeGrouped_spells x before.length h (he e (by simp))
      rw [← hslot] at hfirst
      exact hfirst.append (textElement_spelled _ h.after _ _ (fun _ => rfl) hrest)

theorem notation_of_mem {d : Dialect} (hd : d ∈ readDialects) {op : Operator}
    (hop : op ∈ readOperators) :
    ∃ rule, (Rules.ofDialect d).operators op = some rule ∧
      rule.pattern.elements = (Notation.ofRule op rule).elements ∧
        (Notation.ofRule op rule).holes.length = op.arity := by
  have h : ∀ d ∈ readDialects, ∀ op ∈ readOperators, ∃ rule ∈ (Rules.ofDialect d).operators op,
      rule.pattern.elements = (Notation.ofRule op rule).elements ∧
        (Notation.ofRule op rule).holes.length = op.arity := by
    decide +kernel
  exact h d hd op hop

theorem Plain.spells {d : Dialect} (hd : d ∈ readDialects) (hr : c.rules = .ofDialect d) {e : Expr}
    (h : Plain c e) : Spells c e.write (layout c.rules e) := by
  induction h with
  | atom h =>
    rw [layout_of_leaf _ h.leaf]
    exact h.spells
  | @operation op args hop hlen hargs ih =>
    obtain ⟨rule, hrule, helements, hholes⟩ := notation_of_mem hd hop
    rw [← hr] at hrule
    have hx : notation? c.rules op = some (.ofRule op rule) := by simp [notation?, hrule]
    have hne : op ≠ .instanceOf := by
      rintro rfl
      revert hop
      decide
    intro p
    have hempty := emptyMembership?_of_plain op hargs p
    obtain ⟨q, hq⟩ := comparing_eq (Expr.operands args) { c with compared := p }
    have hholes := holes_spelled (x := .ofRule op rule) (fun a b => operationTo 5 .concat [a, b]) hne _ []
      args (hholes.trans hlen.symm) ih
    have hall := textElement_spelled _ (Notation.ofRule op rule).lead _ _ (fun _ => rfl) hholes
    obtain ⟨cs, hcs, hs⟩ := hall q
    refine ⟨cs, ?_, ?_⟩
    · change writeOperation _ op (Expr.operands args) { c with compared := p } = .ok cs
      rw [writeOperation, hempty]
      simp only [Rules.require, hrule, hq, helements]
      exact hcs
    · rw [hs, layout_operation _ hx]
      rfl

end Reading

end QueryText
