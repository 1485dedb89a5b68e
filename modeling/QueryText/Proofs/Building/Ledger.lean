import Mathlib.Data.List.Forall2
import Mathlib.Data.List.ModifyLast
import QueryText.Proofs.Building.Origin

namespace QueryText

namespace JoinFlag

theorem mem_insertInto {f g : JoinFlag} {fs : List JoinFlag} (h : g ∈ f.insertInto fs) :
    g = f ∨ g ∈ fs := by
  induction fs with
  | nil => simpa [insertInto] using h
  | cons f' fs ih =>
    unfold insertInto at h
    split at h
    · exact List.mem_cons.mp h
    · split at h
      · exact .inr h
      · obtain rfl | h := List.mem_cons.mp h
        · exact .inr List.mem_cons_self
        · exact (ih h).imp_right (List.mem_cons_of_mem f')

theorem mem_insertInto_of_mem (f : JoinFlag) {g : JoinFlag} {fs : List JoinFlag} (h : g ∈ fs) :
    g ∈ f.insertInto fs := by
  induction fs with
  | nil => cases h
  | cons f' fs ih =>
    unfold insertInto
    split
    · exact List.mem_cons_of_mem f h
    · split
      · exact h
      · obtain rfl | h := List.mem_cons.mp h
        · exact List.mem_cons_self
        · exact List.mem_cons_of_mem f' (ih h)

theorem exists_mem_insertInto (f : JoinFlag) (fs : List JoinFlag) :
    ∃ g ∈ f.insertInto fs, f.id = g.id := by
  induction fs with
  | nil => exact ⟨f, by simp [insertInto], rfl⟩
  | cons f' fs ih =>
    unfold insertInto
    split
    · exact ⟨f, List.mem_cons_self, rfl⟩
    · split
      · next heq => exact ⟨f', List.mem_cons_self, by simpa [BEq.beq] using heq⟩
      · obtain ⟨g, hg, hid⟩ := ih
        exact ⟨g, List.mem_cons_of_mem f' hg, hid⟩

end JoinFlag

namespace Join

variable {α : Type}

theorem hasFlag_iff (j : Join α) (f : JoinFlag) :
    j.hasFlag f = true ↔ ∃ g ∈ j.flags, f.id = g.id := by
  simp [hasFlag, List.contains_iff_exists_mem_beq, BEq.beq]

theorem hasFlag_addFlag (j : Join α) (f g : JoinFlag) :
    (j.addFlag f).hasFlag g = true ↔ g.id = f.id ∨ j.hasFlag g = true := by
  rw [hasFlag_iff, hasFlag_iff]
  constructor
  · rintro ⟨h, hm, hid⟩
    obtain rfl | hm := JoinFlag.mem_insertInto hm
    · exact .inl hid
    · exact .inr ⟨h, hm, hid⟩
  · rintro (hid | ⟨h, hm, hid⟩)
    · obtain ⟨h, hm, hid'⟩ := JoinFlag.exists_mem_insertInto f j.flags
      exact ⟨h, hm, hid.trans hid'⟩
    · exact ⟨h, JoinFlag.mem_insertInto_of_mem f hm, hid⟩

end Join

namespace Query

open AnyPath

/-- A join of the caller's, with the conditions and flags given for it so far. -/
structure Entry where
  kind : JoinKind
  target : Expr
  conditions : List Expr
  flags : List JoinFlag

namespace Entry

def of (kind : JoinKind) (target : Expr) : Entry :=
  ⟨kind, target, [], []⟩

def addConditions (e : Entry) (ns : List Normalized) : Entry :=
  { e with conditions := e.conditions ++ ns.map (·.condition) }

def addFlag (e : Entry) (f : JoinFlag) : Entry :=
  { e with flags := e.flags ++ [f] }

structure Describes (e : Entry) (j : Join Expr) : Prop where
  joined : j.joined = (e.kind, e.target)
  condition : j.condition = Expr.conjunction? e.conditions
  flags (f : JoinFlag) : j.hasFlag f = true ↔ ∃ g ∈ e.flags, f.id = g.id
  given : ∀ f ∈ j.flags, f ∈ e.flags

theorem describes_of (k : JoinKind) (t : Expr) (cs : List Expr) :
    Describes ⟨k, t, cs, []⟩ ⟨k, t, Expr.conjunction? cs, []⟩ :=
  ⟨rfl, rfl, by simp [Join.hasFlag], by simp⟩

namespace Describes

variable {e : Entry} {j : Join Expr}

theorem addConditions (h : e.Describes j) (ns : List Normalized) :
    (e.addConditions ns).Describes
      { j with condition := Condition.extend j.condition (ns.map (·.condition)) } := by
  refine ⟨h.joined, ?_, h.flags, h.given⟩
  show Condition.extend j.condition _ = Expr.conjunction? (e.conditions ++ _)
  rw [h.condition, Condition.extend_conjunction?]

theorem addFlag (h : e.Describes j) (f : JoinFlag) : (e.addFlag f).Describes (j.addFlag f) := by
  refine ⟨h.joined, h.condition, fun g => ?_, fun g hg => ?_⟩
  · rw [Join.hasFlag_addFlag, h.flags]
    simp [Entry.addFlag, or_and_right, exists_or, or_comm]
  · obtain rfl | hg := JoinFlag.mem_insertInto hg
    · simp [Entry.addFlag]
    · exact List.mem_append_left _ (h.given g hg)

end Describes

end Entry

/-- What the calls asked for: the joins of the caller, the conditions of the filters, and the elements
that all of the conditions look at, each in turn. -/
structure Ledger where
  joins : List Entry
  filter : List Expr
  having : List Expr
  elements : List Replacement

namespace Ledger

def empty : Ledger :=
  ⟨[], [], [], []⟩

def addElements (l : Ledger) (ns : List Normalized) : Ledger :=
  { l with elements := l.elements ++ ns.flatMap (·.replaced) }

/-- Enters a call. A condition or a flag for the current join goes to the last join of the caller. -/
def record (b : Builder) (l : Ledger) : Call → Ledger
  | .sources ts => { l with joins := l.joins ++ ts.map (.of .plain) }
  | .join k t => { l with joins := l.joins ++ [.of k t] }
  | .joinAs k t v => { l with joins := l.joins ++ [.of k (.aliased (.path t) v)] }
  | .joinWhen k t c =>
    match (b.joinWhen k t c).refusal with
    | some _ => l
    | none =>
      let ns := b.normalizedAll [c]
      { l.addElements ns with joins := l.joins ++ [(Entry.of k t).addConditions ns] }
  | .when cs =>
    match l.joins.getLast? with
    | none => l
    | some e =>
      let ns :=
        match (b.when cs).refusal with
        | none => b.normalizedAll cs
        | some _ => b.accepted e.target cs
      { l.addElements ns with joins := l.joins.modifyLast (·.addConditions ns) }
  | .flag f => { l with joins := l.joins.modifyLast (·.addFlag f) }
  | .filter cs =>
    let ns := b.normalizedAll cs
    { l.addElements ns with filter := l.filter ++ ns.map (·.condition) }
  | .having cs =>
    let ns := b.normalizedAll cs
    { l.addElements ns with having := l.having ++ ns.map (·.condition) }
  | _ => l

def recordAll (b : Builder) (l : Ledger) : List Call → Ledger
  | [] => l
  | c :: cs => (l.record b c).recordAll (c.perform b).builder cs

end Ledger

/-- One line of the query's join list: a join of the caller's, or one that declares an element. -/
inductive Row where
  | caller (e : Entry)
  | element (r : Replacement)

namespace Row

def given? : Row → Option Entry
  | caller e => some e
  | element _ => none

def element? : Row → Option Replacement
  | caller _ => none
  | element r => some r

def origin : Row → Origin
  | caller e => .caller e.kind e.target
  | element r => .element r

def Describes : Row → Join Expr → Prop
  | caller e, j => e.Describes j
  | element r, j => j.joined = r.join.joined ∧ j.condition = none ∧ j.flags = []

theorem filterMap_given?_elements (rs : List Replacement) :
    (rs.map Row.element).filterMap given? = [] := by
  simp [List.filterMap_map, Function.comp_def, given?]

theorem filterMap_element?_elements (rs : List Replacement) :
    (rs.map Row.element).filterMap element? = rs := by
  simp [List.filterMap_map, Function.comp_def, element?]

theorem map_origin_elements (rs : List Replacement) :
    (rs.map Row.element).map origin = rs.map Origin.element := by
  simp [Function.comp_def, origin]

theorem describes_elements (rs : List Replacement) :
    List.Forall₂ Describes (rs.map Row.element) (rs.map (·.join)) := by
  induction rs with
  | nil => exact .nil
  | cons r rs ih => exact .cons ⟨rfl, rfl, rfl⟩ ih

theorem filterMap_given?_eq_nil {rows : List Row} (h : ∀ r ∈ rows, r.origin.isElement = true) :
    rows.filterMap given? = [] := by
  refine List.filterMap_eq_nil_iff.mpr fun r hr => ?_
  cases r with
  | caller e => cases h _ hr
  | element r => rfl

theorem filterMap_given?_last (before : List Row) (e : Entry) {after : List Row}
    (h : ∀ r ∈ after, r.origin.isElement = true) :
    (before ++ .caller e :: after).filterMap given? = before.filterMap given? ++ [e] := by
  rw [List.filterMap_append, List.filterMap_cons]
  simp only [given?, filterMap_given?_eq_nil h]

end Row

/-- The rows lay the entries, in turn, and the elements out as joins, and the current join is the one
of the last entry. -/
structure LaidOut (rows : List Row) (es : List Entry) (rs : List Replacement)
    (js : List (Join Expr)) (current : Option Nat) : Prop where
  described : List.Forall₂ Row.Describes rows js
  entries : rows.filterMap Row.given? = es
  elements : (rows.filterMap Row.element?).Perm rs
  newest : Newest (rows.map Row.origin) current

theorem forall₂_append_cons_left {α β : Type} {R : α → β → Prop} {xs ys : List α} {x : α}
    {zs : List β} (h : List.Forall₂ R (xs ++ x :: ys) zs) :
    ∃ us z vs, zs = us ++ z :: vs ∧ List.Forall₂ R xs us ∧ R x z ∧ List.Forall₂ R ys vs := by
  induction xs generalizing zs with
  | nil =>
    cases h with
    | cons hx hys => exact ⟨[], _, _, rfl, .nil, hx, hys⟩
  | cons x' xs ih =>
    cases h with
    | cons hx' h =>
      obtain ⟨us, z, vs, rfl, hxs, hx, hys⟩ := ih h
      exact ⟨_ :: us, z, vs, rfl, .cons hx' hxs, hx, hys⟩

namespace LaidOut

variable {rows before after : List Row} {es : List Entry} {e e' : Entry} {rs : List Replacement}
variable {js us vs : List (Join Expr)} {j j' : Join Expr} {i : Option Nat}

theorem empty : LaidOut [] [] [] [] none :=
  ⟨.nil, rfl, .refl _, .absent (by simp)⟩

theorem append_elements (h : LaidOut rows es rs js i) (rs' : List Replacement) :
    LaidOut (rows ++ rs'.map .element) es (rs ++ rs') (js ++ rs'.map (·.join)) i where
  described := List.rel_append h.described (Row.describes_elements rs')
  entries := by
    rw [List.filterMap_append, h.entries, Row.filterMap_given?_elements, List.append_nil]
  elements := by
    rw [List.filterMap_append, Row.filterMap_element?_elements]
    exact h.elements.append_right rs'
  newest := by
    rw [List.map_append, Row.map_origin_elements]
    exact h.newest.append_elements isElement_of_mem_map

theorem append_caller (h : LaidOut rows es rs js i) (hj : e.Describes j) :
    LaidOut (rows ++ [.caller e]) (es ++ [e]) rs (js ++ [j]) (some js.length) where
  described := List.rel_append h.described (.cons hj .nil)
  entries := by rw [List.filterMap_append, h.entries]; rfl
  elements := by
    have hnone : [Row.caller e].filterMap Row.element? = [] := rfl
    rw [List.filterMap_append, hnone, List.append_nil]
    exact h.elements
  newest := by
    have hlength : js.length = (rows.map Row.origin).length := by
      rw [List.length_map, h.described.length_eq]
    rw [List.map_append, hlength]
    exact .append_caller _ _ _

/-- Without entries there is no current join. Otherwise the joins are split at the current one, which
the last entry describes. -/
theorem current_cases (h : LaidOut rows es rs js i) :
    i = none ∧ es = [] ∨
      ∃ before e after us j vs, rows = before ++ .caller e :: after ∧
        (∀ r ∈ after, r.origin.isElement = true) ∧ es = before.filterMap Row.given? ++ [e] ∧
        js = us ++ j :: vs ∧ i = some us.length ∧ List.Forall₂ Row.Describes before us ∧
        e.Describes j ∧ List.Forall₂ Row.Describes after vs := by
  obtain ⟨hrows, rfl, -, hnewest⟩ := h
  generalize hos : rows.map Row.origin = os at hnewest
  cases hnewest with
  | absent hall =>
    exact .inl ⟨rfl, Row.filterMap_given?_eq_nil fun r hr => hall _ (hos ▸ List.mem_map_of_mem hr)⟩
  | last before' k t hafter =>
    obtain ⟨before, rest, rfl, rfl, hrest⟩ := List.map_eq_append_iff.mp hos
    obtain ⟨r, after, rfl, hr, rfl⟩ := List.map_eq_cons_iff.mp hrest
    cases r with
    | element r => cases hr
    | caller e =>
      obtain ⟨us, j, vs, rfl, hbefore, hj, hvs⟩ := forall₂_append_cons_left hrows
      have helement : ∀ r ∈ after, r.origin.isElement = true :=
        fun r hr => hafter _ (List.mem_map_of_mem hr)
      refine .inr ⟨before, e, after, us, j, vs, rfl, helement,
        Row.filterMap_given?_last before e helement, rfl, ?_, hbefore, hj, hvs⟩
      rw [List.length_map, hbefore.length_eq]

theorem change_current (h : LaidOut (before ++ .caller e :: after) es rs js i)
    (hafter : ∀ r ∈ after, r.origin.isElement = true)
    (hus : List.Forall₂ Row.Describes before us) (hj : e'.Describes j')
    (hvs : List.Forall₂ Row.Describes after vs) (rs' : List Replacement) :
    LaidOut (before ++ rs'.map .element ++ .caller e' :: after)
      (before.filterMap Row.given? ++ [e']) (rs ++ rs') (us ++ rs'.map (·.join) ++ j' :: vs)
      (some (us ++ rs'.map (·.join)).length) where
  described :=
    List.rel_append (List.rel_append hus (Row.describes_elements rs')) (.cons hj hvs)
  entries := by
    rw [Row.filterMap_given?_last _ _ hafter, List.filterMap_append,
      Row.filterMap_given?_elements, List.append_nil]
  elements := by
    have helements := h.elements.append_right rs'
    simp only [List.filterMap_append, List.filterMap_cons, Row.element?,
      Row.filterMap_element?_elements, List.append_assoc] at helements ⊢
    exact .trans (.append_left _ List.perm_append_comm) helements
  newest := by
    have hlength : (us ++ rs'.map (·.join)).length =
        ((before ++ rs'.map Row.element).map Row.origin).length := by
      simp [hus.length_eq]
    rw [List.map_append, List.map_cons, hlength]
    refine .last _ _ _ fun o ho => ?_
    obtain ⟨r, hr, rfl⟩ := List.mem_map.mp ho
    exact hafter r hr

end LaidOut

/-- The query says what the ledger does. -/
structure Refines (q : Select Expr) (l : Ledger) : Prop where
  joins : ∃ rows, LaidOut rows l.joins l.elements q.joins q.current
  filter : q.filter = Expr.conjunction? l.filter
  having : q.having = Expr.conjunction? l.having

theorem Refines.empty : Refines .empty .empty :=
  ⟨⟨[], .empty⟩, rfl, rfl⟩

end Query

namespace Join

structure Grows (j j' : Join Expr) : Prop where
  joined : j'.joined = j.joined
  condition : ∃ es, j'.condition = Condition.extend j.condition es
  flags : ∀ f ∈ j.flags, f ∈ j'.flags

theorem Grows.refl (j : Join Expr) : j.Grows j :=
  ⟨rfl, ⟨[], rfl⟩, fun _ => id⟩

theorem Grows.trans {j j' j'' : Join Expr} (h : j.Grows j') (h' : j'.Grows j'') : j.Grows j'' := by
  obtain ⟨es, hes⟩ := h.condition
  obtain ⟨es', hes'⟩ := h'.condition
  refine ⟨h'.joined.trans h.joined, ⟨es ++ es', ?_⟩, fun f hf => h'.flags f (h.flags f hf)⟩
  rw [hes', hes, Condition.extend_append]

instance : Std.Refl Grows :=
  ⟨.refl⟩

instance : IsTrans (Join Expr) Grows :=
  ⟨fun _ _ _ => .trans⟩

end Join

namespace Select

theorem foldl_kept {α β : Type} {f : Select Expr → β → Select Expr} (g : Select Expr → α)
    (h : ∀ q x, g (f q x) = g q) (xs : List β) (q : Select Expr) : g (xs.foldl f q) = g q := by
  induction xs generalizing q with
  | nil => rfl
  | cons x xs ih => exact (ih (f q x)).trans (h q x)

/-- Every join, condition and flag of the first query is still in the second one, in its place. -/
structure Continues (q q' : Select Expr) : Prop where
  joins : List.SublistForall₂ Join.Grows q.joins q'.joins
  filter : ∃ es, q'.filter = Condition.extend q.filter es
  having : ∃ es, q'.having = Condition.extend q.having es

namespace Continues

variable {q q' q'' : Select Expr} {us js vs : List (Join Expr)} {j j' : Join Expr}

theorem refl (q : Select Expr) : q.Continues q :=
  ⟨Std.Refl.refl q.joins, ⟨[], rfl⟩, ⟨[], rfl⟩⟩

theorem trans (h : q.Continues q') (h' : q'.Continues q'') : q.Continues q'' := by
  obtain ⟨es, hes⟩ := h.filter
  obtain ⟨es', hes'⟩ := h'.filter
  obtain ⟨fs, hfs⟩ := h.having
  obtain ⟨fs', hfs'⟩ := h'.having
  refine ⟨IsTrans.trans _ _ _ h.joins h'.joins, ⟨es ++ es', ?_⟩, ⟨fs ++ fs', ?_⟩⟩
  · rw [hes', hes, Condition.extend_append]
  · rw [hfs', hfs, Condition.extend_append]

theorem joins_append (us js : List (Join Expr)) :
    List.SublistForall₂ Join.Grows us (us ++ js) :=
  List.sublistForall₂_iff.mpr
    ⟨us, List.forall₂_refl us, List.sublist_append_left us js⟩

theorem joins_current (us js vs : List (Join Expr)) (h : j.Grows j') :
    List.SublistForall₂ Join.Grows (us ++ j :: vs) (us ++ js ++ j' :: vs) :=
  List.sublistForall₂_iff.mpr
    ⟨us ++ j' :: vs, List.rel_append (List.forall₂_refl us) (.cons h (List.forall₂_refl vs)),
      (List.sublist_append_left us js).append_right _⟩

end Continues

end Select

namespace Query

open AnyPath

/-- A call that takes the query on, so that it says what the ledger does then. -/
structure Advances (q q' : Select Expr) (l : Ledger) : Prop where
  refines : Refines q' l
  continues : q.Continues q'

namespace Refines

variable {b : Builder} {q q' : Select Expr} {l : Ledger}

theorem stay (h : Refines q l) : Advances q q l :=
  ⟨h, .refl q⟩

theorem of_select (h : Refines q l) (hjoins : q'.joins = q.joins ∧ q'.current = q.current)
    (hfilter : q'.filter = q.filter) (hhaving : q'.having = q.having) : Advances q q' l where
  refines :=
    ⟨by rw [hjoins.1, hjoins.2]; exact h.joins, hfilter.trans h.filter, hhaving.trans h.having⟩
  continues := ⟨by rw [hjoins.1]; exact Std.Refl.refl _, ⟨[], hfilter⟩, ⟨[], hhaving⟩⟩

theorem addJoin (h : Refines q l) {e : Entry} {j : Join Expr} (hj : e.Describes j) :
    Advances q (q.addJoin j) { l with joins := l.joins ++ [e] } := by
  obtain ⟨rows, hrows⟩ := h.joins
  exact ⟨⟨⟨_, hrows.append_caller hj⟩, h.filter, h.having⟩,
    Select.Continues.joins_append _ _, ⟨[], rfl⟩, ⟨[], rfl⟩⟩

theorem addSyntheticJoins (h : Refines q l) (ns : List Normalized) :
    Advances q (q.addSyntheticJoins (ns.flatMap (·.joins))) (l.addElements ns) := by
  obtain ⟨rows, hrows⟩ := h.joins
  have happend := hrows.append_elements (ns.flatMap (·.replaced))
  rw [map_join_replaced] at happend
  exact ⟨⟨⟨_, happend⟩, h.filter, h.having⟩,
    Select.Continues.joins_append _ _, ⟨[], rfl⟩, ⟨[], rfl⟩⟩

theorem sources (h : Refines b.select l) (ts : List Expr) :
    Advances b.select (b.sources ts).select { l with joins := l.joins ++ ts.map (.of .plain) } := by
  induction ts generalizing b l with
  | nil => simpa [Builder.sources, Builder.modify] using h.stay
  | cons t ts ih =>
    have ht := h.addJoin (Entry.describes_of .plain t [])
    have hts := ih (b := b.join .plain t) ht.refines
    rw [List.append_assoc] at hts
    exact ⟨hts.refines, ht.continues.trans hts.continues⟩

theorem joinWhen (h : Refines b.select l) (k : JoinKind) (t : Expr) (c : Condition) :
    Advances b.select (b.joinWhen k t c).builder.select (l.record b (.joinWhen k t c)) := by
  cases hr : (b.joinWhen k t c).refusal with
  | some refusal =>
    simp only [Ledger.record, hr]
    rw [Builder.joinWhen_refused hr]
    exact h.stay
  | none =>
    simp only [Ledger.record, hr]
    rw [Builder.joinWhen_select hr]
    have helements := h.addSyntheticJoins (b.normalizedAll [c])
    have hjoin := helements.refines.addJoin
      (Entry.describes_of k t ((b.normalizedAll [c]).map (·.condition)))
    exact ⟨hjoin.refines, helements.continues.trans hjoin.continues⟩

theorem when (h : Refines b.select l) (cs : List Condition) :
    Advances b.select (b.when cs).builder.select (l.record b (.when cs)) := by
  obtain ⟨rows, hrows⟩ := h.joins
  obtain ⟨hi, hes⟩ | ⟨before, e, after, us, j, vs, rfl, hafter, hes, hjs, hi, hus, hj, hvs⟩ :=
    hrows.current_cases
  · have hwhen : (b.when cs).builder = b := by
      simp only [Builder.when, Select.currentJoin?, hi, Option.bind_none]
    rw [hwhen]
    simpa [Ledger.record, hes] using h.stay
  · obtain ⟨-, htarget⟩ : j.kind = e.kind ∧ j.target = e.target := Prod.mk.inj hj.joined
    have hcurrent : b.select.currentJoin? = some j := by
      simp [Select.currentJoin?, hi, hjs]
    have hwhen : b.when cs = b.joinConditions e.target cs := by
      simp only [Builder.when, hcurrent, htarget]
    have hrecord : l.record b (.when cs) =
        let ns := b.accepted e.target cs
        { l.addElements ns with joins := before.filterMap Row.given? ++ [e.addConditions ns] } := by
      cases hr : (b.joinConditions e.target cs).refusal with
      | none =>
        have haccepted := Builder.accepted_of_not_refused hjs hi hr
        simp [Ledger.record, hes, hwhen, hr, haccepted, List.modifyLast_concat]
      | some refusal => simp [Ledger.record, hes, hwhen, hr, List.modifyLast_concat]
    have hlaid := hrows.change_current hafter hus
      (hj.addConditions (b.accepted e.target cs)) hvs
      ((b.accepted e.target cs).flatMap (·.replaced))
    rw [map_join_replaced] at hlaid
    rw [hwhen, Builder.joinConditions_select (b := b) e.target cs hjs hi, hrecord]
    refine ⟨⟨⟨_, hlaid⟩, h.filter, h.having⟩, ?_, ⟨[], rfl⟩, ⟨[], rfl⟩⟩
    rw [hjs]
    exact Select.Continues.joins_current us _ vs ⟨rfl, ⟨_, rfl⟩, fun _ => id⟩

theorem addFlag (h : Refines b.select l) (f : JoinFlag) :
    Advances b.select (b.addFlag f).builder.select (l.record b (.flag f)) := by
  obtain ⟨rows, hrows⟩ := h.joins
  obtain ⟨hi, hes⟩ | ⟨before, e, after, us, j, vs, rfl, hafter, hes, hjs, hi, hus, hj, hvs⟩ :=
    hrows.current_cases
  · have hflag : b.select.addJoinFlag f = .error (.precondition .noJoin) := by
      simp [Select.addJoinFlag, Select.modifyCurrent?, hi, Select.orNoJoin]
    have hrecord : l.record b (.flag f) = l := by
      obtain ⟨joins, filter, having, elements⟩ := l
      obtain rfl : joins = [] := hes
      rfl
    simp only [Builder.addFlag, Builder.attempt, hflag]
    rw [hrecord]
    exact h.stay
  · have hrecord : l.record b (.flag f) =
        { l with joins := before.filterMap Row.given? ++ [e.addFlag f] } := by
      simp [Ledger.record, hes, List.modifyLast_concat]
    have hlaid := hrows.change_current hafter hus (hj.addFlag f) hvs []
    simp only [List.map_nil, List.append_nil, ← hi] at hlaid
    have hgrows : j.Grows (j.addFlag f) :=
      ⟨rfl, ⟨[], rfl⟩, fun _ => JoinFlag.mem_insertInto_of_mem f⟩
    have hjoins := Select.Continues.joins_current us [] vs hgrows
    rw [List.append_nil] at hjoins
    simp only [Builder.addFlag, Builder.attempt, Select.addJoinFlag_eq f hjs hi]
    rw [hrecord]
    refine ⟨⟨⟨_, hlaid⟩, h.filter, h.having⟩, ?_, ⟨[], rfl⟩, ⟨[], rfl⟩⟩
    rw [hjs]
    exact hjoins

theorem filter_call (h : Refines b.select l) (cs : List Condition) :
    Advances b.select (b.filter cs).builder.select (l.record b (.filter cs)) := by
  have helements := h.addSyntheticJoins (b.normalizedAll cs)
  rw [Builder.filter_select]
  refine ⟨⟨helements.refines.joins, ?_, h.having⟩, helements.continues.joins, ⟨_, rfl⟩, ⟨[], rfl⟩⟩
  show Condition.extend b.select.filter _ = Expr.conjunction? (l.filter ++ _)
  rw [h.filter, Condition.extend_conjunction?]

theorem having_call (h : Refines b.select l) (cs : List Condition) :
    Advances b.select (b.having cs).builder.select (l.record b (.having cs)) := by
  have helements := h.addSyntheticJoins (b.normalizedAll cs)
  rw [Builder.having_select]
  refine ⟨⟨helements.refines.joins, h.filter, ?_⟩, helements.continues.joins, ⟨[], rfl⟩, ⟨_, rfl⟩⟩
  show Condition.extend b.select.having _ = Expr.conjunction? (l.having ++ _)
  rw [h.having, Condition.extend_conjunction?]

theorem perform (h : Refines b.select l) (c : Call) :
    Advances b.select (c.perform b).builder.select (l.record b c) := by
  cases c with
  | sources ts => exact h.sources ts
  | join k t => exact h.addJoin (Entry.describes_of k t [])
  | joinAs k t v => exact h.addJoin (Entry.describes_of k _ [])
  | joinWhen k t c => exact h.joinWhen k t c
  | when cs => exact h.when cs
  | flag f => exact h.addFlag f
  | filter cs => exact h.filter_call cs
  | having cs => exact h.having_call cs
  | groupBy es =>
    exact h.of_select (Select.foldl_joins (f := .addGroup) (fun _ _ => ⟨rfl, rfl⟩) es b.select)
      (Select.foldl_kept (f := .addGroup) (·.filter) (fun _ _ => rfl) es b.select)
      (Select.foldl_kept (f := .addGroup) (·.having) (fun _ _ => rfl) es b.select)
  | orderBy os =>
    exact h.of_select (Select.foldl_joins (f := .addOrder) (fun _ _ => ⟨rfl, rfl⟩) os b.select)
      (Select.foldl_kept (f := .addOrder) (·.filter) (fun _ _ => rfl) os b.select)
      (Select.foldl_kept (f := .addOrder) (·.having) (fun _ _ => rfl) os b.select)
  | project es =>
    exact h.of_select (Select.foldl_joins (f := .addProjection) (fun _ _ => ⟨rfl, rfl⟩) es b.select)
      (Select.foldl_kept (f := .addProjection) (·.filter) (fun _ _ => rfl) es b.select)
      (Select.foldl_kept (f := .addProjection) (·.having) (fun _ _ => rfl) es b.select)
  | distinct | unique | limit n | offset n | restrict w | bind p v =>
    exact h.of_select ⟨rfl, rfl⟩ rfl rfl

theorem after (h : Refines b.select l) (calls : List Call) :
    Advances b.select (b.after calls).select (l.recordAll b calls) := by
  induction calls generalizing b l with
  | nil => exact h.stay
  | cons c cs ih =>
    have hc := h.perform c
    have hcs := ih hc.refines
    exact ⟨hcs.refines, hc.continues.trans hcs.continues⟩

theorem current_iff (h : Refines q l) :
    (q.current = none ↔ l.joins = []) ∧
      ∀ e, l.joins.getLast? = some e → ∃ j, q.currentJoin? = some j ∧ e.Describes j := by
  obtain ⟨rows, hrows⟩ := h.joins
  obtain ⟨hi, hes⟩ | ⟨before, e, after, us, j, vs, -, -, hes, hjs, hi, -, hj, -⟩ :=
    hrows.current_cases
  · simp [hi, hes]
  · have hcurrent : q.currentJoin? = some j := by
      simp [Select.currentJoin?, hi, hjs]
    simp [hi, hes, hcurrent, hj]

end Refines

theorem after_refines (normalizing : Bool) (calls more : List Call) :
    let b := (Builder.empty normalizing).after calls
    let l := Ledger.empty.recordAll (.empty normalizing) calls
    Refines b.select l ∧
      ((b.select.current = none ↔ l.joins = []) ∧
        ∀ e, l.joins.getLast? = some e → ∃ j, b.select.currentJoin? = some j ∧ e.Describes j) ∧
      b.select.Continues (b.after more).select := by
  have hempty : Refines (Builder.empty normalizing).select .empty := .empty
  have h := hempty.after calls
  exact ⟨h.refines, h.refines.current_iff, (h.refines.after more).continues⟩

end Query

end QueryText
