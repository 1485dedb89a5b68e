import QueryText.Proofs.Reading.Layout
import QueryText.Proofs.Searching.Searches

namespace QueryText

def Expr.isSubQuery : Expr → Bool
  | subQuery _ => true
  | _ => false

namespace Render

open Operand

variable {c : Config} {params : ParamMap}

theorem Beside.ofItems (path : Option Path) (items : List Value) :
    Beside c params [] (Chunk.ofItems path items) (Chunk.ofItems path items) := by
  induction items with
  | nil => exact .nil
  | cons v vs ih =>
    cases vs with
    | nil => exact .known v path
    | cons w ws => exact (Beside.known v path).append ((Beside.text ", ").append ih)

theorem Beside.ofValue (r : Rules) (path : Option Path) (v : Value) :
    Beside c params [] (Chunk.ofValue r path v) (Chunk.ofValue r path v) := by
  cases v with
  | list items =>
    simp only [Chunk.ofValue]
    split
    · exact ((Beside.text "(").append (.ofItems path items)).append (.text ")")
    · exact .known _ path
  | _ => exact .known _ path

def Follows (c : Config) (params : ParamMap) (ts : List Search) (w : Writer) : Prop :=
  ∀ o ys, w (selecting c params o) = .ok ys →
    ∃ xs, w (changing c params o) = .ok xs ∧ Beside c params ts xs ys

def Tells (c : Config) (params : ParamMap) (s : String) (w : Writer) : Prop :=
  ∀ o, ∃ xs, w (changing c params o) = .ok xs ∧ Says c.rules params xs s

namespace Follows

variable {ts ts' : List Search} {v w : Writer}

theorem nothing : Follows c params [] .nothing := by
  rintro o ys h
  obtain rfl := Except.ok.inj h
  exact ⟨[], rfl, .nil⟩

theorem text (s : String) : Follows c params [] (.text s) := by
  rintro o ys h
  obtain rfl := Except.ok.inj h
  exact ⟨[.text s], rfl, .text s⟩

theorem of_error (h : ∀ o, ∃ e, w (selecting c params o) = .error e) : Follows c params ts w := by
  rintro o ys hy
  obtain ⟨e, he⟩ := h o
  rw [he] at hy
  cases hy

theorem append (h : Follows c params ts v) (h' : Follows c params ts' w) :
    Follows c params (ts ++ ts') (v ++ w) := by
  intro o zs hz
  obtain ⟨ys, ys', hy, hy', rfl⟩ := append_ok hz
  obtain ⟨xs, hx, hxy⟩ := h o ys hy
  obtain ⟨xs', hx', hxy'⟩ := h' o ys' hy'
  exact ⟨xs ++ xs', append_of_ok hx hx', hxy.append hxy'⟩

theorem parenthesized (h : Follows c params ts w) : Follows c params ts (.parenthesized w) := by
  have hw := ((text "(").append h).append (text ")")
  rwa [List.nil_append, List.append_nil] at hw

theorem all {α : Type} {f : α → List Search} {g : α → Writer} {xs : List α}
    (h : ∀ x ∈ xs, Follows c params (f x) (g x)) :
    Follows c params (xs.flatMap f) (.all (xs.map g)) := by
  induction xs with
  | nil => exact nothing
  | cons x xs ih =>
    have hxs : ∀ y ∈ xs, Follows c params (f y) (g y) := fun y hy => h y (List.mem_cons_of_mem x hy)
    exact (h x List.mem_cons_self).append (ih hxs)

end Follows

namespace Tells

variable {s t : String} {w : Writer}

theorem parenthesized (h : Tells c params s w) : Tells c params s (.parenthesized w) := by
  intro o
  obtain ⟨xs, hx, hs⟩ := h o
  exact ⟨_, append_of_ok (append_of_ok rfl hx) rfl, .grouped hs⟩

end Tells

theorem writeValue_changing (v : Value) (o : Option Path) :
    writeValue v (changing c params o) = writeValue v (selecting c params o) := by
  simp only [writeValue, slots_eq]
  rfl

theorem writeValue_follows (v : Value) : Follows c params [] (writeValue v) := by
  intro o ys hy
  refine ⟨ys, (writeValue_changing v o).trans hy, ?_⟩
  cases hl : c.literals with
  | false =>
    have hb : (selecting c params o).Binds := ⟨by simp [selecting, Context.of], hl⟩
    rw [writeValue_eq v _ hb] at hy
    obtain rfl := Except.ok.inj hy
    exact .ofValue _ _ v
  | true =>
    have hi : (selecting c params o).inlining = true := hl
    have hm : (selecting c params o).mode = .resolving := rfl
    simp only [writeValue, hi, hm, ↓reduceIte] at hy
    split at hy
    · obtain rfl := Except.ok.inj hy
      exact .text _
    · cases hy

theorem writeValue_tells (s : String) : Tells c params s (writeValue (.text s)) := by
  intro o
  cases hl : c.literals with
  | false =>
    have hb : (changing c params o).Binds := ⟨by simp [changing, Statement.context, Context.of], hl⟩
    exact ⟨_, writeValue_eq _ _ hb, .slot _ rfl⟩
  | true =>
    have hi : (changing c params o).inlining = true := hl
    have hm : (changing c params o).mode = .deferring := rfl
    refine ⟨[.text (Rules.quotedText s)], ?_, .literal rfl⟩
    simp only [writeValue, hi, hm, ↓reduceIte]
    rfl

theorem says_of_writeValue {s : String} {o : Option Path} {ys : List Chunk}
    (h : writeValue (.text s) (selecting c params o) = .ok ys) : Says c.rules params ys s := by
  have htells : Tells c params s (writeValue (.text s)) := writeValue_tells s
  obtain ⟨xs, hx, hs⟩ := htells o
  rw [writeValue_changing, h] at hx
  obtain rfl := Except.ok.inj hx
  exact hs

theorem pathText_changing (p : Path) (o : Option Path) :
    pathText (changing c params o) p = pathText (changing c params none) p := by
  refine pathText_congr (fun _ => ?_) ?_ ?_ p <;> rfl

theorem pathText_selecting (p : Path) (o : Option Path) :
    pathText (selecting c params o) p = pathText (selecting c params none) p := by
  refine pathText_congr (fun _ => ?_) ?_ ?_ p <;> rfl

theorem writePath_follows (p : Path) : Follows c params [] (writePath p) := by
  intro o ys hy
  have hm : (selecting c params o).mode = .resolving := rfl
  have hm' : (changing c params o).mode = .deferring := rfl
  simp only [writePath, hm, hm'] at hy ⊢
  cases hp : p.throughAny with
  | true => simp [hp, Rules.unsupported] at hy
  | false =>
    rw [hp] at hy
    obtain rfl := Except.ok.inj hy
    refine ⟨_, rfl, ?_⟩
    rw [pathText_changing, pathText_selecting]
    exact .column p

theorem resolve_selecting (p : Param) (o : Option Path) :
    (selecting c params o).resolve p = params.get? p := by
  simp [Context.resolve, selecting, Context.of]

theorem resolve_changing (p : Param) (o : Option Path) :
    (changing c params o).resolve p = params.get? p := by
  simp [Context.resolve, changing, Statement.context, Context.of]

theorem writeParam_changing {p : Param} {v : Value} (hp : params.get? p = some v)
    (hv : v.items? = none) (o : Option Path) :
    writeParam p (changing c params o) = .ok [.slot (.param p) o] := by
  have hm : (changing c params o).mode = .deferring := rfl
  simp only [writeParam, hm, resolve_changing, hp]
  cases v with
  | list items => cases hv
  | _ => rfl

theorem writeParam_follows (p : Param) : Follows c params [] (writeParam p) := by
  intro o ys hy
  have hm : (selecting c params o).mode = .resolving := rfl
  have hm' : (changing c params o).mode = .deferring := rfl
  cases hp : params.get? p with
  | none => simp [writeParam, hm, resolve_selecting, hp] at hy
  | some v =>
    simp only [writeParam, hm, resolve_selecting, hp] at hy
    cases hv : v.items? with
    | none => exact ⟨_, writeParam_changing hp hv o, .param hp hy⟩
    | some items =>
      obtain rfl : v = .list items := by
        cases v <;> simp_all [Value.items?]
      simp only [writeParam, hm', resolve_changing, hp]
      exact writeValue_follows _ o ys hy

theorem writeParam_tells {p : Param} {s : String} (h : params.get? p = some (.text s)) :
    Tells c params s (writeParam p) := fun o =>
  ⟨_, writeParam_changing h rfl o, .slot o (by simp [Execute.lookUp, h])⟩

section Operations

variable {ts ts' : List Search} {s t : String} {a b : Operand}

theorem writeGrouped_follows (h : Follows c params ts a.write) (op : Operator) (rank : Option Nat)
    (position : Nat) (enclosed : Bool) :
    Follows c params ts (writeGrouped op rank position enclosed a) := by
  intro o ys hy
  have hr : (changing c params o).rules = (selecting c params o).rules := rfl
  simp only [writeGrouped, hr] at hy ⊢
  split
  · next hn =>
    rw [if_pos hn] at hy
    exact h.parenthesized o ys hy
  · next hn =>
    rw [if_neg hn] at hy
    exact h o ys hy

theorem writeGrouped_tells (h : Tells c params s a.write) (op : Operator) (rank : Option Nat)
    (position : Nat) (enclosed : Bool) :
    Tells c params s (writeGrouped op rank position enclosed a) := by
  intro o
  simp only [writeGrouped]
  split
  · exact h.parenthesized o
  · exact h o

theorem writeType_follows (e : Expr) : Follows c params [] (writeType e) := by
  intro o ys hy
  have hr : (changing c params o).rules = (selecting c params o).rules := rfl
  simp only [writeType, hr] at hy ⊢
  cases he : e.path?.bind (·.entity?) with
  | none => simp [he, Rules.unsupported] at hy
  | some x =>
    rw [he] at hy
    refine ⟨ys, hy, ?_⟩
    cases hg : (selecting c params o).rules.grammar <;> simp only [hg] at hy <;>
      obtain rfl := Except.ok.inj hy <;> exact .text _

theorem comparing_alike (c : Config) (params : ParamMap) (as : List Operand) (o : Option Path) :
    ∃ o', comparing as (changing c params o) = changing c params o' ∧
      comparing as (selecting c params o) = selecting c params o' := by
  unfold comparing
  cases as.head?.bind (·.expr.path?) with
  | none => exact ⟨o, rfl, rfl⟩
  | some p => exact ⟨some p, rfl, rfl⟩

theorem isEmptyList_alike (e : Expr) (o : Option Path) :
    isEmptyList (changing c params o) e = isEmptyList (selecting c params none) e ∧
      isEmptyList (selecting c params o) e = isEmptyList (selecting c params none) e := by
  cases e <;> simp [isEmptyList, resolve_changing, resolve_selecting]

theorem emptyMembership?_alike (op : Operator) (as : List Operand) (o : Option Path) :
    let settled := emptyMembership? (selecting c params none) op as
    emptyMembership? (changing c params o) op as = settled ∧
      emptyMembership? (selecting c params o) op as = settled := by
  simp only [emptyMembership?, isEmptyList_alike]
  exact ⟨rfl, rfl⟩

abbrev AllFollow (c : Config) (params : ParamMap) (inner : List (List Search))
    (as : List Operand) : Prop :=
  List.Forall₂ (fun ts a => Follows c params ts a.write) inner as

variable {inner : List (List Search)} {as : List Operand}

theorem unsupported_follows (k : Construct) : Follows c params ts (.unsupported k) :=
  .of_error fun _ => ⟨_, rfl⟩

variable {concat : Operand → Operand → Operand} {op : Operator}

theorem writeElement_follows (op : Operator) (rank : Option Nat) (h : AllFollow c params inner as)
    {e : Pattern.Element} (he : e.Bare) :
    Follows c params (e.inside (op.opened inner))
      (writeElement concat op rank as e) := by
  cases e with
  | text t => exact .text _
  | slot s enclosed =>
    have hbare : s.affix = .bare := he
    obtain ⟨-, ha⟩ | ⟨ts, a, hts, ha, hf⟩ := forall₂_getElem?_cases h s.index
    · simp only [writeElement, ha]
      exact unsupported_follows _
    · have hlength : s.index < inner.length := (List.getElem?_eq_some_iff.mp hts).1
      simp only [writeElement, ha, Pattern.Element.inside]
      by_cases hi : op = .instanceOf ∧ s.index = 1
      · have hinside : (op.opened inner)[s.index]? = some [] := by
          rw [Operator.opened, if_pos hi.1, hi.2, List.getElem?_set_self (hi.2 ▸ hlength)]
        rw [hinside, if_pos (by simpa using hi)]
        exact writeType_follows _
      · have hinside : (op.opened inner)[s.index]? = some ts := by
          unfold Operator.opened
          split
          · next hop => rw [List.getElem?_set_ne fun h1 => hi ⟨hop, h1.symm⟩, hts]
          · exact hts
        rw [hinside, if_neg (by simpa using hi)]
        intro o ys hy
        simp only [writeAffixed, hbare, ↓reduceIte] at hy ⊢
        exact writeGrouped_follows hf op rank s.index enclosed o ys hy

theorem writeOperation_follows (h : AllFollow c params inner as) (hop : c.rules.BareOperator op) :
    Follows c params (searchesWithin c params op as inner) (writeOperation concat op as) := by
  intro o ys hy
  have hr : (changing c params o).rules = c.rules := rfl
  have hr' : (selecting c params o).rules = c.rules := rfl
  simp only [writeOperation, emptyMembership?_alike, Rules.require, hr, hr'] at hy ⊢
  cases hm : emptyMembership? (selecting c params none) op as with
  | some s =>
    rw [hm] at hy
    obtain rfl := Except.ok.inj hy
    refine ⟨_, rfl, ?_⟩
    simp only [searchesWithin, hm]
    exact .text s
  | none =>
    cases hrule : c.rules.operators op with
    | none => simp [hm, hrule, Rules.unsupported] at hy
    | some rule =>
      obtain ⟨o', hc, hs⟩ := comparing_alike c params as o
      simp only [searchesWithin, hm, hrule, hc, hs] at hy ⊢
      exact Follows.all (fun e he => writeElement_follows op rule.rank h (hop rule hrule e he)) o' ys hy

theorem concat_settled : Operator.concat ≠ .isIn ∧ Operator.concat ≠ .notIn := by
  decide

theorem concat_follows (hr : c.rules.SearchesByLike) (depth : Nat) (ha : Follows c params ts a.write)
    (hb : Follows c params ts' b.write) :
    Follows c params (ts ++ ts') (operationTo (depth + 1) .concat [a, b]).write := by
  obtain ⟨before, between, behind, rule, us, vs, ws, e, e', hrule, helements, -⟩ := hr.concat
  have hwithin : searchesWithin c params .concat [a, b] [ts, ts'] = ts ++ ts' := by
    simp only [searchesWithin, emptyMembership?_eq_none concat_settled, hrule, helements,
      List.flatMap_append, List.flatMap_cons, Pattern.flatMap_inside_text]
    simp [Pattern.Element.inside, Operator.opened]
  rw [← hwithin]
  exact writeOperation_follows (.cons ha (.cons hb .nil)) (hr.others .concat rfl)

theorem concat_tells (hr : c.rules.SearchesByLike) (depth : Nat) (ha : Tells c params s a.write)
    (hb : Tells c params t b.write) :
    Tells c params (s ++ t) (operationTo (depth + 1) .concat [a, b]).write := by
  intro o
  obtain ⟨before, between, behind, hjoins⟩ := hr.concat
  obtain ⟨rule, us, vs, ws, e, e', hrule, helements, hbefore, hbetween, hbehind⟩ := hjoins
  obtain ⟨o', hc, -⟩ := comparing_alike c params [a, b] o
  have hrules : (changing c params o).rules = c.rules := rfl
  obtain ⟨xs, hx, hs⟩ := writeGrouped_tells ha .concat rule.rank 0 e o'
  obtain ⟨ys, hy, ht⟩ := writeGrouped_tells hb .concat rule.rank 1 e' o'
  refine ⟨before ++ (xs ++ (between ++ (ys ++ behind))), ?_, ?_⟩
  · simp only [operationTo, writeOperation, emptyMembership?_eq_none concat_settled, Rules.require,
      hrules, hrule, hc, helements, List.map_append, List.map_cons]
    rw [hbefore, hbetween, hbehind]
    refine all_append_of_ok (all_texts _ (fun _ => rfl) us _) (append_of_ok hx ?_)
    refine all_append_of_ok (all_texts _ (fun _ => rfl) vs _) (append_of_ok hy ?_)
    exact all_texts _ (fun _ => rfl) ws _
  · have hsays :=
      Says.joined ⟨rule, us, vs, ws, e, e', hrule, helements, hbefore, hbetween, hbehind⟩ hs ht
    simpa only [List.append_assoc] using hsays

end Operations

structure Concatenates (c : Config) (params : ParamMap) (concat : Operand → Operand → Operand) :
    Prop where
  follows {ts ts' : List Search} {a b : Operand} (ha : Follows c params ts a.write)
    (hb : Follows c params ts' b.write) : Follows c params (ts ++ ts') (concat a b).write
  tells {s t : String} {a b : Operand} (ha : Tells c params s a.write)
    (hb : Tells c params t b.write) : Tells c params (s ++ t) (concat a b).write

theorem concatenates (hr : c.rules.SearchesByLike) (depth : Nat) :
    Concatenates c params fun a b => operationTo (depth + 1) .concat [a, b] :=
  ⟨concat_follows hr depth, concat_tells hr depth⟩

section Wildcards

variable {concat : Operand → Operand → Operand} {other : Operand → Writer} {affix : Affix}

theorem withWildcards_follows (hc : Concatenates c params concat) (affix : Affix) {ts : List Search}
    {a : Operand} (h : Follows c params ts a.write) :
    Follows c params ts (withWildcards concat affix a).write := by
  have hp : Follows c params [] percent.write := writeValue_follows _
  cases affix with
  | bare => exact h
  | leading => exact hc.follows hp h
  | trailing =>
    rw [← List.append_nil ts]
    exact hc.follows h hp
  | both =>
    rw [← List.append_nil ts]
    exact hc.follows (hc.follows hp h) hp

theorem withWildcards_tells (hc : Concatenates c params concat) (affix : Affix) {s : String}
    {a : Operand} (h : Tells c params s a.write) :
    Tells c params (affix.apply s) (withWildcards concat affix a).write := by
  have hp : Tells c params "%" percent.write := writeValue_tells "%"
  cases affix with
  | bare => exact h
  | leading => exact hc.tells hp h
  | trailing => exact hc.tells h hp
  | both => exact hc.tells (hc.tells hp h) hp

/-- How the rest of an operation writes an operand that may have wildcards around it. -/
structure Passes (c : Config) (params : ParamMap) (other : Operand → Writer) : Prop where
  follows {ts : List Search} {a : Operand} (h : Follows c params ts a.write) :
    Follows c params ts (other a)
  tells {s : String} {a : Operand} (h : Tells c params s a.write) : Tells c params s (other a)

theorem writeGrouped_passes (op : Operator) (rank : Option Nat) (position : Nat) (enclosed : Bool) :
    Passes c params (writeGrouped op rank position enclosed) :=
  ⟨fun h => writeGrouped_follows h op rank position enclosed,
    fun h => writeGrouped_tells h op rank position enclosed⟩

theorem parenthesized_passes : Passes c params fun a => Writer.parenthesized a.write :=
  ⟨Follows.parenthesized, Tells.parenthesized⟩

theorem writeAffixed_unknown (hc : Concatenates c params concat) (ho : Passes c params other)
    (haffix : affix ≠ .bare) {ts : List Search} {a : Operand} (h : Follows c params ts a.write)
    (hs : ∀ o, knownText? (selecting c params o) a.expr = none)
    (hch : ∀ o, knownText? (changing c params o) a.expr = none) :
    Follows c params ts (writeAffixed concat affix a other) := by
  intro o ys hy
  simp only [writeAffixed, haffix, ↓reduceIte, hs, hch] at hy ⊢
  exact ho.follows (withWildcards_follows hc affix h) o ys hy

theorem knownText?_selecting (p : Param) (o : Option Path) :
    knownText? (selecting c params o) (.param p) = (params.get? p).bind Value.text? := by
  rw [← resolve_selecting p o]
  rfl

theorem writeAffixed_param (hc : Concatenates c params concat) (ho : Passes c params other)
    (haffix : affix ≠ .bare) {p : Param} {s : String} (hp : params.get? p = some (.text s))
    {o : Option Path} {ys : List Chunk}
    (hy : writeAffixed concat affix (.param p) other (selecting c params o) = .ok ys) :
    ∃ xs, writeAffixed concat affix (.param p) other (changing c params o) = .ok xs ∧
      Says c.rules params xs (affix.apply s) ∧
      Says c.rules params ys (affix.apply (c.rules.escapeLike s)) := by
  have hselect : knownText? (selecting c params o) (.param p) = some s := by
    rw [knownText?_selecting, hp]
    rfl
  have hchange : knownText? (changing c params o) (.param p) = none := rfl
  have htells := ho.tells (withWildcards_tells hc affix (a := .param p) (writeParam_tells hp))
  obtain ⟨xs, hx, hsays⟩ := htells o
  simp only [writeAffixed, haffix, ↓reduceIte, Operand.param, hselect] at hy
  simp only [writeAffixed, haffix, ↓reduceIte, Operand.param, hchange]
  exact ⟨xs, hx, hsays, says_of_writeValue hy⟩

theorem writeAffixed_cases (hc : Concatenates c params concat) (ho : Passes c params other)
    (haffix : affix ≠ .bare) (e : Expr) (h : Follows c params (e.searches c params) e.operand.write) :
    e.searched? params = none ∧
        Follows c params (e.searches c params) (writeAffixed concat affix e.operand other) ∨
      ∃ s, e.searched? params = some s ∧ e.searches c params = [] ∧
        ∀ o ys, writeAffixed concat affix e.operand other (selecting c params o) = .ok ys →
          ∃ xs, writeAffixed concat affix e.operand other (changing c params o) = .ok xs ∧
            Says c.rules params xs (affix.apply s) ∧
            Says c.rules params ys (affix.apply (c.rules.escapeLike s)) := by
  cases e with
  | path p | operation op args | custom f args | subQuery q =>
    exact .inl ⟨rfl, writeAffixed_unknown hc ho haffix h (fun _ => rfl) fun _ => rfl⟩
  | constant v =>
    refine .inl ⟨rfl, ?_⟩
    cases hv : v.text? with
    | none => exact writeAffixed_unknown hc ho haffix h (fun _ => hv) fun _ => hv
    | some s =>
      intro o ys hy
      have hk : ∀ d : Context, knownText? d (Expr.constant v).operand.expr = some s := fun _ => hv
      simp only [writeAffixed, haffix, ↓reduceIte, hk] at hy ⊢
      exact writeValue_follows _ o ys hy
  | param p =>
    cases hp : (params.get? p).bind Value.text? with
    | none =>
      have hselect : ∀ o, knownText? (selecting c params o) (.param p) = none :=
        fun o => (knownText?_selecting p o).trans hp
      exact .inl ⟨hp, writeAffixed_unknown hc ho haffix h hselect fun _ => rfl⟩
    | some s =>
      obtain ⟨v, hv, htext⟩ := Option.bind_eq_some_iff.mp hp
      obtain rfl : v = .text s := by
        cases v <;> simp_all [Value.text?]
      exact .inr ⟨s, hp, rfl, fun o ys hy => writeAffixed_param hc ho haffix hv hy⟩

theorem searchesOfAll_eq_map (es : List Expr) :
    Expr.searchesOfAll c params es = es.map (·.searches c params) := by
  induction es with
  | nil => rfl
  | cons e es ih => rw [Expr.searchesOfAll, List.map_cons, ih]

theorem allFollow_operands {es : List Expr}
    (h : ∀ e ∈ es, Follows c params (e.searches c params) e.operand.write) :
    AllFollow c params (Expr.searchesOfAll c params es) (Expr.operands es) := by
  rw [searchesOfAll_eq_map, Expr.operands_eq_map, AllFollow, List.forall₂_map_left_iff,
    List.forall₂_map_right_iff, List.forall₂_same]
  exact h

theorem pattern_follows (hc : Concatenates c params concat) (ho : Passes c params other)
    (haffix : affix ≠ .bare) (e : Expr) (h : Follows c params (e.searches c params) e.operand.write) :
    Follows c params ((e.searched? params).toList.map (⟨affix, ·⟩) ++ e.searches c params)
      (.text " like " ++ (writeAffixed concat affix e.operand other ++ .text " escape '!'")) := by
  obtain ⟨hnone, hf⟩ | ⟨s, hs, hinner, hf⟩ := writeAffixed_cases hc ho haffix e h
  · rw [hnone]
    have hlike : Follows c params [] (.text " like ") := .text _
    simpa using hlike.append (hf.append (.text " escape '!'"))
  · rw [hs, hinner]
    intro o zs hz
    obtain ⟨front, rest, hfront, hrest, rfl⟩ := append_ok hz
    obtain ⟨ys, behind, hy, hbehind, rfl⟩ := append_ok hrest
    obtain rfl := Except.ok.inj hfront
    obtain rfl := Except.ok.inj hbehind
    obtain ⟨xs, hx, hxs, hys⟩ := hf o ys hy
    refine ⟨_, append_of_ok rfl (append_of_ok hx rfl), ?_⟩
    rw [← List.append_assoc, ← List.append_assoc]
    exact .search hxs hys

theorem test_follows (hc : Concatenates c params concat) {op : Operator} (rank : Option Nat)
    (hop : op.affix? = some affix) {args : List Expr}
    (h : ∀ e ∈ args, Follows c params (e.searches c params) e.operand.write) :
    let inner := Expr.searchesOfAll c params args
    Follows c params
      ((inner[0]?).getD [] ++
        (((args[1]?).bind (Expr.searched? params)).toList.map (⟨affix, ·⟩) ++ (inner[1]?).getD []))
      (.all ([.slot ⟨0, .bare⟩ false, .text " like ".toList, .slot ⟨1, affix⟩ false,
        .text " escape '!'".toList].map (writeElement concat op rank (Expr.operands args)))) := by
  intro inner
  have hinstance : op ≠ .instanceOf := by
    rintro rfl
    cases hop
  have haffix : affix ≠ .bare := by
    rintro rfl
    cases op <;> cases hop
  have hfirst : Follows c params ((inner[0]?).getD [])
      (writeElement concat op rank (Expr.operands args) (.slot ⟨0, .bare⟩ false)) := by
    have hopened : op.opened inner = inner := if_neg hinstance
    rw [← hopened]
    exact writeElement_follows op rank (allFollow_operands h) rfl
  refine hfirst.append ?_
  have hoperand : (Expr.operands args)[1]? = (args[1]?).map Expr.operand := by
    rw [Expr.operands_eq_map, List.getElem?_map]
  have hinner : inner[1]? = (args[1]?).map (·.searches c params) := by
    simp only [inner, searchesOfAll_eq_map, List.getElem?_map]
  simp only [List.map_cons, List.map_nil, Writer.all, append_nothing, writeElement, hoperand, hinner]
  cases he : args[1]? with
  | none => exact .of_error fun o => ⟨_, rfl⟩
  | some e =>
    have hpattern := pattern_follows hc (writeGrouped_passes op rank 1 false) haffix e
      (h e (List.mem_of_getElem? he))
    simpa [hinstance] using hpattern

theorem writeCustomElement_follows (hc : Concatenates c params Operand.concat) (f : Fragment)
    {args : List Expr} (h : ∀ e ∈ args, Follows c params (e.searches c params) e.operand.write)
    (e : Pattern.Element) :
    Follows c params (e.inside (Expr.searchesOfAll c params args))
      (writeCustomElement f (Expr.operands args) e) := by
  cases e with
  | text t => exact .text _
  | slot s enclosed =>
    simp only [writeCustomElement, Pattern.Element.inside, searchesOfAll_eq_map, Expr.operands_eq_map,
      List.getElem?_map]
    cases he : args[s.index]? with
    | none => exact unsupported_follows _
    | some e =>
      have hfollows := h e (List.mem_of_getElem? he)
      by_cases hbare : s.affix = .bare
      · intro o ys hy
        simp only [Option.map_some, writeAffixed, hbare, ↓reduceIte] at hy ⊢
        exact hfollows o ys hy
      · simp only [Option.map_some, hbare, ↓reduceIte]
        obtain ⟨-, hf⟩ | ⟨t, -, hinner, hf⟩ :=
          writeAffixed_cases hc parenthesized_passes hbare e hfollows
        · exact hf
        · intro o ys hy
          obtain ⟨xs, hx, hxs, hys⟩ := hf o ys hy
          refine ⟨xs, hx, ?_⟩
          rw [Option.getD_some, hinner]
          exact Beside.fragment (t := ⟨s.affix, t⟩) hxs hys

theorem operation_follows (hr : c.rules.SearchesByLike) (op : Operator) {args : List Expr}
    (h : ∀ e ∈ args, Follows c params (e.searches c params) e.operand.write) :
    Follows c params ((Expr.operation op args).searches c params)
      (Expr.operation op args).operand.write := by
  change Follows c params _
    (writeOperation (fun a b => operationTo 5 .concat [a, b]) op (Expr.operands args))
  unfold Expr.searches
  cases hop : op.affix? with
  | none => exact writeOperation_follows (allFollow_operands h) (hr.others op hop)
  | some affix =>
    obtain ⟨rule, hrule, helements⟩ := hr.tests op affix hop
    have hsettled : op ≠ .isIn ∧ op ≠ .notIn := by
      constructor <;> rintro rfl <;> cases hop
    intro o ys hy
    have hrules : (changing c params o).rules = c.rules := rfl
    have hrules' : (selecting c params o).rules = c.rules := rfl
    obtain ⟨o', hcomparing, hcomparing'⟩ := comparing_alike c params (Expr.operands args) o
    simp only [writeOperation, emptyMembership?_eq_none hsettled, Rules.require, hrules, hrules', hrule,
      helements, hcomparing, hcomparing'] at hy ⊢
    exact test_follows (concatenates hr 4) rule.rank hop h o' ys hy

theorem custom_follows (hr : c.rules.SearchesByLike) (f : Fragment) {args : List Expr}
    (h : ∀ e ∈ args, Follows c params (e.searches c params) e.operand.write) :
    Follows c params ((Expr.custom f args).searches c params)
      (Expr.custom f args).operand.write := by
  intro o ys hy
  have hrules : (changing c params o).rules = c.rules := rfl
  have hrules' : (selecting c params o).rules = c.rules := rfl
  simp only [Expr.operand, Operand.custom, hrules, hrules'] at hy ⊢
  cases hf : f.supports c.rules.dialect with
  | false => simp [hf, Rules.unsupported] at hy
  | true =>
    simp only [hf, ↓reduceIte] at hy ⊢
    exact Follows.all (fun e _ => writeCustomElement_follows (concatenates hr 5) f h e) o ys hy

end Wildcards

mutual

theorem write_follows (hr : c.rules.SearchesByLike) :
    (e : Expr) → (∀ n ∈ e.nodes [], n.expr.isSubQuery = false) →
      Follows c params (e.searches c params) e.operand.write
  | .path p, _ => writePath_follows p
  | .constant v, _ => writeValue_follows v
  | .param p, _ => writeParam_follows p
  | .operation op args, h =>
    operation_follows hr op (write_all_follow hr args fun n hn => h n (by simp [Expr.nodes, hn]))
  | .custom f args, h =>
    custom_follows hr f (write_all_follow hr args fun n hn => h n (by simp [Expr.nodes, hn]))
  | .subQuery q, h => by
    have hq := h ⟨[], .subQuery q⟩ (by simp [Expr.nodes])
    cases hq

theorem write_all_follow (hr : c.rules.SearchesByLike) :
    (es : List Expr) → (∀ n ∈ Expr.nodesOfAll [] es, n.expr.isSubQuery = false) →
      ∀ e ∈ es, Follows c params (e.searches c params) e.operand.write
  | [], _ => by simp
  | e :: es, h =>
    List.forall_mem_cons.mpr
      ⟨write_follows hr e fun n hn => h n (by simp [Expr.nodesOfAll, hn]),
        write_all_follow hr es fun n hn => h n (by simp [Expr.nodesOfAll, hn])⟩

end

end Render

end QueryText
