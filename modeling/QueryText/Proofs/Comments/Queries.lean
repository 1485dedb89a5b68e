import QueryText.Proofs.Comments.Operations

namespace QueryText.Render

open Comments Operand Render.Query

def Gathers (B : Expr → Prop) (c : Context) (w : Writer) (as : List Expr) : Prop :=
  (∀ a ∈ as, CommentsIff c a.write (B a)) → CommentsIff c w (∃ a ∈ as, B a)

variable {B : Expr → Prop} {c : Context} {v w : Writer} {as bs : List Expr}

namespace Gathers

theorem quiet (h : CommentsIff c w False) : Gathers B c w [] :=
  fun _ => h.congr (by simp)

theorem self (e : Expr) : Gathers B c e.operand.write [e] :=
  fun h => (h e List.mem_cons_self).congr (by simp)

theorem fail (e : QueryError) (as : List Expr) : Gathers B c (.fail e) as :=
  fun _ => .fail e _

theorem append (hv : Gathers B c v as) (hw : Gathers B c w bs) : Gathers B c (v ++ w) (as ++ bs) := by
  intro h
  obtain ⟨ha, hb⟩ := List.forall_mem_append.mp h
  refine ((hv ha).append (hw hb)).congr ?_
  simp only [List.mem_append, or_and_right, exists_or]

theorem behind (hv : CommentsIff c v False) (hw : Gathers B c w as) : Gathers B c (v ++ w) as :=
  (quiet hv).append hw

theorem before (hv : Gathers B c v as) (hw : CommentsIff c w False) : Gathers B c (v ++ w) as := by
  simpa using hv.append (quiet hw)

theorem byRules {f : Rules → Writer} (h : Gathers B c (f c.rules) as) : Gathers B c (.byRules f) as :=
  h

section Rows

variable {α : Type} {f : α → Writer} {parts : α → List Expr} {xs : List α}

theorem all (h : ∀ x ∈ xs, Gathers B c (f x) (parts x)) :
    Gathers B c (.all (xs.map f)) (xs.flatMap parts) := by
  induction xs with
  | nil => exact quiet .nothing
  | cons x xs ih =>
    obtain ⟨hx, hxs⟩ := List.forall_mem_cons.mp h
    exact hx.append (ih hxs)

theorem separated {s : String} (hs : c.rules.Quiet s) (h : ∀ x ∈ xs, Gathers B c (f x) (parts x)) :
    Gathers B c (.separated s (xs.map f)) (xs.flatMap parts) := by
  induction xs with
  | nil => exact quiet .nothing
  | cons x xs ih =>
    obtain ⟨hx, hxs⟩ := List.forall_mem_cons.mp h
    cases xs with
    | nil => simpa [Writer.separated] using hx
    | cons y ys => exact (hx.before (.text hs)).append (ih hxs)

end Rows

variable (hc : c.rules.Calm)

include hc

theorem keyword {k : Keywords → String} (hk : some (k c.rules.keywords) ∈ c.rules.keywords.toList)
    {before after : String} (hb : c.rules.Quiet before) (ha : c.rules.Quiet after) :
    CommentsIff c (.byRules fun r => .text (before ++ k r.keywords ++ after)) False :=
  .byRules (.text ((hb.append (hc.keywords _ hk _ rfl)).append ha))

theorem identifier (n : String) : CommentsIff c (.identifier n) False :=
  .byRules (.text (hc.quiet_identifier n).1)

theorem clauseBreak : CommentsIff c .clauseBreak False :=
  .byRules (.text hc.clauseBreak)

theorem words {s : String}
    (hs : s.toList.all (fun c => Rules.isNameChar c || Rules.punctuation.contains c) = true) :
    CommentsIff c (.text s) False :=
  .text (hc.quiet_words hs)

theorem clause {k : Rules → String} (hk : some (k c.rules) ∈ c.rules.keywords.toList)
    (h : Gathers B c w as) : Gathers B c (Query.clause k w) as := by
  have hword : c.rules.Quiet (k c.rules ++ " ") :=
    (hc.keywords _ hk _ rfl).append (hc.quiet_words (by decide))
  exact .behind ((clauseBreak hc).behind (.byRules (.text hword))) h

def QuietFlags (r : Rules) (j : Join Expr) : Prop :=
  ∀ f ∈ j.flags, r.Quiet f.before ∧ r.Quiet f.after

variable {j first : Join Expr} {rest : List (Join Expr)} {q : Select Expr} {e : Expr} {es : List Expr}

theorem source (hg : c.rules.grammar = .sql) (name : String) (n : Entity) :
    CommentsIff c (writeSource name n) False := by
  intro cs hcs
  simp only [writeSource, hg] at hcs
  refine CommentsIff.behind (.behind (.behind ?_ (identifier hc _)) (words hc (by decide)))
    (identifier hc name) cs hcs
  cases n.schema with
  | none => exact .nothing
  | some s => exact (identifier hc s).behind (words hc (by decide))

theorem target (hg : c.rules.grammar = .sql) (hf : QuietFlags c.rules j) :
    Gathers B c (writeTarget (j.map Expr.operand)) (Select.targetParts j) := by
  refine .behind (.all fun w hw => ?_) ?_
  · obtain ⟨f, hf', rfl⟩ := List.mem_map.mp hw
    exact .text (hf f hf').1
  · simp only [Select.targetParts, Expr.source?, Join.map]
    cases Query.source? j.target.operand with
    | none => exact self j.target
    | some x => exact quiet (source hc hg x.1 x.2)

omit hc in
theorem afterTarget (hf : QuietFlags c.rules j) :
    CommentsIff c (writeAfterTarget (j.map Expr.operand)) False := by
  refine .all fun w hw => ?_
  obtain ⟨f, hf', rfl⟩ := List.mem_map.mp hw
  exact .text (hf f hf').2

theorem condition (o : Option Expr) :
    Gathers B c
      (match o.map Expr.operand with
        | some o => Writer.byRules (fun r => .text (" " ++ r.keywords.condition ++ " ")) ++ o.write
        | none => Writer.nothing) o.toList := by
  have hspace : c.rules.Quiet " " := hc.quiet_words (by decide)
  cases o with
  | none => exact quiet .nothing
  | some e => exact .behind (keyword hc (k := (·.condition)) (by simp [Keywords.toList]) hspace hspace) (self e)

omit hc in
theorem joinKeyword_mem {r : Rules} {kind : JoinKind} {k : String} (h : r.joinKeyword kind = .ok (some k)) :
    some k ∈ r.keywords.toList := by
  unfold Rules.joinKeyword at h
  cases kind with
  | plain => cases h
  | join | inner | left =>
    obtain rfl := Option.some.inj (Except.ok.inj h)
    simp [Keywords.toList]
  | right =>
    cases hword : r.keywords.rightJoin with
    | none => simp [hword, Rules.unsupported] at h
    | some w =>
      obtain rfl : w = k := by simpa [hword] using h
      simp [Keywords.toList, hword]
  | full =>
    cases hword : r.keywords.fullJoin with
    | none => simp [hword, Rules.unsupported] at h
    | some w =>
      obtain rfl : w = k := by simpa [hword] using h
      simp [Keywords.toList, hword]

theorem joinKeyword (kind : JoinKind) :
    CommentsIff c (.lift fun r => (r.joinKeyword kind).map fun k =>
      match k with
      | some k => .text (k ++ " ")
      | none => .nothing) False := by
  have hword {k : String} (hk : some k ∈ c.rules.keywords.toList) : c.rules.Quiet (k ++ " ") :=
    (hc.keywords _ hk _ rfl).append (hc.quiet_words (by decide))
  refine .lift fun w hw => ?_
  obtain ⟨k, hkind, rfl⟩ := Except.map_eq_ok_iff.mp hw
  cases k with
  | none => exact .nothing
  | some k => exact .text (hword (joinKeyword_mem hkind))

theorem laterJoin (hg : c.rules.grammar = .sql) (hf : QuietFlags c.rules j) :
    Gathers B c (writeLaterJoin (j.map Expr.operand)) (Select.laterParts j) := by
  have htarget := target (B := B) hc hg hf
  have hafter := afterTarget hf
  have hcondition := condition (B := B) hc j.condition
  have hkind : (j.map Expr.operand).kind = j.kind := rfl
  unfold writeLaterJoin Select.laterParts
  rw [hkind]
  split
  · rw [List.append_nil]
    exact (behind (words hc (by decide)) htarget).before hafter
  · exact ((behind ((clauseBreak hc).behind (joinKeyword hc j.kind)) htarget).append hcondition).before hafter

theorem sources (hg : c.rules.grammar = .sql) (hf : ∀ j ∈ first :: rest, QuietFlags c.rules j) :
    Gathers B c (writeSources (first.map Expr.operand) (rest.map (Join.map Expr.operand)))
      (Select.targetParts first ++ rest.flatMap Select.laterParts) := by
  obtain ⟨hfirst, hrest⟩ := List.forall_mem_cons.mp hf
  have hword : c.rules.Quiet (c.rules.keywords.source ++ " ") :=
    (hc.keywords _ (by simp [Keywords.toList]) _ rfl).append (hc.quiet_words (by decide))
  simp only [writeSources, List.map_map]
  exact ((behind (.byRules (.text hword)) (target hc hg hfirst)).before (afterTarget hfirst)).append
    (all fun j hj => laterJoin hc hg (hrest j hj))

theorem filter (es : List Expr) :
    Gathers B c (filterClause (es.map Expr.operand)) (Expr.conjunction? es).toList := by
  simp only [filterClause, Windowing.PartsOf.conjunction?_operand]
  cases Expr.conjunction? es with
  | none => exact quiet .nothing
  | some e => exact clause hc (by simp [Keywords.toList]) (self e)

theorem projected (hg : c.rules.grammar = .sql) (e : Expr) :
    Gathers B c (writeProjected e.operand) (Select.projectedParts c.rules e) := by
  simp only [Select.projectedParts, hg, Expr.source?]
  intro h cs hcs
  simp only [writeProjected, hg] at hcs
  cases hs : Query.source? e.operand with
  | none =>
    simp only [hs] at h hcs ⊢
    exact self e h cs hcs
  | some x =>
    simp only [hs] at h hcs ⊢
    exact quiet (B := B) ((identifier hc x.1).behind (words hc (by decide))) h cs hcs

theorem head (hg : c.rules.grammar = .sql) :
    Gathers B c (rowsHead (q.map Expr.operand) (first.map Expr.operand)) (q.rowsParts c.rules first) := by
  have hspace : c.rules.Quiet " " := hc.quiet_words (by decide)
  have hselect : CommentsIff c selectHead False :=
    .byRules (.text ((hc.keywords _ (by simp [Keywords.toList]) _ rfl).append hspace))
  have hdistinct : CommentsIff c (.text (c.rules.keywords.distinct ++ " ")) False :=
    .text ((hc.keywords _ (by simp [Keywords.toList]) _ rfl).append hspace)
  have hprojection : Gathers B c (.separated ", " (q.projection.map fun e => writeProjected e.operand))
      (q.projection.flatMap (Select.projectedParts c.rules)) :=
    separated (hc.quiet_words (by decide)) fun e _ => projected hc hg e
  unfold rowsHead Select.rowsParts
  refine byRules ?_
  simp only [Select.map, List.isEmpty_map, hg, bne_self_eq_false, Bool.and_false, Bool.false_and,
    Bool.false_eq_true, ↓reduceIte, true_or]
  refine before (behind (hselect.behind (.when _ hdistinct)) ?_) (clauseBreak hc)
  split
  · exact quiet (words hc (by decide))
  · simpa only [writeProjection, List.map_map, Function.comp_def] using hprojection

theorem order (o : Order Expr) : Gathers B c (writeOrder (o.map Expr.operand)) [o.target] := by
  have hspace : c.rules.Quiet " " := hc.quiet_words (by decide)
  have hnulls {k : Keywords → Option String} (hk : k c.rules.keywords ∈ c.rules.keywords.toList)
      (construct : Construct) : CommentsIff c (writeOrder.nullsWord k construct) False := by
    refine .byRules ?_
    cases hword : k c.rules.keywords with
    | none => exact fun _ hcs => nomatch hcs
    | some s => exact .text (hspace.append (hc.keywords _ hk s hword))
  refine before (before (before (self o.target) (.text hspace)) (.byRules (.text ?_))) ?_
  · simp only [Order.map]
    cases o.direction <;> exact hc.keywords _ (by simp [Keywords.toList]) _ rfl
  · simp only [Order.map]
    cases o.nulls with
    | unspecified => exact .nothing
    | first | last => exact hnulls (by simp [Keywords.toList]) _

theorem having (o : Option Expr) :
    Gathers B c
      (match o.map Expr.operand with
        | some o => Query.clause (·.keywords.having) o.write
        | none => Writer.nothing) o.toList := by
  cases o with
  | none => exact quiet .nothing
  | some e => exact clause hc (by simp [Keywords.toList]) (self e)

theorem entries {α β : Type} {f : β → Writer} {g : α → β} {part : α → Expr} {k : Rules → String}
    (hk : some (k c.rules) ∈ c.rules.keywords.toList) (hf : ∀ x, Gathers B c (f (g x)) [part x])
    (xs : List α) :
    Gathers B c
      (if (xs.map g).isEmpty then Writer.nothing
        else Query.clause k (.separated ", " ((xs.map g).map f))) (xs.map part) := by
  have hentries : Gathers B c (Query.clause k (.separated ", " (xs.map fun x => f (g x)))) (xs.map part) := by
    rw [show xs.map part = xs.flatMap fun x => [part x] from List.map_eq_flatMap]
    exact clause hc hk (separated (hc.quiet_words (s := ", ") (by decide)) fun x _ => hf x)
  cases xs with
  | nil => exact quiet .nothing
  | cons x xs => simpa [Function.comp_def] using hentries

theorem tail : Gathers B c (writeTail (q.map Expr.operand).unlimited .rows) (q.tailParts .rows) := by
  have hgroups := entries (B := B) hc (k := (·.keywords.groupBy)) (by simp [Keywords.toList]) self q.groupBy
  have horders := entries hc (k := (·.keywords.orderBy)) (by simp [Keywords.toList]) (order (B := B) hc)
    q.orderBy
  rw [List.map_id'] at hgroups
  have hwindow : CommentsIff c (writeWindow .unrestricted) False := by
    intro cs hcs
    rw [writeWindow_unrestricted] at hcs
    exact CommentsIff.nothing cs hcs
  exact (hgroups.append (having hc q.having)).append (horders.before hwindow)

theorem statement (hg : c.rules.grammar = .sql) (hf : ∀ j ∈ q.joins, QuietFlags c.rules j) :
    Gathers B c (writeStatement .rows (q.map Expr.operand).unlimited) (q.statementParts .rows c.rules) := by
  cases hq : q.joins with
  | nil =>
    have hnone : writeStatement .rows (q.map Expr.operand).unlimited = .fail (.precondition .noSource) := by
      simp [writeStatement, Select.unlimited, Select.withWindow, Select.map, hq]
    rw [hnone]
    exact fail _ _
  | cons first rest =>
    rw [Windowing.PartsOf.writeStatement_map .rows hq]
    simp only [Select.statementParts, hq]
    exact (((head hc hg).append (sources hc hg (hq ▸ hf))).append (filter hc q.conditions)).append (tail hc)

omit hc in
theorem line (hb : c.rules.Quiet c.rules.clauseBreak) {s : String} (hs : c.rules.Quiet s) (b : Bool) :
    CommentsIff c (Query.line b s) False :=
  .when b ((CommentsIff.byRules (.text hb)).behind (.text hs))

theorem window (w : Window) : CommentsIff c (writeWindow w) False := by
  have hwords {s : String} := hc.quiet_words (s := s)
  have hnumber (n : UInt64) : c.rules.Quiet (number n) := (hc.quiet_nat n.toNat).1
  have hoption (n : Option UInt64) {before after : String} (hb : c.rules.Quiet before)
      (ha : c.rules.Quiet after) : CommentsIff c (optionLine n before after) False := by
    cases n with
    | none => exact .nothing
    | some n => exact line hc.clauseBreak ((hb.append (hnumber n)).append ha) true
  refine .byRules ?_
  cases c.rules.pagination with
  | limitOffset missing =>
    exact (hoption _ (hwords (by decide)) (hwords (by decide))).behind
      (hoption _ (hwords (by decide)) (hwords (by decide)))
  | offsetFetch =>
    exact (hoption _ (hwords (by decide)) (hwords (by decide))).behind
      (hoption _ (hwords (by decide)) (hwords (by decide)))
  | range =>
    exact line hc.clauseBreak
      ((((hwords (by decide)).append (hnumber _)).append (hwords (by decide))).append (hnumber _)) _
  | external => exact .nothing

theorem rows (hg : c.rules.grammar = .sql) (hf : ∀ j ∈ q.joins, QuietFlags c.rules j) :
    Gathers B c (q.write .rows) (q.parts .rows c.rules) := by
  have hrelational : q.relationalParts .rows c.rules = q.statementParts .rows c.rules := by
    simp [Select.relationalParts, Select.countsAround]
  have hall := (statement (B := B) hc hg hf).before (window hc q.window)
  simp only [Select.parts, hg, hrelational]
  intro h cs hcs
  rw [q.write_eq, Query.write_rows (by simp [hg]), writeStatement_window] at hcs
  exact hall h cs hcs

end Gathers

end QueryText.Render
