import QueryText.Proofs.Comments.Queries
import QueryText.Proofs.OneLine.Operands

namespace QueryText.Render

open Operand Render.Query

/-- The operands of a join are on one line once its rules are, and so are its flags. -/
structure SpaceableJoin (inlining : Bool) (scopes : List ParamMap) (j : Join Operand) : Prop where
  target : j.target.Spaceable inlining scopes
  condition : ∀ o ∈ j.condition.toList, o.Spaceable inlining scopes
  flags : ∀ f ∈ j.flags, Unbroken f.before ∧ Unbroken f.after

structure SpaceableSelect (inlining : Bool) (scopes : List ParamMap) (q : Select Operand) : Prop where
  joins : ∀ j ∈ q.joins, SpaceableJoin inlining scopes j
  filter : ∀ o ∈ q.filter.toList, o.Spaceable inlining scopes
  having : ∀ o ∈ q.having.toList, o.Spaceable inlining scopes
  groupBy : ∀ o ∈ q.groupBy, o.Spaceable inlining scopes
  orderBy : ∀ o ∈ q.orderBy, o.target.Spaceable inlining scopes
  projection : ∀ o ∈ q.projection, o.Spaceable inlining scopes

variable {inlining : Bool} {scopes : List ParamMap} {c : Context} {v w : Writer} {o : Operand}
  {os : List Operand} {j first : Join Operand} {rest : List (Join Operand)} {q : Select Operand}

namespace Spaces

variable (hr : c.rules.Spaceable)

include hr

theorem keyword (k : Keywords → String) (hk : some (k c.rules.keywords) ∈ c.rules.keywords.toList) :
    Spaced c (.byRules fun r => .text (k r.keywords ++ " ")) :=
  keywordText (fun ks => k ks ++ " ") ((hr.keyword hk).append (by decide))

theorem clause (k : Keywords → String) (hk : Unbroken (k c.rules.keywords)) (h : Spaces c v w) :
    Spaces c (clause (fun r => k r.keywords) v) (clause (fun r => k r.keywords) w) :=
  ((clauseBreak hr).append (keywordText (fun ks => k ks ++ " ") (hk.append (by decide)))).append h

end Spaces

section Clauses

variable (hc : c.Within inlining scopes)

theorem source?_spaceable (h : o.Spaceable inlining scopes) {x : String × Entity} (hx : source? o = some x) :
    Unbroken x.1 ∧ x.2.Unbroken := by
  unfold source? at hx
  split at hx
  · next p hp =>
    obtain ⟨e, he, rfl⟩ := Option.map_eq_some_iff.mp hx
    have hpath : p.Unbroken := h.path (by rw [hp]; rfl)
    exact ⟨hpath.name, hpath.rootEntity he⟩
  · cases hx

theorem conjunction?_spaceable (h : ∀ o ∈ os, o.Spaceable inlining scopes) :
    ∀ o ∈ conjunction? os, o.Spaceable inlining scopes := by
  cases os with
  | nil => nofun
  | cons a os =>
    rintro _ ⟨⟩
    obtain ⟨ha, hos⟩ := List.forall_mem_cons.mp h
    clear h
    induction os generalizing a with
    | nil => exact ha
    | cons b os ih =>
      obtain ⟨hb, hos⟩ := List.forall_mem_cons.mp hos
      exact ih _ (operation_spaceable .and (by simpa using ⟨ha, hb⟩)) hos

include hc

theorem filterClause_spaces (h : ∀ o ∈ os, o.Spaceable inlining scopes) : Spaced c (filterClause os) := by
  have hall := conjunction?_spaceable h
  unfold filterClause
  cases hos : conjunction? os with
  | none => exact .nothing
  | some o =>
    exact .clause hc.rules (·.filter) (hc.rules.keyword (by simp [Keywords.toList])) ((hall o hos).write hc)

theorem writeSource_spaces {name : String} (hn : Unbroken name) {e : Entity} (he : e.Unbroken) :
    Spaced c (writeSource name e) := by
  have hname := Spaces.identifier hc.rules hn
  have hobject : Spaced c (.text (e.simpleName ++ " ") ++ .identifier name) :=
    (Spaces.text (he.simpleName.append (by decide))).append hname
  have hgrammar : c.onOneLine.rules.grammar = c.rules.grammar := rfl
  unfold Spaced Spaces writeSource
  rw [hgrammar]
  cases c.rules.grammar with
  | jpql | jdoql => exact hobject
  | sql =>
    refine Spaces.append (.append (.append ?_ (.identifier hc.rules he.table)) (.text (by decide))) hname
    cases hs : e.schema with
    | none => exact .nothing
    | some s => exact (Spaces.identifier hc.rules (he.schema s hs)).append (.text (by decide))

theorem writeTarget_spaces (h : SpaceableJoin inlining scopes j) : Spaced c (writeTarget j) := by
  unfold writeTarget
  refine .append (.all fun f hf => .text (h.flags f hf).1) ?_
  cases hs : source? j.target with
  | none => exact h.target.write hc
  | some x =>
    obtain ⟨hname, hentity⟩ := source?_spaceable h.target hs
    exact writeSource_spaces hc hname hentity

omit hc in
theorem writeAfterTarget_spaces (h : SpaceableJoin inlining scopes j) : Spaced c (writeAfterTarget j) :=
  .all fun f hf => .text (h.flags f hf).2

theorem writeProjected_spaces (h : o.Spaceable inlining scopes) : Spaced c (writeProjected o) := by
  have hgrammar : c.onOneLine.rules.grammar = c.rules.grammar := rfl
  unfold Spaced Spaces writeProjected
  rw [hgrammar]
  split
  · next hs =>
    exact (Spaces.identifier hc.rules (source?_spaceable h hs).1).append (.text (by decide))
  · exact h.write hc

theorem joinKeyword_spaces (kind : JoinKind) :
    Spaced c (.lift fun r => (r.joinKeyword kind).map fun k =>
      match k with
      | some k => .text (k ++ " ")
      | none => .nothing) := by
  refine .lift rfl fun w hw => ?_
  obtain ⟨k, hk, rfl⟩ := Except.map_eq_ok_iff.mp hw
  cases k with
  | none => exact .nothing
  | some k => exact .text ((hc.rules.keyword (Gathers.joinKeyword_mem hk)).append (by decide))

theorem writeLaterJoin_spaces (h : SpaceableJoin inlining scopes j) : Spaced c (writeLaterJoin j) := by
  have htarget := writeTarget_spaces hc h
  have hafter := writeAfterTarget_spaces (c := c) h
  unfold writeLaterJoin
  split
  · exact ((Spaces.text (by decide)).append htarget).append hafter
  · have hhead := (Spaces.clauseBreak hc.rules).append (joinKeyword_spaces hc j.kind)
    refine .append (.append (hhead.append htarget) ?_) hafter
    have hword : Unbroken (" " ++ c.rules.keywords.condition ++ " ") :=
      (Unbroken.append (by decide) (hc.rules.keyword (by simp [Keywords.toList]))).append (by decide)
    cases hj : j.condition with
    | none => exact .nothing
    | some o =>
      exact (Spaces.keywordText (fun ks => " " ++ ks.condition ++ " ") hword).append
        ((h.condition o (by simp [hj])).write hc)

theorem writeSources_spaces (h : ∀ j ∈ first :: rest, SpaceableJoin inlining scopes j) :
    Spaced c (writeSources first rest) := by
  obtain ⟨hfirst, hrest⟩ := List.forall_mem_cons.mp h
  refine .append (.append (.append ?_ ?_) ?_) (.all fun j hj => ?_)
  · exact .keyword hc.rules (·.source) (by simp [Keywords.toList])
  · exact writeTarget_spaces hc hfirst
  · exact writeAfterTarget_spaces hfirst
  · exact writeLaterJoin_spaces hc (hrest j hj)

theorem selectHead_spaces : Spaced c selectHead :=
  .keyword hc.rules (·.select) (by simp [Keywords.toList])

omit hc in
theorem call_spaces {name : String} (hn : Unbroken name) (h : Spaces c v w) :
    Spaces c (call name v) (call name w) :=
  ((Spaces.text (hn.append (by decide))).append h).append (.text (by decide))

theorem countDistinct_spaces (h : Spaced c w) : Spaced c (countDistinct w) := by
  have hdistinct : Spaced c (.text (c.rules.keywords.distinct ++ " ")) :=
    .text ((hc.rules.keyword (by simp [Keywords.toList])).append (by decide))
  exact .byRules (call_spaces (by decide) (hdistinct.append h))

theorem writeCount_spaces (h : SpaceableSelect inlining scopes q)
    (hfirst : SpaceableJoin inlining scopes first) : Spaced c (writeCount q first) := by
  have htarget := hfirst.target.write hc
  have hprojection := h.projection
  unfold writeCount
  split
  · split
    · exact countDistinct_spaces hc htarget
    · next o ho => exact countDistinct_spaces hc ((hprojection o (by simp [ho])).write hc)
    · exact .unsupported _
  · refine .byRules ?_
    have hsame : c.rules.onOneLine.keywords.countAll = c.rules.keywords.countAll := rfl
    simp only [hsame]
    cases hk : c.rules.keywords.countAll with
    | none => exact call_spaces (by decide) htarget
    | some s => exact .text (hc.rules.keywords _ (by simp [Keywords.toList]) s hk)

theorem writeOrder_spaces {x : Order Operand} (h : x.target.Spaceable inlining scopes) :
    Spaced c (writeOrder x) := by
  have hnulls {k : Keywords → Option String} (hk : k c.rules.keywords ∈ c.rules.keywords.toList)
      (construct : Construct) : Spaced c (writeOrder.nullsWord k construct) := by
    refine .byRules ?_
    have hsame : k c.rules.onOneLine.keywords = k c.rules.keywords := rfl
    simp only [hsame]
    cases hs : k c.rules.keywords with
    | none => exact .unsupported _
    | some s => exact .text (Unbroken.append (by decide) (hc.rules.keyword (hs ▸ hk)))
  refine .append (.append (.append (h.write hc) (.text (by decide))) ?_) ?_
  · cases x.direction with
    | ascending => exact .keywordText (·.ascending) (hc.rules.keyword (by simp [Keywords.toList]))
    | descending => exact .keywordText (·.descending) (hc.rules.keyword (by simp [Keywords.toList]))
  · cases x.nulls with
    | unspecified => exact .nothing
    | first | last => exact hnulls (by simp [Keywords.toList]) _

theorem line_spaces (b : Bool) {s : String} (hs : Unbroken s) : Spaced c (line b s) :=
  .when b ((Spaces.clauseBreak hc.rules).append (.text hs))

theorem optionLine_spaces (n : Option UInt64) {before after : String} (hb : Unbroken before)
    (ha : Unbroken after) : Spaced c (optionLine n before after) := by
  cases n with
  | none => exact .nothing
  | some n => exact line_spaces hc true ((hb.append (unbroken_nat n.toNat)).append ha)

theorem writeWindow_spaces (x : Window) : Spaced c (writeWindow x) := by
  refine .byRules ?_
  have hsame : c.rules.onOneLine.pagination = c.rules.pagination := rfl
  simp only [hsame]
  cases c.rules.pagination with
  | limitOffset missing | offsetFetch =>
    refine .append (optionLine_spaces hc _ ?_ ?_) (optionLine_spaces hc _ ?_ ?_)
    all_goals decide
  | range =>
    have hnumber (n : UInt64) : Unbroken (number n) := unbroken_nat n.toNat
    exact line_spaces hc _ (((Unbroken.append (by decide) (hnumber _)).append (by decide)).append (hnumber _))
  | external => exact .nothing

theorem writeTail_spaces (h : SpaceableSelect inlining scopes q) (form : Form) :
    Spaced c (writeTail q form) := by
  refine .append (.append ?_ ?_) (.when _ (.append ?_ (writeWindow_spaces hc q.window)))
  · split
    · exact .nothing
    · exact .clause hc.rules (·.groupBy) (hc.rules.keyword (by simp [Keywords.toList]))
        (.separated (by decide) fun o ho => (h.groupBy o ho).write hc)
  · cases hh : q.having with
    | none => exact .nothing
    | some o =>
      exact .clause hc.rules (·.having) (hc.rules.keyword (by simp [Keywords.toList]))
        ((h.having o (by simp [hh])).write hc)
  · split
    · exact .nothing
    · exact .clause hc.rules (·.orderBy) (hc.rules.keyword (by simp [Keywords.toList]))
        (.separated (by decide) fun x hx => writeOrder_spaces hc (h.orderBy x hx))

theorem writeProjection_spaces (h : SpaceableSelect inlining scopes q) :
    Spaced c (writeProjection q.projection) :=
  .separated (by decide) fun o ho => writeProjected_spaces hc (h.projection o ho)

theorem rowsHead_spaces (h : SpaceableSelect inlining scopes q)
    (hfirst : SpaceableJoin inlining scopes first) : Spaced c (rowsHead q first) := by
  refine .byRules ?_
  have hsame : c.rules.onOneLine.grammar = c.rules.grammar := rfl
  simp only [hsame]
  split
  · exact .nothing
  · refine .append (.append (.append (selectHead_spaces hc) (.when _ ?_)) ?_) (.clauseBreak hc.rules)
    · have hdistinct := hc.rules.keyword (s := c.rules.keywords.distinct) (by simp [Keywords.toList])
      exact .text (hdistinct.append (by decide))
    · split
      · split
        · exact .text (by decide)
        · exact hfirst.target.write hc
      · exact writeProjection_spaces hc h

omit hc in
theorem sourceConditions_spaceable (h : ∀ j ∈ first :: rest, SpaceableJoin inlining scopes j) :
    ∀ o ∈ sourceConditions first rest, o.Spaceable inlining scopes := by
  intro o ho
  obtain ho | ho := List.mem_append.mp ho
  · exact (h first List.mem_cons_self).condition o ho
  · obtain ⟨j, hj, ho⟩ := List.mem_flatMap.mp ho
    exact (h j (List.mem_cons_of_mem _ (List.mem_filter.mp hj).1)).condition o ho

theorem writeStatement_spaces (h : SpaceableSelect inlining scopes q) (form : Form) :
    Spaced c (writeStatement form q) := by
  have hjoins := h.joins
  unfold writeStatement
  split
  · exact .fail _
  · next first rest hq =>
    rw [hq] at hjoins
    have hfirst := hjoins first List.mem_cons_self
    refine .append (.append (.append ?_ (writeSources_spaces hc hjoins)) (filterClause_spaces hc ?_))
      (writeTail_spaces hc h form)
    · split
      · exact ((selectHead_spaces hc).append (writeCount_spaces hc h hfirst)).append (.clauseBreak hc.rules)
      · exact rowsHead_spaces hc h hfirst
    · exact List.forall_mem_append.mpr ⟨sourceConditions_spaceable hjoins, h.filter⟩

theorem writeRelational_spaces (h : SpaceableSelect inlining scopes q) (form : Form) :
    Spaced c (writeRelational form q) := by
  refine .byRules ?_
  have hsame : c.rules.onOneLine.grammar = c.rules.grammar := rfl
  simp only [hsame]
  split
  · have hcount : Unbroken (c.rules.keywords.countAll.getD "count(*)") := by
      cases hk : c.rules.keywords.countAll with
      | none => exact (by decide : Unbroken "count(*)")
      | some s => exact hc.rules.keyword (hk ▸ by simp [Keywords.toList])
    have hsource : Unbroken (c.rules.keywords.source ++ " (") :=
      (hc.rules.keyword (by simp [Keywords.toList])).append (by decide)
    have hhead := (selectHead_spaces hc).append (.keywordText (·.countAll.getD "count(*)") hcount)
    have hopen := (hhead.append (.clauseBreak hc.rules)).append (.keywordText (·.source ++ " (") hsource)
    exact (hopen.append (writeStatement_spaces hc h .countedRows)).append (.text (by decide))
  · exact writeStatement_spaces hc h form

omit hc in
theorem unbroken_declaration {p : Path} (hp : p.Unbroken) : Unbroken (declaration p) := by
  have htype : Unbroken (typeName p.kind) := by
    cases hk : p.kind with
    | entity e => exact (hp.entity (e := e) (by simp [Path.entity?, hk, Kind.entity?])).typeName
    | _ =>
      rw [typeName]
      decide
  exact (htype.append (by decide)).append hp.name

omit hc in
theorem declared_spaceable (h : SpaceableJoin inlining scopes j) {p : Path} {ties : List Operand}
    (hj : declared j = .ok (p, ties)) : p.Unbroken ∧ ∀ o ∈ ties, o.Spaceable inlining scopes := by
  unfold declared at hj
  split at hj
  · next he =>
    split at hj
    · next collection o os hargs =>
      have hall := h.target.args
      rw [hargs] at hall
      obtain ⟨hcollection, ho, -⟩ : _ ∧ _ ∧ _ := by simpa using hall
      split at hj
      · next v hv =>
        obtain ⟨rfl, rfl⟩ := Prod.mk.inj (Except.ok.inj hj)
        have hp : v.Unbroken := ho.path (by rw [hv]; rfl)
        refine ⟨hp, List.forall_mem_singleton.mpr (operation_spaceable .isIn ?_)⟩
        simpa using ⟨path_spaceable hp, hcollection⟩
      · cases hj
    · cases hj
  · next he =>
    split at hj
    · obtain ⟨rfl, rfl⟩ := Prod.mk.inj (Except.ok.inj hj)
      exact ⟨h.target.path (by rw [he]; rfl), nofun⟩
    · cases hj
  · cases hj

omit hc in
theorem declarations_spaceable (h : ∀ j ∈ rest, SpaceableJoin inlining scopes j) {ps : List Path}
    (hjs : declarations rest = .ok (ps, os)) :
    (∀ p ∈ ps, p.Unbroken) ∧ ∀ o ∈ os, o.Spaceable inlining scopes := by
  induction rest generalizing ps os with
  | nil =>
    obtain ⟨rfl, rfl⟩ := Prod.mk.inj (Except.ok.inj hjs)
    exact ⟨nofun, nofun⟩
  | cons j rest ih =>
    obtain ⟨hj, hrest⟩ := List.forall_mem_cons.mp h
    unfold declarations at hjs
    split at hjs
    · cases hjs
    · next p ties hd =>
      split at hjs
      · cases hjs
      · next qs conditions hds =>
        obtain ⟨rfl, rfl⟩ := Prod.mk.inj (Except.ok.inj hjs)
        obtain ⟨hp, hties⟩ := declared_spaceable hj hd
        obtain ⟨hqs, hconditions⟩ := ih hrest hds
        exact ⟨List.forall_mem_cons.mpr ⟨hp, hqs⟩, List.forall_mem_append.mpr
          ⟨List.forall_mem_append.mpr ⟨hties, hj.condition⟩, hconditions⟩⟩

theorem variablesClause_spaces {ps : List Path} (h : ∀ p ∈ ps, p.Unbroken) :
    Spaced c (variablesClause ps) := by
  unfold variablesClause
  split
  · exact .nothing
  · refine .clause hc.rules (·.variableList.getD "VARIABLES") ?_
      (.text (notMem_intercalate (by decide) fun s hs => ?_))
    · cases hk : c.rules.keywords.variableList with
      | none => exact (by decide : Unbroken "VARIABLES")
      | some s => exact hc.rules.keywords _ (by simp [Keywords.toList]) s hk
    · obtain ⟨p, hp, rfl⟩ := List.mem_map.mp hs
      exact unbroken_declaration (h p hp)

theorem objectCount_spaces (h : SpaceableSelect inlining scopes q) : Spaced c (objectCount q) := by
  have hprojection := h.projection
  unfold objectCount
  split
  · split
    · exact countDistinct_spaces hc (.text (by decide))
    · next o ho => exact countDistinct_spaces hc ((hprojection o (by simp [ho])).write hc)
    · exact .unsupported _
  · refine .keywordText (·.countAll.getD "count(this)") ?_
    cases hk : c.rules.keywords.countAll with
    | none => exact (by decide : Unbroken "count(this)")
    | some s => exact hc.rules.keywords _ (by simp [Keywords.toList]) s hk

theorem objectHead_spaces (h : SpaceableSelect inlining scopes q) : Spaced c (objectHead q) := by
  unfold objectHead
  split
  · exact .nothing
  · have hprojection := (Spaces.text (c := c) (s := " ") (by decide)).append (writeProjection_spaces hc h)
    refine .append (.append (.byRules ?_) (.when _ hprojection)) (.clauseBreak hc.rules)
    have hsame : c.rules.onOneLine.keywords = c.rules.keywords := rfl
    simp only [hsame]
    refine .append (.append (.text (hc.rules.keyword (by simp [Keywords.toList]))) (.when _ ?_))
      (.when _ (.text (Unbroken.append (by decide) (hc.rules.keyword (by simp [Keywords.toList])))))
    cases hk : c.rules.keywords.unique with
    | none => exact .nothing
    | some s => exact .text (Unbroken.append (by decide) (hc.rules.keyword (hk ▸ by simp [Keywords.toList])))

theorem objectClauses_spaces (h : SpaceableSelect inlining scopes q) (form : Form) {name : String}
    (hn : Unbroken name) {e : Entity} (he : e.Unbroken) (hfirst : SpaceableJoin inlining scopes first)
    (hrest : ∀ j ∈ rest, SpaceableJoin inlining scopes j) :
    Spaced c (objectClauses form q name e first rest) := by
  have hnested : c.onOneLine.nested = c.nested := rfl
  unfold Spaced Spaces objectClauses
  rw [hnested]
  have hsource : Unbroken (c.rules.keywords.source ++ " " ++ e.typeName) :=
    ((hc.rules.keyword (by simp [Keywords.toList])).append (by decide)).append he.typeName
  have hcandidate := Spaces.keywordText (c := c) (fun ks => ks.source ++ " " ++ e.typeName) hsource
  refine Spaces.append (.append (.append (.append ?_ hcandidate) (.when _ (.text ?_))) ?_)
    (writeTail_spaces hc h form)
  · split
    · exact ((selectHead_spaces hc).append (objectCount_spaces hc h)).append (.clauseBreak hc.rules)
    · exact objectHead_spaces hc h
  · exact Unbroken.append (by decide) hn
  · split
    · exact .unsupported _
    · next ps conditions hds =>
      obtain ⟨hps, hconditions⟩ := declarations_spaceable hrest hds
      refine .append (filterClause_spaces hc ?_) (variablesClause_spaces hc hps)
      exact List.forall_mem_append.mpr ⟨List.forall_mem_append.mpr ⟨hfirst.condition, hconditions⟩, h.filter⟩

theorem writeObject_spaces (h : SpaceableSelect inlining scopes q) (form : Form) :
    Spaced c (writeObject form q) := by
  have hjoins := h.joins
  unfold writeObject
  split
  · exact .fail _
  · next first rest hq =>
    rw [hq] at hjoins
    obtain ⟨hfirst, hrest⟩ := List.forall_mem_cons.mp hjoins
    split
    · next p name e _ hs =>
      obtain ⟨hn, he⟩ := source?_spaceable hfirst.target hs
      have hcandidate : (if c.nested then c else { c with candidate := some p }).Within inlining scopes := by
        split
        · exact hc
        · exact hc.about c.compared (some p)
      have hclauses := objectClauses_spaces hcandidate h form hn he hfirst hrest
      have hsame : (if c.onOneLine.nested then c.onOneLine else { c.onOneLine with candidate := some p }) =
          (if c.nested then c else { c with candidate := some p }).onOneLine := by
        cases hnested : c.nested <;> simp [Context.onOneLine, hnested]
      unfold Spaced Spaces at *
      rw [← hsame] at hclauses
      exact hclauses
    · exact .unsupported _

theorem write_spaces (h : SpaceableSelect inlining scopes q) (form : Form) :
    Spaced c (Query.write form q) := by
  refine .byRules ?_
  have hsame : c.rules.onOneLine.grammar = c.rules.grammar := rfl
  simp only [hsame]
  split
  · exact writeObject_spaces hc h form
  · exact writeRelational_spaces hc h form

end Clauses

theorem subQuery_spaceable {e : Expr} (hpath : e.path? = none) (hknown : ∀ c, knownText? c e = none)
    (h : SpaceableSelect inlining (q.params :: scopes) q) : (subQuery e q).Spaceable inlining scopes :=
  .of_write hpath hknown nofun fun _ hc => Spaces.parenthesized (write_spaces (hc.inside q.params) h .rows)

end QueryText.Render
