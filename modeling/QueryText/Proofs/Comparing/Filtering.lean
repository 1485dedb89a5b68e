import QueryText.Proofs.Comparing.Ambient
import QueryText.Proofs.Places.Request

namespace QueryText

open Render

/-- Both operands of the operation are written, the first one first. -/
def Rules.WritesInOrder (r : Rules) (op : Operator) : Prop :=
  ∃ (rule : OperatorRule) (ts us vs : List (List Char)) (e e' : Bool),
    r.operators op = some rule ∧
      rule.pattern.elements =
        ts.map .text ++ (.slot ⟨0, .bare⟩ e :: (us.map .text ++ .slot ⟨1, .bare⟩ e' :: vs.map .text))

theorem Rules.writesInOrder_ofDialect (d : Dialect) {op : Operator} (hop : op = .and ∨ op = .or) :
    (Rules.ofDialect d).WritesInOrder op := by
  obtain rfl | rfl := hop
  · cases d with
    | jdoql =>
      exact ⟨_, [], [" && ".toList], [], false, false, rfl, by decide +kernel⟩
    | _ => exact ⟨_, [], [" and ".toList], [], false, false, rfl, by decide +kernel⟩
  · cases d with
    | jdoql =>
      exact ⟨_, [], [" || ".toList], [], false, false, rfl, by decide +kernel⟩
    | _ => exact ⟨_, [], [" or ".toList], [], false, false, rfl, by decide +kernel⟩

namespace Render

open Operand

variable {a b : Expr} {c : Context}

theorem writeGrouped_framed (op : Operator) (rank : Option Nat) (position : Nat) (enclosed : Bool)
    (o : Operand) (c : Context) :
    ∃ before after, writeGrouped op rank position enclosed o c = framed before (o.write c) after := by
  unfold writeGrouped
  split
  · exact ⟨["("], [")"], by simp only [Writer.parenthesized, append_apply, framed, joined_assoc]; rfl⟩
  · exact ⟨[], [], (framed_nil _).symm⟩

theorem comparing_pair (hc : c.compared = none) :
    comparing (Expr.operands [a, b]) c = c.comparedOr a.path? := by
  have hhead : (Expr.operands [a, b]).head?.bind (·.expr.path?) = a.path? := by
    simp [Expr.operands, Expr.expr_operand]
  unfold comparing
  rw [hhead]
  cases a.path? with
  | none => simp only [Context.comparedOr, Option.or_none]
  | some p => simp only [Context.comparedOr, hc, Option.none_or]

theorem againstResult_path? (a : Expr) (c : Context) : againstResult a.path? (a.write c) = a.write c := by
  cases a with
  | path p =>
    change againstResult (some p) (writePath p c) = writePath p c
    obtain ⟨e, he⟩ | ⟨s, hs⟩ := writePath_cases p c
    · rw [he]
      rfl
    · rw [hs]
      rfl
  | _ =>
    have hnone : Chunk.against none = id := by
      funext x
      cases x <;> simp [Chunk.against]
    simp only [Expr.path?, againstResult, hnone, List.map_id_fun]
    cases Expr.write _ c <;> rfl

def Textual (x : Except QueryError (List Chunk)) : Prop :=
  ∀ xs, x = .ok xs → Chunk.bindings xs = [] ∧ Chunk.paths xs = []

namespace Textual

variable {x y : Except QueryError (List Chunk)}

theorem texts (ss : List String) : Textual (.ok (Chunk.ofTexts ss)) := by
  rintro _ ⟨⟩
  exact ⟨Chunk.bindings_ofTexts ss, Chunk.paths_ofTexts ss⟩

theorem text (s : String) : Textual (.ok [.text s]) :=
  texts [s]

theorem nothing : Textual (.ok []) :=
  texts []

theorem error (e : QueryError) : Textual (.error e) := by
  rintro _ ⟨⟩

theorem joined (hx : Textual x) (hy : Textual y) : Textual (joined x y) := by
  intro zs hz
  obtain ⟨xs, ys, rfl, rfl, rfl⟩ := joined_ok hz
  obtain ⟨hb, hp⟩ := hx xs rfl
  obtain ⟨hb', hp'⟩ := hy ys rfl
  simp [hb, hp, hb', hp']

end Textual

def Writer.WritesText (w : Writer) : Prop :=
  ∀ c, Textual (w c)

namespace Writer.WritesText

variable {v w : Writer}

theorem text (s : String) : (Writer.text s).WritesText :=
  fun _ => .text s

theorem nothing : Writer.nothing.WritesText :=
  fun _ => .nothing

theorem append (hv : v.WritesText) (hw : w.WritesText) : (v ++ w).WritesText := by
  intro c
  rw [append_apply]
  exact (hv c).joined (hw c)

theorem byRules {w : Rules → Writer} (h : ∀ r, (w r).WritesText) : (Writer.byRules w).WritesText :=
  fun c => h c.rules c

theorem when (b : Bool) (h : w.WritesText) : (Writer.when b w).WritesText := by
  cases b with
  | false => exact nothing
  | true => exact h

theorem clauseBreak : Writer.clauseBreak.WritesText :=
  byRules fun _ => text _

theorem path (p : Path) : (writePath p).WritesText := by
  intro c
  obtain ⟨e, he⟩ | ⟨s, hs⟩ := writePath_cases p c
  · exact he ▸ .error e
  · exact hs ▸ .text s

theorem call (name : String) (h : w.WritesText) : (Query.call name w).WritesText :=
  ((text _).append h).append (text _)

theorem source (name : String) (e : Entity) : (Query.writeSource name e).WritesText := by
  intro c
  unfold Query.writeSource
  split
  · refine ((append (append ?_ (byRules fun _ => text _)) (text _)).append (byRules fun _ => text _)) c
    cases e.schema with
    | none => exact nothing
    | some s => exact (byRules fun _ => text _).append (text _)
  · exact ((text _).append (byRules fun _ => text _)) c

theorem window : (Query.writeWindow .unrestricted).WritesText := by
  intro c
  rw [Query.writeWindow_unrestricted]
  exact .nothing

end Writer.WritesText

/-- A pair of predicates stands between texts. Values of the second one without a path of their own get
the first one where that is a path. -/
theorem write_pair {op : Operator} (hop : op = .and ∨ op = .or) (hr : c.rules.WritesInOrder op)
    (hc : c.compared = none) (a b : Expr) :
    ∃ x y z, Textual x ∧ Textual y ∧ Textual z ∧ (Expr.operation op [a, b]).write c =
      joined x (joined (a.write c) (joined y (joined (againstResult a.path? (b.write c)) z))) := by
  obtain ⟨rule, ts, us, vs, e, e', hrule, helements⟩ := hr
  have hsettled : op ≠ .isIn ∧ op ≠ .notIn := by
    obtain rfl | rfl := hop <;> decide
  have hempty : emptyMembership? c op (Expr.operands [a, b]) = none := emptyMembership?_eq_none hsettled c _
  have hinstance : op ≠ .instanceOf := by
    obtain rfl | rfl := hop <;> decide
  have hslot (concat : Operand → Operand → Operand) (i : Nat) (enclosed : Bool) (o : Operand)
      (ho : (Expr.operands [a, b])[i]? = some o) :
      writeElement concat op rule.rank (Expr.operands [a, b]) (.slot ⟨i, .bare⟩ enclosed) =
        writeGrouped op rule.rank i enclosed o := by
    funext d
    simp [writeElement, ho, hinstance, writeAffixed]
  obtain ⟨before, after, ha⟩ := writeGrouped_framed op rule.rank 0 e a.operand (c.comparedOr a.path?)
  obtain ⟨before', after', hb⟩ := writeGrouped_framed op rule.rank 1 e' b.operand (c.comparedOr a.path?)
  have hwriteA : a.operand.write (c.comparedOr a.path?) = a.write c :=
    (write_comparedOr a.path? c a).trans (againstResult_path? a c)
  have hwriteB : b.operand.write (c.comparedOr a.path?) = againstResult a.path? (b.write c) :=
    write_comparedOr a.path? c b
  have htexts (ts : List (List Char)) :
      Textual (.ok (ts.map (.text <| String.ofList ·))) := by
    have htexts := Textual.texts (ts.map String.ofList)
    rw [Chunk.ofTexts, List.map_map] at htexts
    exact htexts
  refine ⟨_, _, _, (htexts ts).joined (.texts before),
    (Textual.texts after).joined ((htexts us).joined (.texts before')),
    (Textual.texts after').joined (htexts vs), ?_⟩
  change writeOperation _ op (Expr.operands [a, b]) c = _
  simp only [writeOperation, hempty, Rules.require, hrule, comparing_pair hc, helements, List.map_append,
    List.map_cons, all_append, Writer.all, append_apply]
  rw [hslot _ 0 e a.operand rfl, hslot _ 1 e' b.operand rfl, ha, hb, hwriteA, hwriteB,
    all_texts _ (fun _ => rfl), all_texts _ (fun _ => rfl), all_texts _ (fun _ => rfl)]
  simp only [framed, joined_assoc]

end Render

/-- What is done with the rows that a filter selects. -/
inductive Filtering.Purpose where
  | list
  | count
  | delete

/-- Rows of one entity are selected by a predicate alone. -/
structure Filtering where
  purpose : Filtering.Purpose
  entity : Entity
  name : String
  params : ParamMap
  config : Config

namespace Filtering

variable (f : Filtering)

def source : Path :=
  .source f.entity f.name

def select (e : Expr) : Select Expr :=
  { Select.empty with joins := [.of .plain (.path f.source)], filter := some e, params := f.params }

def request (e : Expr) : Request :=
  match f.purpose with
  | .list => .rows (f.select e) f.config
  | .count => .count (f.select e) f.config
  | .delete => .change (.delete ⟨f.config, f.source, some e, f.params⟩)

def outer : Context :=
  match f.purpose with
  | .list | .count => .of f.config.rules .resolving f.config.literals [f.params]
  | .delete => Statement.context f.config f.params

def context : Context :=
  if f.config.rules.grammar = .jdoql then { f.outer with candidate := some f.source } else f.outer

theorem rules_outer : f.outer.rules = f.config.rules := by
  unfold outer
  cases f.purpose <;> rfl

theorem compared_outer : f.outer.compared = none := by
  unfold outer
  cases f.purpose <;> rfl

theorem rules_context : f.context.rules = f.config.rules := by
  unfold context
  split <;> exact f.rules_outer

theorem compared_context : f.context.compared = none := by
  unfold context
  split <;> exact f.compared_outer

section Select

open Query Operand Writer

variable (form : Form) (c : Context)

def first : Join Operand :=
  .of .plain (Operand.path f.source)

theorem writeSources_textual : (writeSources f.first []).WritesText := by
  refine .append (.append (.append (.byRules fun _ => .text _) ?_) .nothing) .nothing
  exact .append .nothing (.source _ _)

def filterHead : Writer :=
  clauseBreak ++ byRules fun r => text (r.keywords.filter ++ " ")

theorem filterHead_textual : filterHead.WritesText :=
  .append .clauseBreak (.byRules fun _ => .text _)

theorem filterClause_eq (e : Expr) :
    filterClause (sourceConditions f.first [] ++ [e.operand]) = filterHead ++ e.write := rfl

def bare : Select Operand :=
  (f.select (.path f.source)).map Expr.operand

theorem writeTail_textual : (writeTail f.bare form).WritesText :=
  .append (.append .nothing .nothing) (.when _ (.append .nothing .window))

def relationalHead : Writer :=
  match form with
  | .count => selectHead ++ writeCount f.bare f.first ++ clauseBreak
  | .rows | .countedRows => rowsHead f.bare f.first

theorem writeCount_textual : (writeCount f.bare f.first).WritesText := by
  simp only [writeCount, show f.bare.distinct = false from rfl, Bool.false_eq_true, ↓reduceIte]
  refine .byRules fun r => ?_
  cases r.keywords.countAll with
  | none => exact .call _ (.path f.source)
  | some s => exact .text s

theorem rowsHead_textual : (rowsHead f.bare f.first).WritesText := by
  have hrows : rowsHead f.bare f.first = byRules fun r =>
      if r.grammar != .sql && true then nothing
      else selectHead ++ nothing ++ (if r.grammar = .sql then text "*" else writePath f.source) ++
        clauseBreak := rfl
  rw [hrows]
  refine .byRules fun r => ?_
  split
  · exact .nothing
  · refine .append (.append (.append (.byRules fun _ => .text _) .nothing) ?_) .clauseBreak
    split
    · exact .text _
    · exact .path _

theorem relationalHead_textual : (f.relationalHead form).WritesText := by
  cases form with
  | count => exact .append (.append (.byRules fun _ => .text _) f.writeCount_textual) .clauseBreak
  | rows | countedRows => exact f.rowsHead_textual

def candidateHead : Writer :=
  match form with
  | .count => selectHead ++ byRules (fun r => text (r.keywords.countAll.getD "count(this)")) ++ clauseBreak
  | .rows | .countedRows => nothing

theorem candidateHead_textual : (candidateHead form).WritesText := by
  cases form with
  | count => exact .append (.append (.byRules fun _ => .text _) (.byRules fun _ => .text _)) .clauseBreak
  | rows | countedRows => exact .nothing

theorem write_relational (hg : c.rules.grammar ≠ .jdoql) (e : Expr) :
    (f.select e).write form c =
      (f.relationalHead form ++ writeSources f.first [] ++
        filterClause (sourceConditions f.first [] ++ [e.operand]) ++ writeTail f.bare form) c := by
  rw [Select.write_eq]
  cases form with
  | count =>
    rw [Query.write_count hg rfl]
    rfl
  | rows | countedRows =>
    rw [Query.write_relational hg]
    rfl

theorem write_object (hg : c.rules.grammar = .jdoql) (hn : c.nested = false) (e : Expr) :
    (f.select e).write form c =
      (candidateHead form ++ byRules (fun r => text (r.keywords.source ++ " " ++ f.entity.typeName)) ++
        nothing ++ (filterClause (sourceConditions f.first [] ++ [e.operand]) ++ nothing) ++
        writeTail f.bare form) { c with candidate := some f.source } := by
  have hobject := Windowing.writeObject_map (q := f.select e) (c := c) form rfl
  rw [Select.write_eq]
  simp only [Query.write, byRules, hg]
  refine hobject.trans ?_
  simp only [hn]
  cases form <;> rfl

theorem write_select (hn : c.nested = false) : ∃ x y, Textual x ∧ Textual y ∧ ∀ e,
    (f.select e).write form c = joined x (joined
      (e.write (if c.rules.grammar = .jdoql then { c with candidate := some f.source } else c)) y) := by
  by_cases hg : c.rules.grammar = .jdoql
  · have hhead := ((candidateHead_textual form).append
      (.byRules fun r => .text (r.keywords.source ++ " " ++ f.entity.typeName))).append filterHead_textual
    refine ⟨_, _, hhead { c with candidate := some f.source },
      f.writeTail_textual form { c with candidate := some f.source }, fun e => ?_⟩
    rw [if_pos hg, f.write_object form c hg hn, f.filterClause_eq]
    simp only [append_apply, nothing, nil_joined, joined_assoc]
  · have hhead := ((f.relationalHead_textual form).append f.writeSources_textual).append filterHead_textual
    refine ⟨_, _, hhead c, f.writeTail_textual form c, fun e => ?_⟩
    rw [if_neg hg, f.write_relational form c hg, f.filterClause_eq]
    simp only [append_apply, joined_assoc]

end Select

theorem writeTarget_textual : (Statement.writeTarget f.name f.entity).WritesText := by
  refine .byRules fun r => ?_
  cases r.grammar with
  | sql =>
    refine .append ?_ (.byRules fun _ => .text _)
    cases f.entity.schema with
    | none => exact .nothing
    | some s => exact .append (.byRules fun _ => .text _) (.text _)
  | jpql | jdoql => exact .text _

theorem write_delete (c : Context) : ∃ x y, Textual x ∧ Textual y ∧ ∀ e : Expr,
    Delete.write ⟨f.config, f.source, some e, f.params⟩ f.entity c = joined x (joined
      (e.write (if c.rules.grammar = .jdoql then { c with candidate := some f.source } else c)) y) := by
  have hdelete := (Writer.WritesText.byRules (w := fun r => .text (r.keywords.deleteFrom ++ " "))
    fun _ => .text _).append f.writeTarget_textual
  generalize hd : (if c.rules.grammar = .jdoql then { c with candidate := some f.source } else c) = d
  refine ⟨_, _, (hdelete c).joined (filterHead_textual d), .nothing, fun e => ?_⟩
  have hfilter : Statement.writeFilter (some e) = filterHead ++ e.write := rfl
  simp only [Delete.write, append_apply, Statement.aboutTarget, hd, hfilter, joined_nil, joined_assoc]
  rfl

theorem chunks_request : ∃ x y, Textual x ∧ Textual y ∧
    ∀ e, (f.request e).chunks = joined x (joined (e.write f.context) y) := by
  have hcontext : f.context =
      if f.outer.rules.grammar = .jdoql then { f.outer with candidate := some f.source } else f.outer := by
    rw [context, f.rules_outer]
  rw [hcontext]
  cases hp : f.purpose with
  | list =>
    have houter : f.outer = .of f.config.rules .resolving f.config.literals [f.params] := by
      simp [outer, hp]
    simp only [request, hp, houter]
    exact f.write_select .rows (.of f.config.rules .resolving f.config.literals [f.params]) rfl
  | count =>
    have houter : f.outer = .of f.config.rules .resolving f.config.literals [f.params] := by
      simp [outer, hp]
    simp only [request, hp, houter]
    exact f.write_select .count (.of f.config.rules .resolving f.config.literals [f.params]) rfl
  | delete =>
    have houter : f.outer = Statement.context f.config f.params := by
      simp [outer, hp]
    simp only [request, hp, houter]
    exact f.write_delete (Statement.context f.config f.params)

theorem accepts_request (e e' : Expr) (bs : List Binding) :
    (f.request e).Accepts bs ↔ (f.request e').Accepts bs := by
  unfold request
  cases f.purpose <;> rfl

variable {f} {op : Operator} {a b : Expr} {w : WrittenStatement}

/-- Whatever is written of a statement, its slots are those of the predicate; and for a predicate with
no other values, a statement is written as well. -/
theorem written_request {e : Expr} (h : (f.request e).written = .ok w) :
    ∃ cs, e.write f.context = .ok cs ∧ (f.request e).Accepts (Chunk.bindings cs) ∧
      w.paths = Chunk.paths cs ∧
      ∀ (e' : Expr) (cs' : List Chunk), e'.write f.context = .ok cs' →
        (f.request e').Accepts (Chunk.bindings cs') →
        ∃ w', (f.request e').written = .ok w' ∧ w'.paths = Chunk.paths cs' := by
  obtain ⟨x, y, hx, hy, hchunks⟩ := f.chunks_request
  obtain ⟨all, hall, haccepts, rfl⟩ := Request.written_iff.mp h
  rw [hchunks e] at hall
  obtain ⟨xs, _, rfl, hrest, rfl⟩ := joined_ok hall
  obtain ⟨cs, ys, he, rfl, rfl⟩ := joined_ok hrest
  obtain ⟨hxb, hxp⟩ := hx xs rfl
  obtain ⟨hyb, hyp⟩ := hy ys rfl
  have hbindings (cs : List Chunk) : Chunk.bindings (xs ++ (cs ++ ys)) = Chunk.bindings cs := by
    simp [hxb, hyb]
  have hpaths (cs : List Chunk) : Chunk.paths (xs ++ (cs ++ ys)) = Chunk.paths cs := by
    simp [hxp, hyp]
  refine ⟨cs, he, hbindings cs ▸ haccepts, hpaths cs, fun e' cs' he' haccepts' => ?_⟩
  refine ⟨_, Request.written_iff.mpr ⟨xs ++ (cs' ++ ys), ?_, ?_, rfl⟩, hpaths cs'⟩
  · rw [hchunks e', he', joined_ok_ok, joined_ok_ok]
  · rwa [hbindings]

theorem paths_pair (hop : op = .and ∨ op = .or) (hr : f.config.rules.WritesInOrder op)
    (h : (f.request (.operation op [a, b])).written = .ok w) :
    ∃ wa wb, (f.request a).written = .ok wa ∧ (f.request b).written = .ok wb ∧
      w.paths = wa.paths ++ wb.paths.map (·.or a.path?) := by
  obtain ⟨cs, hpair, haccepts, hpaths, hothers⟩ := written_request h
  obtain ⟨x, y, z, hx, hy, hz, hwrite⟩ :=
    write_pair hop (f.rules_context ▸ hr) f.compared_context a b
  rw [hwrite] at hpair
  obtain ⟨xs, _, rfl, hbehind, rfl⟩ := joined_ok hpair
  obtain ⟨as, _, ha, hbehind', rfl⟩ := joined_ok hbehind
  obtain ⟨ys, _, rfl, hbehind'', rfl⟩ := joined_ok hbehind'
  obtain ⟨_, zs, hagainst, rfl, rfl⟩ := joined_ok hbehind''
  obtain ⟨bs, hb, rfl⟩ := againstResult_ok hagainst
  obtain ⟨hxb, hxp⟩ := hx xs rfl
  obtain ⟨hyb, hyp⟩ := hy ys rfl
  obtain ⟨hzb, hzp⟩ := hz zs rfl
  have hslots : (f.request (.operation op [a, b])).Accepts (Chunk.bindings as ++ Chunk.bindings bs) := by
    simpa [hxb, hyb, hzb] using haccepts
  obtain ⟨hacceptsA, hacceptsB⟩ := (Request.accepts_append _ _ _).mp hslots
  obtain ⟨wa, hwa, hpathsA⟩ := hothers a as ha ((f.accepts_request _ _ _).mp hacceptsA)
  obtain ⟨wb, hwb, hpathsB⟩ := hothers b bs hb ((f.accepts_request _ _ _).mp hacceptsB)
  refine ⟨wa, wb, hwa, hwb, ?_⟩
  rw [hpaths, hpathsA, hpathsB]
  simp [hxp, hyp, hzp]

end Filtering

end QueryText
