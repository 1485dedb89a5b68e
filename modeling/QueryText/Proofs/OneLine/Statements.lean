import QueryText.Proofs.OneLine.Queries
import QueryText.Proofs.Places.Request

namespace QueryText

open Render

/-- No break comes from the node itself: from a name, from the pattern of a fragment, from the flags of a join,
or from a value where values are written into the text. -/
def Node.Unbroken (inlining : Bool) (n : Node) : Prop :=
  match n.expr with
  | .path p => p.Unbroken
  | .operation _ _ => True
  | .constant v => inlining = true → v.Unbroken
  | .param p => inlining = true → ∀ v ∈ innermost n.scopes p, v.Unbroken
  | .custom f _ => QueryText.Unbroken f.pattern.source
  | .subQuery q => ∀ j ∈ q.joins, ∀ f ∈ j.flags, QueryText.Unbroken f.before ∧ QueryText.Unbroken f.after

instance (inlining : Bool) : (n : Node) → Decidable (n.Unbroken inlining)
  | ⟨_, .path p⟩ => inferInstanceAs (Decidable p.Unbroken)
  | ⟨_, .operation _ _⟩ => .isTrue trivial
  | ⟨_, .constant v⟩ => inferInstanceAs (Decidable (inlining = true → v.Unbroken))
  | ⟨scopes, .param p⟩ =>
    inferInstanceAs (Decidable (inlining = true → ∀ v ∈ innermost scopes p, v.Unbroken))
  | ⟨_, .custom f _⟩ => inferInstanceAs (Decidable (QueryText.Unbroken f.pattern.source))
  | ⟨_, .subQuery q⟩ =>
    inferInstanceAs (Decidable (∀ j ∈ q.joins, ∀ f ∈ j.flags,
      QueryText.Unbroken f.before ∧ QueryText.Unbroken f.after))

namespace Expr

variable {inlining : Bool}

mutual

theorem operand_spaceable (scopes : List ParamMap) :
    (e : Expr) → (∀ n ∈ e.nodes scopes, n.Unbroken inlining) → e.operand.Spaceable inlining scopes
  | .path p, h => path_spaceable (h ⟨scopes, .path p⟩ (by simp [nodes]))
  | .constant v, h => constant_spaceable (h ⟨scopes, .constant v⟩ (by simp [nodes]))
  | .param p, h => param_spaceable (h ⟨scopes, .param p⟩ (by simp [nodes]))
  | .operation op args, h =>
    operation_spaceable op (operands_spaceable scopes args fun n hn => h n (by simp [nodes, hn]))
  | .custom f args, h =>
    custom_spaceable (h ⟨scopes, .custom f args⟩ (by simp [nodes]))
      (operands_spaceable scopes args fun n hn => h n (by simp [nodes, hn]))
  | .subQuery q, h => by
    have hq := selectOperands_spaceable scopes q (h ⟨scopes, .subQuery q⟩ (by simp [nodes]))
      fun n hn => h n (by simp [nodes, hn])
    rw [← Couplings.params_selectOperands] at hq
    exact subQuery_spaceable rfl (fun _ => rfl) hq

theorem operands_spaceable (scopes : List ParamMap) :
    (es : List Expr) → (∀ n ∈ nodesOfAll scopes es, n.Unbroken inlining) →
      ∀ o ∈ operands es, o.Spaceable inlining scopes
  | [], _ => nofun
  | e :: es, h =>
    List.forall_mem_cons.mpr
      ⟨operand_spaceable scopes e fun n hn => h n (by simp [nodesOfAll, hn]),
        operands_spaceable scopes es fun n hn => h n (by simp [nodesOfAll, hn])⟩

theorem optionOperand_spaceable (scopes : List ParamMap) :
    (o : Option Expr) → (∀ n ∈ nodesOfOption scopes o, n.Unbroken inlining) →
      ∀ a ∈ (optionOperand o).toList, a.Spaceable inlining scopes
  | none, _ => nofun
  | some e, h =>
    List.forall_mem_singleton.mpr
      (operand_spaceable scopes e fun n hn => h n (by simp [nodesOfOption, hn]))

theorem joinOperands_spaceable (scopes : List ParamMap) :
    (js : List (Join Expr)) →
      (∀ j ∈ js, ∀ f ∈ j.flags, QueryText.Unbroken f.before ∧ QueryText.Unbroken f.after) →
      (∀ n ∈ nodesOfJoins scopes js, n.Unbroken inlining) →
      ∀ j ∈ joinOperands js, SpaceableJoin inlining scopes j
  | [], _, _ => nofun
  | ⟨_, target, condition, _⟩ :: js, hf, h =>
    List.forall_mem_cons.mpr
      ⟨⟨operand_spaceable scopes target fun n hn => h n (by simp [nodesOfJoins, hn]),
        optionOperand_spaceable scopes condition fun n hn => h n (by simp [nodesOfJoins, hn]),
        hf _ List.mem_cons_self⟩,
        joinOperands_spaceable scopes js (fun j hj => hf j (List.mem_cons_of_mem _ hj)) fun n hn =>
          h n (by simp [nodesOfJoins, hn])⟩

theorem orderOperands_spaceable (scopes : List ParamMap) :
    (os : List (Order Expr)) → (∀ n ∈ nodesOfOrders scopes os, n.Unbroken inlining) →
      ∀ o ∈ orderOperands os, o.target.Spaceable inlining scopes
  | [], _ => nofun
  | ⟨target, _, _⟩ :: os, h =>
    List.forall_mem_cons.mpr
      ⟨operand_spaceable scopes target fun n hn => h n (by simp [nodesOfOrders, hn]),
        orderOperands_spaceable scopes os fun n hn => h n (by simp [nodesOfOrders, hn])⟩

theorem selectOperands_spaceable (scopes : List ParamMap) :
    (q : Select Expr) →
      (∀ j ∈ q.joins, ∀ f ∈ j.flags, QueryText.Unbroken f.before ∧ QueryText.Unbroken f.after) →
      (∀ n ∈ nodesOfSelect scopes q, n.Unbroken inlining) →
      SpaceableSelect inlining (q.params :: scopes) (selectOperands q)
  | ⟨joins, current, filter, having, groupBy, orderBy, projection, distinct, unique, window, params⟩, hf, h =>
    { joins := joinOperands_spaceable _ joins hf fun n hn => h n (by simp [nodesOfSelect, hn])
      filter := optionOperand_spaceable _ filter fun n hn => h n (by simp [nodesOfSelect, hn])
      having := optionOperand_spaceable _ having fun n hn => h n (by simp [nodesOfSelect, hn])
      groupBy := operands_spaceable _ groupBy fun n hn => h n (by simp [nodesOfSelect, hn])
      orderBy := orderOperands_spaceable _ orderBy fun n hn => h n (by simp [nodesOfSelect, hn])
      projection := operands_spaceable _ projection fun n hn => h n (by simp [nodesOfSelect, hn]) }

end

end Expr

namespace Render

theorem Chunk.textFrom_spaced {r : Rules} (hr : r.Spaceable) (slot : Nat) (cs : List Chunk) :
    textFrom r.onOneLine slot (cs.map spaced) = QueryText.spaced (textFrom r slot cs) := by
  induction cs generalizing slot with
  | nil => rfl
  | cons c cs ih =>
    cases c with
    | text s => rw [List.map_cons, spaced, textFrom, textFrom, ih, spaced_append]
    | slot b path =>
      have hplaceholder : r.onOneLine.placeholder slot = QueryText.spaced (r.placeholder slot) :=
        (spaced_eq_self (hr.placeholder slot)).symm
      rw [List.map_cons, spaced, textFrom, textFrom, ih, spaced_append, hplaceholder]

@[simp] theorem Chunk.bindings_spaced (cs : List Chunk) : bindings (cs.map spaced) = bindings cs := by
  induction cs with
  | nil => rfl
  | cons c cs ih => cases c <;> simp [bindings, spaced, ih]

@[simp] theorem Chunk.paths_spaced (cs : List Chunk) : paths (cs.map spaced) = paths cs := by
  induction cs with
  | nil => rfl
  | cons c cs ih => cases c <;> simp [paths, spaced, ih]

end Render

/-- The statement with its text on one line. -/
def WrittenStatement.onOneLine (s : WrittenStatement) : WrittenStatement :=
  { s with text := spaced s.text }

theorem WrittenStatement.ofChunks_spaced {r : Rules} (hr : r.Spaceable) (cs : List Chunk) :
    ofChunks r.onOneLine (cs.map Chunk.spaced) = (ofChunks r cs).onOneLine := by
  have htext := Chunk.textFrom_spaced hr 1 cs
  simp only [ofChunks, Chunk.fullText, htext, Chunk.bindings_spaced, Chunk.paths_spaced]
  rfl

def Config.onOneLine (c : Config) : Config :=
  { c with rules := c.rules.onOneLine }

/-- What is written of a query has the same values, and is refused for the same value that is missing. -/
theorem Select.writtenAs_onOneLine {q : Select Expr} {form : Form} (w : Window) {c : Config}
    (hr : c.rules.Spaceable) (h : Spaced (.of c.rules .resolving c.literals [q.params]) (q.write form)) :
    (q.writtenAs form w c.onOneLine).map (·.statement) =
      ((q.writtenAs form w c).map (·.statement)).map WrittenStatement.onOneLine := by
  have hwrite : q.write form (.of c.onOneLine.rules .resolving c.onOneLine.literals [q.params]) =
      Render.onOneLine (q.write form (.of c.rules .resolving c.literals [q.params])) := h
  rw [writtenAs_eq_bind, writtenAs_eq_bind, hwrite]
  cases q.write form (.of c.rules .resolving c.literals [q.params]) with
  | error e => rfl
  | ok cs =>
    have htext : Chunk.fullText c.onOneLine.rules (cs.map Chunk.spaced) = spaced (Chunk.fullText c.rules cs) :=
      Chunk.textFrom_spaced hr 1 cs
    simp only [Render.onOneLine, Except.map, Except.bind, WrittenQuery.ofChunks, htext, Chunk.bindings_spaced,
      Chunk.paths_spaced]
    cases WrittenQuery.values (Chunk.bindings cs) <;> rfl

namespace Change

/-- The same change, under the rules on one line. -/
def onOneLine : Change → Change
  | insert i => insert { i with config := i.config.onOneLine }
  | update u => update { u with config := u.config.onOneLine }
  | delete d => delete { d with config := d.config.onOneLine }

def subjects : Change → List Path
  | insert i => i.target :: i.columns
  | update u => u.target :: u.assignments.map (·.1)
  | delete d => [d.target]

/-- No break comes from the change. -/
structure Unbroken (ch : Change) : Prop where
  subjects : ∀ p ∈ ch.subjects, p.Unbroken
  nodes : ∀ n ∈ ch.nodes, n.Unbroken ch.config.literals

instance (ch : Change) : Decidable ch.Unbroken :=
  decidable_of_iff ((∀ p ∈ ch.subjects, p.Unbroken) ∧ ∀ n ∈ ch.nodes, n.Unbroken ch.config.literals)
    ⟨fun h => ⟨h.1, h.2⟩, fun h => ⟨h.subjects, h.nodes⟩⟩

theorem config_onOneLine (ch : Change) : ch.onOneLine.config = ch.config.onOneLine := by
  cases ch <;> rfl

theorem params_onOneLine (ch : Change) : ch.onOneLine.params = ch.params := by
  cases ch <;> rfl

theorem checked_onOneLine (ch : Change) : ch.onOneLine.checked = ch.checked := by
  cases ch <;> rfl

theorem write_onOneLine (ch : Change) (head : String × Entity) : ch.onOneLine.write head = ch.write head := by
  cases ch <;> rfl

theorem unbroken_keyword {r : Rules} (hr : r.Spaceable) {k : String}
    (hk : Insert.keyword r = .ok k ∨ Update.keyword r = .ok k) : QueryText.Unbroken k := by
  refine hr.keyword ?_
  obtain hk | hk := hk
  · unfold Insert.keyword at hk
    split at hk
    · next hword =>
      obtain rfl := Except.ok.inj hk
      simp [Keywords.toList, hword]
    · cases hk
  · unfold Update.keyword at hk
    split at hk
    · next hword =>
      obtain rfl := Except.ok.inj hk
      simp [Keywords.toList, hword]
    · cases hk

theorem unbroken_targetEntity {p : Path} {e : Entity} (hp : p.Unbroken)
    (he : Statement.targetEntity p = .ok e) : e.Unbroken := by
  unfold Statement.targetEntity at he
  split at he
  · next hroot => exact Except.ok.inj he ▸ hp.rootEntity hroot
  · cases he

theorem unbroken_checked {ch : Change} (hr : ch.config.rules.Spaceable) (h : ch.Unbroken)
    {head : String × Entity} (hhead : ch.checked = .ok head) :
    QueryText.Unbroken head.1 ∧ head.2.Unbroken := by
  have hsubjects := h.subjects
  cases ch with
  | insert i =>
    obtain ⟨htarget, -⟩ := List.forall_mem_cons.mp hsubjects
    obtain ⟨e, he, hhead⟩ := Except.bind_eq_ok_iff.mp hhead
    obtain ⟨k, hk, hhead⟩ := Except.bind_eq_ok_iff.mp hhead
    split at hhead
    · cases hhead
    · split at hhead
      · cases hhead
      · obtain rfl := Except.ok.inj hhead
        exact ⟨unbroken_keyword hr (.inl hk), unbroken_targetEntity htarget he⟩
  | update u =>
    obtain ⟨htarget, -⟩ := List.forall_mem_cons.mp hsubjects
    obtain ⟨e, he, hhead⟩ := Except.bind_eq_ok_iff.mp hhead
    obtain ⟨k, hk, hhead⟩ := Except.bind_eq_ok_iff.mp hhead
    split at hhead
    · cases hhead
    · obtain rfl := Except.ok.inj hhead
      exact ⟨unbroken_keyword hr (.inr hk), unbroken_targetEntity htarget he⟩
  | delete d =>
    obtain ⟨htarget, -⟩ := List.forall_mem_cons.mp hsubjects
    have hkeyword : some d.config.rules.keywords.deleteFrom ∈ d.config.rules.keywords.toList := by
      simp [Keywords.toList]
    obtain ⟨e, he, rfl⟩ := Except.map_eq_ok_iff.mp hhead
    exact ⟨hr.keyword hkeyword, unbroken_targetEntity htarget he⟩

end Change

section Changes

open Statement Operand

variable {inlining : Bool} {scopes : List ParamMap} {c : Context} (hc : c.Within inlining scopes)

include hc

theorem writeTable_spaces {e : Entity} (he : e.Unbroken) : Spaced c (writeTable e) := by
  unfold writeTable
  refine .append ?_ (.identifier hc.rules he.table)
  cases hs : e.schema with
  | none => exact .nothing
  | some s => exact (Spaces.identifier hc.rules (he.schema s hs)).append (.text (by decide))

theorem namedTarget_spaces {name : String} (hn : Unbroken name) {e : Entity} (he : e.Unbroken) :
    Spaced c (Statement.writeTarget name e) := by
  refine .byRules ?_
  have hsame : c.rules.onOneLine.grammar = c.rules.grammar := rfl
  rw [hsame]
  cases c.rules.grammar with
  | sql => exact writeTable_spaces hc he
  | jpql => exact .text ((he.simpleName.append (by decide)).append hn)
  | jdoql => exact .text he.typeName

theorem aboutTarget_spaces (target : Path) {w : Writer}
    (h : ∀ d : Context, d.Within inlining scopes → Spaced d w) : Spaced c (aboutTarget target w) := by
  have hgrammar : c.onOneLine.rules.grammar = c.rules.grammar := rfl
  unfold Spaced Spaces aboutTarget
  rw [hgrammar]
  split
  · exact h _ (hc.about c.compared (some target))
  · exact h c hc

theorem writeFilter_spaces {o : Option Expr} (h : ∀ e ∈ o.toList, e.operand.Spaceable inlining scopes) :
    Spaced c (writeFilter o) := by
  cases o with
  | none => exact .nothing
  | some e =>
    exact .clause hc.rules (·.filter) (hc.rules.keyword (by simp [Keywords.toList])) ((h e (by simp)).write hc)

theorem writeAssigned_spaces (column : Path) {e : Expr} (h : e.operand.Spaceable inlining scopes) :
    Spaced c (writeAssigned column e) :=
  h.write (hc.about (some column) c.candidate)

theorem insert_spaces {i : Insert} (hcolumns : ∀ p ∈ i.columns, p.Unbroken)
    (h : ∀ e ∈ i.values, e.operand.Spaceable inlining scopes) {k : String} (hk : Unbroken k) {e : Entity}
    (he : e.Unbroken) : Spaced c (i.write k e) := by
  have hnames : Spaced c (.separated ", " (i.columns.map fun p => .identifier p.name)) :=
    .separated (by decide) fun p hp => .identifier hc.rules (hcolumns p hp).name
  have hvalues : Spaced c (.separated ", " ((i.columns.zip i.values).map fun x => writeAssigned x.1 x.2)) :=
    .separated (by decide) fun x hx => writeAssigned_spaces hc x.1 (h x.2 (List.of_mem_zip hx).2)
  have hword : Unbroken (c.rules.keywords.values ++ " (") :=
    (hc.rules.keyword (by simp [Keywords.toList])).append (by decide)
  have hopen := Spaces.text (c := c) (s := " (") (by decide)
  have hclose := Spaces.text (c := c) (s := ")") (by decide)
  have hinto := (Spaces.text (c := c) (hk.append (by decide : Unbroken " "))).append (writeTable_spaces hc he)
  have hlist := ((hinto.append hopen).append hnames).append hclose
  have hvaluesOpen := Spaces.keywordText (fun ks => ks.values ++ " (") hword
  exact (((hlist.append (.clauseBreak hc.rules)).append hvaluesOpen).append hvalues).append hclose

theorem update_spaces {u : Update} (htarget : u.target.Unbroken) (hcolumns : ∀ a ∈ u.assignments, a.1.Unbroken)
    (ha : ∀ a ∈ u.assignments, a.2.operand.Spaceable inlining scopes)
    (hf : ∀ e ∈ u.filter.toList, e.operand.Spaceable inlining scopes) {k : String} (hk : Unbroken k)
    {e : Entity} (he : e.Unbroken) : Spaced c (u.write k e) := by
  have hassigned (d : Context) (hd : d.Within inlining scopes) :
      Spaced d (.separated ", " (u.assignments.map Update.writeAssignment)) := by
    refine .separated (by decide) fun a hm => ?_
    exact ((writePath_spaces hd (hcolumns a hm)).append (.text (by decide))).append
      (writeAssigned_spaces hd a.1 (ha a hm))
  refine .append (.append (.text (hk.append (by decide))) (namedTarget_spaces hc htarget.name he)) ?_
  refine aboutTarget_spaces hc u.target fun d hd => ?_
  have hword := hd.rules.keyword (s := d.rules.keywords.assign) (by simp [Keywords.toList])
  exact (Spaces.clause hd.rules (·.assign) hword (hassigned d hd)).append (writeFilter_spaces hd hf)

theorem delete_spaces {d : Delete} (htarget : d.target.Unbroken)
    (h : ∀ e ∈ d.filter.toList, e.operand.Spaceable inlining scopes) {e : Entity} (he : e.Unbroken) :
    Spaced c (d.write e) := by
  refine .append (.append ?_ ?_) ?_
  · exact .keyword hc.rules (·.deleteFrom) (by simp [Keywords.toList])
  · exact namedTarget_spaces hc htarget.name he
  · exact aboutTarget_spaces hc d.target fun _ hd => writeFilter_spaces hd h

theorem change_spaces {ch : Change} (hsubjects : ∀ p ∈ ch.subjects, p.Unbroken)
    (h : ∀ e ∈ ch.exprs, e.operand.Spaceable inlining scopes) {head : String × Entity}
    (hkeyword : Unbroken head.1) (hentity : head.2.Unbroken) : Spaced c (ch.write head) := by
  cases ch with
  | insert i =>
    obtain ⟨-, hcolumns⟩ := List.forall_mem_cons.mp hsubjects
    exact insert_spaces hc hcolumns h hkeyword hentity
  | update u =>
    obtain ⟨htarget, hcolumns⟩ := List.forall_mem_cons.mp hsubjects
    refine update_spaces hc htarget (fun a ha => hcolumns _ (List.mem_map_of_mem ha)) (fun a ha => h _ ?_)
      (fun e he => h e (List.mem_append_right _ he)) hkeyword hentity
    exact List.mem_append_left _ (List.mem_map_of_mem ha)
  | delete d =>
    obtain ⟨htarget, -⟩ := List.forall_mem_cons.mp hsubjects
    exact delete_spaces hc htarget h hentity

end Changes

namespace Request

/-- The same request, under the rules on one line. -/
def onOneLine : Request → Request
  | rows q c => rows q c.onOneLine
  | count q c => count q c.onOneLine
  | change ch => change ch.onOneLine

/-- No break comes from the request: not from a name, from a pattern of its own or from a flag, and not from a
value that is written into the text. -/
def Unbroken : Request → Prop
  | rows q c | count q c => ∀ n ∈ (Expr.subQuery q).nodes [], n.Unbroken c.literals
  | change ch => ch.Unbroken

instance : (a : Request) → Decidable a.Unbroken
  | rows q c | count q c =>
    inferInstanceAs (Decidable (∀ n ∈ (Expr.subQuery q).nodes [], n.Unbroken c.literals))
  | change ch => inferInstanceAs (Decidable ch.Unbroken)

theorem chunks_onOneLine {a : Request} (hr : a.config.rules.Derived) (h : a.Unbroken) :
    a.onOneLine.chunks = Render.onOneLine a.chunks := by
  have hquery {q : Select Expr} {c : Config} (hr : c.rules.Derived)
      (h : ∀ n ∈ (Expr.subQuery q).nodes [], n.Unbroken c.literals) (form : Form) :
      Spaced (.of c.rules .resolving c.literals [q.params]) (q.write form) := by
    have hall := List.forall_mem_cons.mp h
    have hq := Expr.selectOperands_spaceable [] q hall.1 hall.2
    exact write_spaces ⟨hr.spaceable, (by decide : Mode.resolving ≠ .preview), rfl, rfl⟩ hq form
  cases a with
  | rows q c => exact hquery hr h .rows
  | count q c => exact hquery hr h .count
  | change ch =>
    have hc : (Statement.context ch.config ch.params).Within ch.config.literals [ch.params] :=
      ⟨hr.spaceable, (by decide : Mode.deferring ≠ .preview), rfl, rfl⟩
    have hexprs : ∀ e ∈ ch.exprs, e.operand.Spaceable ch.config.literals [ch.params] := fun e he =>
      e.operand_spaceable [ch.params] fun n hn => h.nodes n (List.mem_flatMap_of_mem he hn)
    have hcontext : (change ch).onOneLine.context = (Statement.context ch.config ch.params).onOneLine := by
      simp only [onOneLine, context, ch.config_onOneLine, ch.params_onOneLine]
      rfl
    simp only [chunks, hcontext]
    simp only [onOneLine, ch.checked_onOneLine, ch.write_onOneLine]
    cases hhead : ch.checked with
    | error e => rfl
    | ok head =>
      obtain ⟨hkeyword, hentity⟩ := Change.unbroken_checked hr.spaceable h hhead
      exact change_spaces hc h.subjects hexprs hkeyword hentity

/-- On one line, a request fails where it failed, and otherwise it is sent with a blank in place of each break,
and with the same values at the same paths. -/
theorem written_onOneLine {a : Request} (hr : a.config.rules.Derived) (h : a.Unbroken) :
    a.onOneLine.written = a.written.map WrittenStatement.onOneLine := by
  have hchunks := chunks_onOneLine hr h
  cases a with
  | rows q c => exact Select.writtenAs_onOneLine q.window hr.spaceable hchunks
  | count q c => exact Select.writtenAs_onOneLine .unrestricted hr.spaceable hchunks
  | change ch =>
    simp only [onOneLine] at hchunks
    simp only [onOneLine, written, written_change, hchunks, ch.config_onOneLine]
    cases (change ch).chunks with
    | error e => rfl
    | ok cs => exact congrArg Except.ok (WrittenStatement.ofChunks_spaced hr.spaceable cs)

/-- The sides of a disjunction stand on lines of their own. -/
def stackedOr : Config :=
  .ofRules ((Rules.ofDialect .ansi).withOperator .or ⟨"\x7b0\x7d\nor\n\x7b1\x7d"⟩ (some 50))

theorem written_onOneLine_stackedOr :
    stackedOr.rules.Derived ∧ (rows (catsLike "Tom" [.int 1, .int 2]) stackedOr).Unbroken ∧
    ∃ s, (rows (catsLike "Tom" [.int 1, .int 2]) stackedOr).written = .ok s ∧
      s.text = "select cat.*\nfrom CAT cat\nwhere cat.name like ? escape '!'\nor\ncat.age in (?, ?)" ∧
      (rows (catsLike "Tom" [.int 1, .int 2]) stackedOr).onOneLine.written = .ok s.onOneLine ∧
      s.onOneLine.text =
        "select cat.* from CAT cat where cat.name like ? escape '!' or cat.age in (?, ?)" := by
  have hr : stackedOr.rules.Derived := .withOperator (.preset .ansi) _ _ _
  have h : (rows (catsLike "Tom" [.int 1, .int 2]) stackedOr).Unbroken := by decide +kernel
  exact ⟨hr, h, _, rfl, by decide +kernel, written_onOneLine hr h, by decide +kernel⟩

end Request

end QueryText
