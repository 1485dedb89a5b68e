import QueryText.Proofs.Places.Spots

namespace QueryText

open Render

namespace Select

def candidate? (q : Select Expr) : Option Path :=
  q.joins.head?.bind fun j => (Windowing.candidate? j.target).map (·.1)

/-- What the other joins of an object query declare. -/
def declaredVariables (q : Select Expr) : List Path :=
  match declarations q.joins.tail with
  | .ok (vs, _) => vs
  | .error _ => []

def sources (q : Select Expr) : List Path :=
  q.candidate?.toList ++ q.declaredVariables

/-- The sources whose names the query writes down, inside another query or not. -/
def named (nested : Bool) (q : Select Expr) : List Path :=
  if nested then q.sources else q.declaredVariables

/-- The clause of what is written that names the entity of the candidate, with its variable. -/
def WritesCandidate (q : Select Expr) (form : Form) (c : Context) (name : String) : Prop :=
  ∃ x e before after, q.candidate? = some x ∧ x.rootEntity? = some e ∧ x.name = name ∧
    q.write form c =
      .ok (before ++ [.text ("FROM " ++ e.typeName), .text (" " ++ name)] ++ after)

def WritesVariable (q : Select Expr) (form : Form) (c : Context) (name : String) : Prop :=
  ∃ v ∈ q.declaredVariables, v.name = name ∧ ∃ before after,
    q.write form c =
      .ok (before ++ [.text "VARIABLES ",
        .text (String.intercalate "; " (q.declaredVariables.map Query.declaration))] ++ after)

/-- The text of the query declares the name: behind the entity of its candidate, or in its list of
variables. -/
def Declares (q : Select Expr) (form : Form) (c : Context) (name : String) : Prop :=
  c.nested = true ∧ q.WritesCandidate form c name ∨ q.WritesVariable form c name

end Select

theorem Rules.Derived.declarations_jdoql {r : Rules} (h : r.Derived) (hg : r.grammar = .jdoql) :
    r.keywords.source = "FROM" ∧ r.keywords.variableList = some "VARIABLES" ∧ r.identifierQuote = none := by
  obtain ⟨d, hgrammar, hk, hq⟩ := h.eq_preset
  rw [hg] at hgrammar
  rw [hk, hq]
  cases d <;> first | exact ⟨rfl, rfl, rfl⟩ | cases hgrammar

namespace Render.Query

open Writer Operand

variable {q : Select Expr} {form : Form} {c : Context} {cs : List Chunk}

theorem unlimited_of_write (h : q.write form c = .ok cs) :
    ∃ xs ys, write form (q.map Expr.operand).unlimited c = .ok xs ∧ cs = xs ++ ys := by
  by_cases hf : form = .rows
  · subst hf
    rw [q.write_rows, q.unlimited.write_eq] at h
    obtain ⟨xs, ys, hxs, -, rfl⟩ := joined_ok h
    exact ⟨xs, ys, hxs, rfl⟩
  · rw [Select.write_eq] at h
    exact ⟨cs, [], by rw [Windowing.write_unlimited hf, h], by rw [List.append_nil]⟩

def variableList (vs : List Path) : List Chunk :=
  if vs = [] then []
  else [.text "VARIABLES ", .text (String.intercalate "; " (vs.map declaration))]

theorem variablesClause_ok (hv : c.rules.keywords.variableList = some "VARIABLES") {vs : List Path}
    {ys : List Chunk} (h : variablesClause vs c = .ok ys) : ∃ before, ys = before ++ variableList vs := by
  cases vs with
  | nil =>
    obtain rfl := Except.ok.inj h
    exact ⟨[], rfl⟩
  | cons v vs =>
    have hclause : variablesClause (v :: vs) c = .ok [.text c.rules.clauseBreak, .text "VARIABLES ",
        .text (String.intercalate "; " ((v :: vs).map declaration))] := by
      simp [variablesClause, clause, append_apply, clauseBreak, byRules, text, hv]
    rw [hclause] at h
    obtain rfl := Except.ok.inj h
    exact ⟨[.text c.rules.clauseBreak], rfl⟩

theorem writeDeclared_ok (hv : c.rules.keywords.variableList = some "VARIABLES") {first : Join Expr}
    {rest : List (Join Expr)} {o : Option Expr}
    (h : Windowing.PartsOf.writeDeclared (first.map Expr.operand) (rest.map (Join.map Expr.operand))
      (o.map Expr.operand) c = .ok cs) :
    ∃ vs conditions before, Select.declarations rest = .ok (vs, conditions) ∧
      cs = before ++ variableList vs := by
  rw [Windowing.PartsOf.writeDeclared_map] at h
  cases hvs : Select.declarations rest with
  | error k =>
    rw [hvs] at h
    cases h
  | ok declared =>
    obtain ⟨vs, conditions⟩ := declared
    rw [hvs] at h
    obtain ⟨filter, _, -, hlisted, rfl⟩ := append_ok h
    obtain ⟨before, rfl⟩ := variablesClause_ok hv hlisted
    exact ⟨vs, conditions, filter ++ before, rfl, by rw [List.append_assoc]⟩

theorem objectClauses_ok (hr : c.rules.Derived) (hg : c.rules.grammar = .jdoql) {name : String} {e : Entity}
    {first : Join Expr} {rest : List (Join Expr)}
    (h : objectClauses form (q.map Expr.operand).unlimited name e (first.map Expr.operand)
      (rest.map (Join.map Expr.operand)) c = .ok cs) :
    ∃ vs conditions head middle tail, Select.declarations rest = .ok (vs, conditions) ∧
      cs = head ++ [.text ("FROM " ++ e.typeName)] ++ (if c.nested then [.text (" " ++ name)] else []) ++
        middle ++ variableList vs ++ tail := by
  obtain ⟨hfrom, hlist, -⟩ := hr.declarations_jdoql hg
  rw [Windowing.PartsOf.objectClauses_map] at h
  obtain ⟨_, tail, hfront, -, rfl⟩ := append_ok h
  obtain ⟨_, _, hsources, hdeclared, rfl⟩ := append_ok hfront
  obtain ⟨_, named, hopening, hnamed, rfl⟩ := append_ok hsources
  obtain ⟨head, source, -, hsource, rfl⟩ := append_ok hopening
  obtain ⟨vs, conditions, middle, hvs, rfl⟩ := writeDeclared_ok hlist hdeclared
  have hsource : source = [.text ("FROM " ++ e.typeName)] := by
    simp only [byRules, text, hfrom] at hsource
    exact (Except.ok.inj hsource).symm
  have hnamed : named = if c.nested then [.text (" " ++ name)] else [] := by
    cases hn : c.nested <;> rw [hn] at hnamed <;> exact (Except.ok.inj hnamed).symm
  refine ⟨vs, conditions, head, middle, tail, hvs, ?_⟩
  simp only [hnamed, hsource, List.append_assoc]

theorem objectClauses_of_write (hg : c.rules.grammar = .jdoql)
    (h : write form (q.map Expr.operand).unlimited c = .ok cs) :
    ∃ first rest x e, q.joins = first :: rest ∧ Windowing.candidate? first.target = some (x, e) ∧
      objectClauses form (q.map Expr.operand).unlimited x.name e (first.map Expr.operand)
        (rest.map (Join.map Expr.operand)) (if c.nested then c else { c with candidate := some x }) =
          .ok cs := by
  simp only [write, byRules, hg] at h
  cases hq : q.joins with
  | nil =>
    rw [Windowing.writeObject_nil form hq] at h
    cases h
  | cons first rest =>
    rw [Windowing.writeObject_map form hq] at h
    cases hx : Windowing.candidate? first.target with
    | none =>
      rw [hx] at h
      cases h
    | some xe =>
      rw [hx] at h
      exact ⟨first, rest, xe.1, xe.2, rfl, hx, h⟩

theorem clauses_of_write (hr : c.rules.Derived) (hg : c.rules.grammar = .jdoql)
    (h : q.write form c = .ok cs) :
    ∃ x e head middle tail, q.candidate? = some x ∧ x.rootEntity? = some e ∧
      cs = head ++ [.text ("FROM " ++ e.typeName)] ++
        (if c.nested then [.text (" " ++ x.name)] else []) ++ middle ++ variableList q.declaredVariables ++
          tail := by
  obtain ⟨xs, window, hxs, rfl⟩ := unlimited_of_write h
  obtain ⟨first, rest, x, e, hq, hx, hclauses⟩ := objectClauses_of_write hg hxs
  have hcandidate : q.candidate? = some x := by simp [Select.candidate?, hq, hx]
  have hentity : x.rootEntity? = some e := (Windowing.candidate?_eq_some.mp hx).2
  generalize hd : (if c.nested then c else { c with candidate := some x }) = d at hclauses
  obtain ⟨hrules, hnested⟩ : d.rules = c.rules ∧ d.nested = c.nested := by
    rw [← hd]
    split <;> exact ⟨rfl, rfl⟩
  obtain ⟨vs, conditions, head, middle, tail, hvs, rfl⟩ :=
    objectClauses_ok (hrules ▸ hr) (hrules ▸ hg) hclauses
  have hv : q.declaredVariables = vs := by simp [Select.declaredVariables, hq, hvs]
  refine ⟨x, e, head, middle, tail ++ window, hcandidate, hentity, ?_⟩
  simp only [hv, hnested, List.append_assoc]

end Render.Query

namespace Select

variable {q : Select Expr} {form : Form} {c : Context} {cs : List Chunk} {x : Path} {name : String}

theorem exists_of_candidate? (h : q.candidate? = some x) :
    ∃ first rest e, q.joins = first :: rest ∧ Windowing.candidate? first.target = some (x, e) := by
  obtain ⟨first, hfirst, h⟩ := Option.bind_eq_some_iff.mp h
  obtain ⟨⟨_, e⟩, htarget, rfl⟩ := Option.map_eq_some_iff.mp h
  obtain ⟨rest, hjoins⟩ := List.head?_eq_some_iff.mp hfirst
  exact ⟨first, rest, e, hjoins, htarget⟩

theorem isRoot_of_candidate? (h : q.candidate? = some x) : x.isRoot = true := by
  obtain ⟨_, _, _, -, htarget⟩ := exists_of_candidate? h
  have hentity := (Windowing.candidate?_eq_some.mp htarget).2
  cases x with
  | root n k => rfl
  | child _ _ _ _ => cases hentity

theorem ownContext_of_candidate? (hg : c.rules.grammar = .jdoql) (hn : c.nested = false)
    (h : q.candidate? = some x) : q.ownContext c = { c with candidate := some x } := by
  obtain ⟨_, _, _, hjoins, htarget⟩ := exists_of_candidate? h
  rw [Windowing.ownContext_candidate hg hjoins htarget, hn]
  rfl

theorem declaredVariables_subset_named (nested : Bool) : q.declaredVariables ⊆ q.named nested := by
  cases nested with
  | false => exact fun _ hv => hv
  | true => exact fun _ hv => List.mem_append_right _ hv

theorem declares_of_named (hr : c.rules.Derived) (hg : c.rules.grammar = .jdoql)
    (h : q.write form c = .ok cs) (hx : x ∈ q.named c.nested) : q.Declares form c x.name := by
  obtain ⟨y, e, head, middle, tail, hy, he, hcs⟩ := Query.clauses_of_write hr hg h
  by_cases hv : x ∈ q.declaredVariables
  · have hne : q.declaredVariables ≠ [] := List.ne_nil_of_mem hv
    rw [Query.variableList, if_neg hne] at hcs
    exact .inr ⟨x, hv, rfl, _, _, h.trans (congrArg Except.ok hcs)⟩
  · cases hn : c.nested with
    | false =>
      rw [hn] at hx
      exact absurd hx hv
    | true =>
      rw [hn] at hx
      have hxy : y = x := by
        obtain hx | hx := List.mem_append.mp hx
        · rw [hy] at hx
          exact (List.mem_singleton.mp hx).symm
        · exact absurd hx hv
      subst hxy
      rw [if_pos hn] at hcs
      refine .inl ⟨hn, y, e, head, middle ++ Query.variableList q.declaredVariables ++ tail, hy, he, rfl,
        h.trans (congrArg Except.ok ?_)⟩
      simp only [hcs, List.append_assoc, List.cons_append, List.nil_append]

theorem exists_named_of_declares (h : q.Declares form c name) : ∃ x ∈ q.named c.nested, x.name = name := by
  obtain ⟨hn, x, _, _, _, hx, -, hname, -⟩ | ⟨v, hv, hname, -⟩ := h
  · refine ⟨x, ?_, hname⟩
    rw [hn, named, if_pos rfl, sources, hx]
    exact List.mem_append_left _ List.mem_cons_self
  · exact ⟨v, declaredVariables_subset_named _ hv, hname⟩

end Select

end QueryText
