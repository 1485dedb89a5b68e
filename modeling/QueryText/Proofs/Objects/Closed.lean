import QueryText.Proofs.Objects.Declared
import QueryText.Proofs.Places.Pagination

namespace QueryText

open Render Operand

theorem Path.isRoot_rootVariable (p : Path) : p.rootVariable.isRoot = true := by
  induction p with
  | root n k => rfl
  | child _ _ _ _ ih => exact ih

theorem Render.Operand.pathText_eq_root {c : Context} (hb : c.bareColumns = false) (p : Path) :
    ∃ below, pathText c p = pathText c p.rootVariable ++ below := by
  induction p with
  | root n k => exact ⟨"", by rw [String.append_empty]; rfl⟩
  | child p n r k ih =>
    obtain ⟨below, hp⟩ := ih
    refine ⟨below ++ "." ++ c.rules.identifier n, ?_⟩
    simp [pathText, hb, hp, Path.rootVariable, String.append_assoc]

namespace Expr

variable {e : Expr} {c : Context}

theorem spot?_append (is js : List Nat) (c : Context) (e : Expr) :
    e.spot? (is ++ js) c = (e.spot? is c).bind fun s =>
      (s.expr.spot? js s.context).map fun t => { t with around := t.around ++ s.around } := by
  induction is generalizing c e with
  | nil => simp [spot?]
  | cons i is ih =>
    simp only [List.cons_append, spot?, ih]
    cases e.part? c i with
    | none => rfl
    | some x =>
      simp only [Option.bind_some]
      cases x.1.spot? is x.2 with
      | none => rfl
      | some s =>
        simp only [Option.bind_some, Option.map_some, Option.map_map]
        congr 1
        funext t
        simp [List.append_assoc]

end Expr

theorem Select.spot?_append (form : Form) (c : Context) (q : Select Expr) {is : List Nat} (hne : is ≠ [])
    (js : List Nat) : q.spot? form c (is ++ js) = (q.spot? form c is).bind fun s =>
      (s.expr.spot? js s.context).map fun t => { t with around := t.around ++ s.around } := by
  match is with
  | i :: is =>
    simp only [List.cons_append, spot?, Expr.spot?_append]
    cases (q.parts form c.rules)[i]? <;> rfl

namespace Request

/-- The query that is sent, for its rows or for their number. -/
def query? : Request → Option (Select Expr × Form)
  | rows q _ => some (q, .rows)
  | count q _ => some (q, .count)
  | change _ => none

/-- A query that an address is in, with the form and the context that it is written in. -/
inductive Encloses (a : Request) : List Nat → Select Expr → Form → Context → Prop where
  | outermost {q : Select Expr} {form : Form} (h : a.query? = some (q, form)) (is : List Nat) :
      Encloses a is q form a.context
  | subQuery {is : List Nat} {q : Select Expr} {c : Context} (h : a.subQuery? is = some (q, c)) (i : Nat)
      (js : List Nat) : Encloses a (is ++ i :: js) q .rows (c.inside q.params)

/-- A root that is a source of a query around that address. -/
def InScope (a : Request) (is : List Nat) (x : Path) : Prop :=
  x.isRoot = true ∧ ∃ q form c, a.Encloses is q form c ∧ x ∈ q.sources

/-- A source whose name a query around that address writes down. -/
def Named (a : Request) (is : List Nat) (x : Path) : Prop :=
  ∃ q form c, a.Encloses is q form c ∧ x ∈ q.named c.nested

/-- Every path starts from a source of a query around it. -/
def Scoped (a : Request) : Prop :=
  ∀ is s p, a.spot? is = some s → s.expr = .path p → a.InScope is p.rootVariable

/-- What a root may be called: `this` for the outermost candidate, or whatever the text of a query around
it declares. -/
inductive Meant (a : Request) (is : List Nat) (x : Path) : String → Prop where
  | candidate {q : Select Expr} {form : Form} (h : a.query? = some (q, form)) (hx : q.candidate? = some x) :
      Meant a is x "this"
  | declared {q : Select Expr} {form : Form} {c : Context} {name : String} (h : a.Encloses is q form c)
      (hname : q.Declares form c name) : Meant a is x name

def WritesRoot (a : Request) (s : Spot) (p : Path) (name : String) : Prop :=
  pathText s.context p.rootVariable = name ∧ ∃ before below after,
    a.chunks = .ok (before ++ [.text (name ++ below)] ++ after) ∧ pathText s.context p = name ++ below

/-- Every root is written by a name with a meaning, and sources that are told apart by their names are
told apart in the text. -/
structure Closed (a : Request) : Prop where
  meant : ∀ is s p, a.spot? is = some s → s.expr = .path p →
    ∃ name, a.WritesRoot s p name ∧ a.Meant is p.rootVariable name
  apart : ∀ is s x y, a.spot? is = some s → a.InScope is x → a.InScope is y →
    pathText s.context x = pathText s.context y → x.name = y.name

/-- Sub-queries refer to the candidate of that query only where its name is declared otherwise, as that of
another source. -/
def CandidateNamed (a : Request) (q : Select Expr) : Prop :=
  ∀ is s p, a.spot? is = some s → s.expr = .path p → s.around ≠ [] →
    q.candidate? = some p.rootVariable →
    p.rootVariable.name = "this" ∨ ∃ x, a.Named is x ∧ x.name = p.rootVariable.name

/-- No variable of that query is called `this`, unless the candidate is called so, too. -/
def ThisApart (a : Request) (q : Select Expr) : Prop :=
  ∀ is s x y, a.spot? is = some s → s.around = [] → q.candidate? = some x → y ∈ q.declaredVariables →
    y.isRoot = true → y.name = "this" → x.name = "this"

variable {a : Request} {is : List Nat} {s : Spot} {q : Select Expr} {form : Form} {c : Context}
  {w : WrittenStatement} {x y p : Path}

theorem spot?_of_query (h : a.query? = some (q, form)) : a.spot? is = q.spot? form a.context is := by
  cases a with
  | rows q' cfg | count q' cfg =>
    obtain ⟨rfl, rfl⟩ := Prod.mk.inj (Option.some.inj h)
    rfl
  | change ch => cases h

theorem chunks_of_query (h : a.query? = some (q, form)) : a.chunks = q.write form a.context := by
  cases a with
  | rows q' cfg | count q' cfg =>
    obtain ⟨rfl, rfl⟩ := Prod.mk.inj (Option.some.inj h)
    rfl
  | change ch => cases h

theorem context_of_query (h : a.query? = some (q, form)) :
    a.context = .of a.config.rules .resolving a.config.literals [q.params] := by
  cases a with
  | rows q' cfg | count q' cfg =>
    obtain ⟨rfl, rfl⟩ := Prod.mk.inj (Option.some.inj h)
    rfl
  | change ch => cases h

namespace Encloses

theorem stands (h : a.Encloses is q form c) (hw : a.written = .ok w) :
    c.rules = a.config.rules ∧ ∃ before cs after, a.chunks = .ok (before ++ cs ++ after) ∧
      q.write form c = .ok cs := by
  obtain ⟨all, hall, -⟩ := written_chunks hw
  cases h with
  | outermost h is =>
    refine ⟨a.rules_context, [], all, [], by rw [List.append_nil, hall]; rfl, ?_⟩
    rw [← chunks_of_query h, hall]
  | @subQuery js q c h i ks =>
    obtain ⟨hrules, before, inside, after, hinside, rfl⟩ := inside_of_subQuery? hall h
    rw [Windowing.write_subQuery, Writer.parenthesized, append_apply, append_apply] at hinside
    obtain ⟨_, right, hopen, -, rfl⟩ := joined_ok hinside
    obtain ⟨left, rows, -, hrows, rfl⟩ := joined_ok hopen
    refine ⟨hrules, before ++ left, rows, right ++ after, ?_, hrows⟩
    rw [hall]
    simp only [List.append_assoc]

end Encloses

section Query

variable (hr : a.config.rules.Derived) (hg : a.config.rules.grammar = .jdoql)
  (hq : a.query? = some (q, form)) (hw : a.written = .ok w)

include hq

theorem nested_outermost : a.context.nested = false := by
  rw [context_of_query hq]
  rfl

theorem encloses_cases {q' : Select Expr} {form' : Form} {c : Context} (hs : a.spot? is = some s)
    (h : a.Encloses is q' form' c) : (q' = q ∧ c = a.context) ∨ (q' ∈ s.around ∧ c.nested = true) := by
  cases h with
  | outermost h is =>
    obtain ⟨rfl, rfl⟩ := Prod.mk.inj (Option.some.inj (h.symm.trans hq))
    exact .inl ⟨rfl, rfl⟩
  | @subQuery js q' c h i ks =>
    obtain ⟨t, ht, hexpr, -⟩ := subQuery?_iff.mp h
    rw [spot?_of_query hq] at hs ht
    have hne : js ≠ [] := by
      rintro rfl
      cases ht
    rw [q.spot?_append form a.context hne, ht, Option.bind_some, hexpr] at hs
    obtain ⟨u, hu, rfl⟩ := Option.map_eq_some_iff.mp hs
    obtain ⟨⟨e, d⟩, -, hv⟩ := Option.bind_eq_some_iff.mp hu
    obtain ⟨v, -, rfl⟩ := Option.map_eq_some_iff.mp hv
    exact .inr ⟨List.mem_append_left _ (List.mem_append_right _ List.mem_cons_self), rfl⟩

theorem named_or_candidate (h : a.InScope is x) : a.Named is x ∨ q.candidate? = some x := by
  obtain ⟨-, q', form', c, hencloses, hx⟩ := h
  cases hencloses with
  | subQuery h i js => exact .inl ⟨_, _, _, .subQuery h i js, hx⟩
  | outermost h is =>
    obtain ⟨rfl, rfl⟩ := Prod.mk.inj (Option.some.inj (h.symm.trans hq))
    obtain hx | hx := List.mem_append.mp hx
    · exact .inr (Option.mem_toList.mp hx)
    · exact .inl ⟨_, _, _, .outermost h is, Select.declaredVariables_subset_named _ hx⟩

include hw

theorem writesRoot (hs : a.spot? is = some s) (hp : s.expr = .path p) :
    a.WritesRoot s p (pathText s.context p.rootVariable) := by
  obtain ⟨all, hall, -⟩ := written_chunks hw
  obtain ⟨_, before, inside, after, hinside, rfl⟩ := inside_of_spot? hall hs
  rw [hp] at hinside
  have hbare : s.context.bareColumns = false := by
    rw [spot?_of_query hq] at hs
    obtain ⟨_, hown⟩ := q.ownContext_eq (c := a.context)
    rw [(Select.leads_of_spot? hs).bareColumns, hown, context_of_query hq]
    rfl
  obtain ⟨below, hbelow⟩ := pathText_eq_root hbare p
  refine ⟨rfl, before, below, after, ?_, hbelow⟩
  have hpath : inside = [.text (pathText s.context p)] := by
    change writePath p s.context = .ok inside at hinside
    exact (writePath_ok_iff.mp hinside).2
  rw [hall, hpath, hbelow, List.append_assoc]

include hr hg

theorem exists_candidate : ∃ x, q.candidate? = some x := by
  obtain ⟨cs, hcs, -⟩ := written_chunks hw
  rw [chunks_of_query hq] at hcs
  obtain ⟨x, _, _, _, _, hx, -⟩ :=
    Query.clauses_of_write (c := a.context) (a.rules_context ▸ hr) (a.rules_context ▸ hg) hcs
  exact ⟨x, hx⟩

theorem pathText_spot (hs : a.spot? is = some s) (hx : x.isRoot = true) :
    pathText s.context x = if s.around = [] ∧ q.candidate? = some x then "this" else x.name := by
  obtain ⟨y, hy⟩ := exists_candidate hr hg hq hw
  rw [spot?_of_query hq] at hs
  have hleads := Select.leads_of_spot? hs
  have hown := Select.ownContext_of_candidate? (c := a.context) (a.rules_context ▸ hg) (nested_outermost hq) hy
  rw [hown] at hleads
  have hrules : s.context.rules = a.config.rules := hleads.rules.trans a.rules_context
  have hquote : s.context.rules.identifierQuote = none := by
    rw [hrules]
    exact (hr.declarations_jdoql hg).2.2
  have hcandidate : s.context.candidate = if s.around = [] then some y else none := hleads.candidate
  cases x with
  | child _ _ _ _ => cases hx
  | root n k =>
    simp only [pathText, hcandidate, hy, Rules.identifier, hquote, Path.name]
    by_cases haround : s.around = [] <;> simp [haround]

omit hq in
theorem meant_of_named (h : a.Named is y) (x : Path) : a.Meant is x y.name := by
  obtain ⟨q', form', c, hencloses, hy⟩ := h
  obtain ⟨hrules, _, cs, _, -, hcs⟩ := hencloses.stands hw
  exact .declared hencloses (Select.declares_of_named (hrules ▸ hr) (hrules ▸ hg) hcs hy)

theorem candidateNamed_of_closed (h : a.Closed) : a.CandidateNamed q := by
  intro is s p hs hp haround hcandidate
  obtain ⟨name, hroot, hmeant⟩ := h.meant is s p hs hp
  have hname : p.rootVariable.name = name := by
    rw [← hroot.1, pathText_spot hr hg hq hw hs p.isRoot_rootVariable, if_neg fun h => haround h.1]
  cases hmeant with
  | candidate _ _ => exact .inl hname
  | declared hencloses hdeclares =>
    obtain ⟨x, hx, hxname⟩ := Select.exists_named_of_declares hdeclares
    exact .inr ⟨x, ⟨_, _, _, hencloses, hx⟩, hxname.trans hname.symm⟩

theorem thisApart_of_closed (h : a.Closed) : a.ThisApart q := by
  intro is s x y hs haround hx hy hroot hthis
  have hxroot := Select.isRoot_of_candidate? hx
  have hencloses := Encloses.outermost hq is
  have hsame : pathText s.context x = pathText s.context y := by
    rw [pathText_spot hr hg hq hw hs hxroot, pathText_spot hr hg hq hw hs hroot, if_pos ⟨haround, hx⟩,
      hthis, ite_self]
  have hname := h.apart is s x y hs
    ⟨hxroot, _, _, _, hencloses, List.mem_append_left _ (Option.mem_toList.mpr hx)⟩
    ⟨hroot, _, _, _, hencloses, List.mem_append_right _ hy⟩ hsame
  exact hname.trans hthis

theorem meant_of_candidateNamed (h : a.CandidateNamed q) (hs : a.spot? is = some s) (hp : s.expr = .path p)
    (hscope : a.InScope is p.rootVariable) : ∃ name, a.WritesRoot s p name ∧ a.Meant is p.rootVariable name := by
  refine ⟨_, writesRoot hq hw hs hp, ?_⟩
  rw [pathText_spot hr hg hq hw hs p.isRoot_rootVariable]
  split
  · next hthis => exact .candidate hq hthis.2
  · next hname =>
    obtain hnamed | hcandidate := named_or_candidate hq hscope
    · exact meant_of_named hr hg hw hnamed _
    · have haround : s.around ≠ [] := fun haround => hname ⟨haround, hcandidate⟩
      obtain hthis | ⟨x, hx, hx'⟩ := h is s p hs hp haround hcandidate
      · exact hthis ▸ .candidate hq hcandidate
      · exact hx' ▸ meant_of_named hr hg hw hx _

omit hr hg hw in
theorem name_eq_this (h : a.ThisApart q) (hs : a.spot? is = some s) (haround : s.around = [])
    (hx : q.candidate? = some x) (hy : a.InScope is y) (hthis : y.name = "this") : x.name = "this" := by
  obtain ⟨hroot, q', form', c, hencloses, hsource⟩ := hy
  obtain ⟨rfl, -⟩ | ⟨hq', -⟩ := encloses_cases hq hs hencloses
  · obtain hsource | hsource := List.mem_append.mp hsource
    · obtain rfl := Option.some.inj (hx.symm.trans (Option.mem_toList.mp hsource))
      exact hthis
    · exact h is s x y hs haround hx hsource hroot hthis
  · rw [haround] at hq'
    cases hq'

theorem apart_of_thisApart (h : a.ThisApart q) (hs : a.spot? is = some s) (hx : a.InScope is x)
    (hy : a.InScope is y) (hsame : pathText s.context x = pathText s.context y) : x.name = y.name := by
  rw [pathText_spot hr hg hq hw hs hx.1, pathText_spot hr hg hq hw hs hy.1] at hsame
  split at hsame
  · next hxthis =>
    split at hsame
    · next hythis => rw [Option.some.inj (hxthis.2.symm.trans hythis.2)]
    · next => rw [name_eq_this hq h hs hxthis.1 hxthis.2 hy hsame.symm, hsame]
  · next =>
    split at hsame
    · next hythis => rw [name_eq_this hq h hs hythis.1 hythis.2 hx hsame, hsame]
    · next => exact hsame

end Query

/-- A query is closed, but for two things: a sub-query that refers to the candidate outside of it by a name
that is declared nowhere, and a variable that is called `this` beside the candidate. -/
theorem closed_iff (hr : a.config.rules.Derived) (hg : a.config.rules.grammar = .jdoql)
    (hq : a.query? = some (q, form)) (hw : a.written = .ok w) (hs : a.Scoped) :
    a.Closed ↔ a.CandidateNamed q ∧ a.ThisApart q := by
  constructor
  · intro h
    exact ⟨candidateNamed_of_closed hr hg hq hw h, thisApart_of_closed hr hg hq hw h⟩
  · rintro ⟨hnamed, hthis⟩
    exact
      { meant := fun is s p hspot hp =>
          meant_of_candidateNamed hr hg hq hw hnamed hspot hp (hs is s p hspot hp)
        apart := fun is s x y hspot hx hy hsame =>
          apart_of_thisApart hr hg hq hw hthis hspot hx hy hsame }

end Request

section Cats

def tom : Path :=
  .source (.ofType "Cat") "cat"

def mate : Path :=
  .source (.ofType "Cat") "mate"

def productsWhile (x : Path) : Select Expr :=
  { Select.empty with
    joins := [.of .plain (.path (.source (.ofType "Product") "product"))]
    filter := some (.path (x.property "alive" .bool)) }

def tomsAmong (x : Path) : Select Expr :=
  { Select.empty with
    joins := [.of .plain (.path tom), .of .plain (.path mate)]
    filter := some (.operation .isIn [.path (tom.property "id" .int), .subQuery (productsWhile x)]) }

def tomsWhile (x : Path) : Request :=
  .rows (tomsAmong x) (.ofDialect .jdoql)

theorem spots_tomsWhile {x : Path} {is : List Nat} {s : Spot} {p : Path}
    (h : (tomsWhile x).spot? is = some s) (hp : s.expr = .path p) :
    (is = [0, 0, 0] ∧ p = x.property "alive" .bool ∧ s.around = [productsWhile x]) ∨
      (is = [0, 2] ∧ p = tom.property "id" .int ∧ s.around = []) := by
  match is, h with
  | [0], h =>
    obtain rfl := Option.some.inj h
    cases hp
  | 0 :: 0 :: [], h =>
    obtain rfl := Option.some.inj h
    cases hp
  | [0, 0, 0], h =>
    obtain rfl := Option.some.inj h
    cases hp
    exact .inl ⟨rfl, rfl, rfl⟩
  | 0 :: 0 :: 0 :: _ :: _, h => cases h
  | 0 :: 0 :: (_ + 1) :: _, h => cases h
  | 0 :: 1 :: _, h => cases h
  | [0, 2], h =>
    obtain rfl := Option.some.inj h
    cases hp
    exact .inr ⟨rfl, rfl, rfl⟩
  | 0 :: 2 :: _ :: _, h => cases h
  | 0 :: 3 :: _, h => cases h
  | 0 :: (_ + 4) :: _, h => cases h
  | (_ + 1) :: _, h => cases h

theorem scoped_tomsWhile {x : Path} (hx : x = tom ∨ x = mate) : (tomsWhile x).Scoped := by
  intro is s p hs hp
  have hencloses := Request.Encloses.outermost (a := tomsWhile x) (q := tomsAmong x) rfl is
  obtain ⟨rfl, rfl, -⟩ | ⟨rfl, rfl, -⟩ := spots_tomsWhile hs hp
  · obtain rfl | rfl := hx
    · exact ⟨rfl, _, _, _, hencloses, by decide⟩
    · exact ⟨rfl, _, _, _, hencloses, by decide⟩
  · exact ⟨rfl, _, _, _, hencloses, List.mem_cons_self⟩

/-- A sub-query may refer to a variable. -/
theorem Request.closed_iff_mate : ∃ w, (tomsWhile mate).written = .ok w ∧
    w.text = "FROM Cat\nWHERE (FROM Product product\nWHERE mate.alive).contains(this.id)\n" ++
      "VARIABLES Cat mate" ∧
    (tomsWhile mate).Closed := by
  refine ⟨_, rfl, by decide +kernel, ?_⟩
  refine (Request.closed_iff (a := tomsWhile mate) (q := tomsAmong mate) (.preset .jdoql) rfl rfl rfl
    (scoped_tomsWhile (.inr rfl))).mpr ⟨?_, ?_⟩
  · intro is s p hs hp haround hcandidate
    obtain ⟨rfl, rfl, -⟩ | ⟨-, -, hnone⟩ := spots_tomsWhile hs hp
    · exact absurd hcandidate (by decide)
    · exact absurd hnone haround
  · intro is s x y _ _ _ hy _ hthis
    obtain rfl : y = mate := List.mem_singleton.mp hy
    exact absurd hthis (by decide)

/-- The candidate has no name that a sub-query could refer to. -/
theorem tomsWhile_not_closed : ∃ w, (tomsWhile tom).written = .ok w ∧
    w.text = "FROM Cat\nWHERE (FROM Product product\nWHERE cat.alive).contains(this.id)\n" ++
      "VARIABLES Cat mate" ∧
    (tomsWhile tom).Scoped ∧ ¬ (tomsWhile tom).Closed := by
  refine ⟨_, rfl, by decide +kernel, scoped_tomsWhile (.inl rfl), fun h => ?_⟩
  have hs : (tomsWhile tom).spot? [0, 0, 0] = some ⟨.path (tom.property "alive" .bool), _, [productsWhile tom]⟩ :=
    rfl
  have hnamed := Request.candidateNamed_of_closed (a := tomsWhile tom) (q := tomsAmong tom) (.preset .jdoql) rfl rfl rfl h
  obtain hthis | ⟨x, ⟨q, form, c, hencloses, hx⟩, hname⟩ := hnamed _ _ _ hs rfl (by decide) rfl
  · exact absurd hthis (by decide)
  · obtain ⟨rfl, rfl⟩ | ⟨hq, hnested⟩ :=
      Request.encloses_cases (a := tomsWhile tom) (q := tomsAmong tom) rfl hs hencloses
    · obtain rfl : x = mate := List.mem_singleton.mp hx
      exact absurd hname (by decide)
    · obtain rfl := List.mem_singleton.mp hq
      rw [hnested] at hx
      obtain rfl := List.mem_singleton.mp hx
      exact absurd hname (by decide)

end Cats

end QueryText
